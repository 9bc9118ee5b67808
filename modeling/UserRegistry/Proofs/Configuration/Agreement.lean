import UserRegistry.Proofs.Configuration.Precedence

/-!
# A document read directly and through the layers

A document can be read as it stands, where every value is taken for what it is, or loaded as the
only layer, where it is put onto the name of the environment and values are converted. Where the
first gives settings with a filter, the second gives the same settings (`start_direct`).

The two ways are compared reader by reader. `Agrees` says of one value, and `MembersAgree` of the
fields of a record, that whatever the direct way reads the layers read as well; a record agrees if
its fields do. A field agrees because the layers take each value of the right kind for what it is
(`Follows`), and because what was there before the document is what the field is by default.
-/

namespace UserRegistry

namespace Toml

/-! ## Fields of a document -/

/-- The value of a field: a value that was found, read as what the field holds, or else the
default. -/
def valueOf (raw : Option Value) (r : Reader α) (default : α) : Option α :=
  match raw with
  | none => some default
  | some v => r v

/-- One optional field of a table is read. Its default is what the record holds already. -/
theorem readMembers_optional {put : β → α → α} {default : β} {value : α}
    (h : put default value = value) (ms : List (String × Value)) (name : String) (r : Reader β)
    (fs : List (Field Reader α)) :
    readMembers ms (.optional name r put :: fs) value =
      (valueOf (ms.lookup name) r default).bind fun b => readMembers ms fs (put b value) := by
  rw [readMembers]
  cases hname : ms.lookup name with
  | none =>
    simp only [Field.optional, hname, valueOf, Bool.false_eq_true, if_false]
    exact congrArg (readMembers ms fs) h.symm
  | some v =>
    simp only [Field.optional, hname, valueOf, Format.map, Reader.map]
    cases r v <;> rfl

theorem readMembers_nil {fs : List (Field Reader α)} (h : ∀ f ∈ fs, f.required = false)
    (value : α) : readMembers [] fs value = some value := by
  induction fs with
  | nil => rfl
  | cons f fs ih =>
    rw [readMembers, List.lookup_nil]
    simp only [h f (by simp), Bool.false_eq_true, if_false]
    exact ih fun g hg => h g (List.mem_cons_of_mem _ hg)

/-- A section that is not there is read like one without members. -/
theorem valueOf_record {raw : Option Value} (hraw : ∀ x, raw = some x → x.isTable = true)
    {r : Record Reader α} (h : ∀ f ∈ r.fields, f.required = false) :
    valueOf raw (Format.record r) r.blank =
      readMembers ((raw.map Value.members).getD []) r.fields r.blank := by
  cases raw with
  | none => exact (readMembers_nil h r.blank).symm
  | some x =>
    cases x with
    | table ms => rfl
    | _ => cases hraw _ rfl

theorem lookup_section (d : Value) (s f : String) :
    (((d.member? s).map Value.members).getD []).lookup f = d.at? s f := by
  rw [Value.at?]
  cases d.member? s <;> rfl

theorem isTable_of_parse {text : String} {d : Value} (h : parse text = some d) :
    d.isTable = true := by
  obtain ⟨sts, -, h⟩ := Option.bind_eq_some_iff.1 h
  obtain ⟨ms, -, rfl⟩ := Option.map_eq_some_iff.1 h
  rfl

theorem read_eq_ok {r : Reader α} {text : String} {a : α} (h : read r text = .ok a) :
    ∃ d, parse text = some d ∧ r d = some a := by
  unfold read at h
  split at h
  · rename_i b hb
    obtain rfl := Except.ok.inj h
    exact Option.bind_eq_some_iff.1 hb
  · cases h

end Toml

namespace Layers

/-! ## Agreement of two readers -/

/-- What is read directly from one value is read from the other as well, whatever its key. -/
def Agrees (raw : Option Toml.Value) (raw' : Option Tree) (r : Toml.Reader α) (r' : Tree.Reader α)
    (default : α) : Prop :=
  ∀ a, Toml.valueOf raw r default = some a → ∀ key, valueOf raw' key r' default = .ok a

/-- What is read directly as the fields of a record is read from the other members as well. -/
def MembersAgree (ms : List (String × Toml.Value)) (ms' : List (String × Tree))
    (fs : List (Field Toml.Reader α)) (fs' : List (Field Tree.Reader α)) (value : α) : Prop :=
  ∀ a, Toml.readMembers ms fs value = some a → ∀ key, Tree.readMembers key ms' fs' value = .ok a

section
variable {ms : List (String × Toml.Value)} {ms' : List (String × Tree)}

theorem MembersAgree.nil (value : α) : MembersAgree ms ms' [] [] value := by
  intro a ha key
  obtain rfl := Option.some.inj ha
  rfl

/-- Members agree if they agree on the first field and, whatever it is, on the others. -/
theorem MembersAgree.optional {put : β → α → α} {default : β} {value : α}
    (hput : put default value = value) {name : String} {r : Toml.Reader β} {r' : Tree.Reader β}
    (hfield : Agrees (ms.lookup name) (ms'.lookup name) r r' default)
    {fs : List (Field Toml.Reader α)} {fs' : List (Field Tree.Reader α)}
    (hrest : ∀ b, MembersAgree ms ms' fs fs' (put b value)) :
    MembersAgree ms ms' (.optional name r put :: fs) (.optional name r' put :: fs') value := by
  intro a ha key
  rw [Toml.readMembers_optional hput] at ha
  obtain ⟨b, hb, ha⟩ := Option.bind_eq_some_iff.1 ha
  rw [Tree.readMembers_optional hput, hfield b hb]
  exact hrest b a ha key

end

/-- A section agrees if its fields do. -/
theorem Agrees.record {raw : Option Toml.Value} {raw' : Option Tree}
    (hraw : ∀ x, raw = some x → x.isTable = true) (hraw' : ∀ x, raw' = some x → x.isTable = true)
    {fs : List (Field Toml.Reader α)} {fs' : List (Field Tree.Reader α)} {blank : α}
    (hfs : ∀ f ∈ fs, f.required = false) (hfs' : ∀ f ∈ fs', f.required = false)
    (h : MembersAgree ((raw.map Toml.Value.members).getD []) ((raw'.map Tree.members).getD []) fs
      fs' blank) (title : String) :
    Agrees raw raw' (Format.record ⟨title, blank, fs⟩) (Format.record ⟨title, blank, fs'⟩)
      blank := by
  intro a ha key
  rw [Toml.valueOf_record hraw (r := ⟨title, blank, fs⟩) hfs] at ha
  rw [Tree.valueOf_record hraw' (r := ⟨title, blank, fs'⟩) hfs']
  exact h a ha key

/-! ## Agreement on a field -/

/-- A value that is read directly is read as the same after it was put onto what was there. -/
def Follows (old : Option Tree) (r : Toml.Reader α) (r' : Tree.Reader α) : Prop :=
  ∀ v a, r v = some a → ∀ origin key, r' key ((Tree.ofToml origin v).onto old) = .ok a

theorem follows_text (old : Option Tree) : Follows old Format.text Format.text := by
  intro v a ha origin key
  cases v with
  | text s =>
    obtain rfl := Option.some.inj ha
    rfl
  | _ => cases ha

theorem follows_int64 (old : Option Tree) : Follows old Format.int64 Format.int64 := by
  intro v a ha origin key
  cases v with
  | int i =>
    obtain rfl := Option.some.inj ha
    rfl
  | _ => cases ha

theorem follows_flag (old : Option Tree) : Follows old Format.flag Format.flag := by
  intro v a ha origin key
  cases v with
  | flag b =>
    obtain rfl := Option.some.inj ha
    rfl
  | _ => cases ha

/-- A name of a backend is found in letters of any case. -/
theorem find?_backend {s : String} {b : Backend} (h : Backend.byName.lookup s = some b) :
    Text.lowercase s = s ∧ Backend.byName.find? (fun n => Text.lowercase n.1 = Text.lowercase s) =
      some (s, b) := by
  have hall : ∀ m ∈ Backend.byName, Text.lowercase m.1 = m.1 ∧
      Backend.byName.find? (fun n => Text.lowercase n.1 = Text.lowercase m.1) = some m := by decide
  exact hall (s, b) (Keyed.mem_of_lookup h)

/-- The name of a backend as the only name in a table is merged into nothing, as it is. -/
theorem follows_backend : Follows none Backend.reader Backend.reader := by
  intro v b hb origin key
  cases v with
  | text s =>
    obtain ⟨-, hfind⟩ := find?_backend hb
    simp only [Tree.ofToml, Tree.onto, Backend.reader, Format.oneOf, Tree.readOneOf, hfind]
  | table ms =>
    rcases ms with _ | ⟨⟨s, x⟩, _ | ⟨_, _⟩⟩
    · cases hb
    · simp only [Backend.reader, Format.oneOf, Toml.readOneOf] at hb
      split at hb
      · obtain ⟨hs, hfind⟩ := find?_backend hb
        have hmerged : (Tree.ofToml origin (.table [(s, x)])).onto none =
            .table none [(s, (Tree.ofToml origin x).onto none)] := by
          cases x <;>
            simp only [Tree.ofToml, Tree.ofTomlMembers, Tree.onto, Tree.putAll, Tree.put, hs,
              Tree.changeMember, Tree.asTable, Tree.empty, Keyed.put, Option.getD_none,
              List.lookup_nil]
        simp only [hmerged, Backend.reader, Format.oneOf, Tree.readOneOf, hfind]
      · cases hb
    · cases hb
  | _ => cases hb

/-- A field agrees where the tree had nothing but its default before. -/
theorem Follows.agrees {old : Option Tree} {r : Toml.Reader α} {r' : Tree.Reader α}
    (h : Follows old r r') {default : α} (hold : ∀ key, valueOf old key r' default = .ok default)
    (origin : String) (raw : Option Toml.Value) :
    Agrees raw ((raw.map fun v => (Tree.ofToml origin v).onto old).or old) r r' default := by
  intro a ha key
  cases raw with
  | none =>
    obtain rfl := Option.some.inj ha
    exact hold key
  | some v => exact h v a ha origin key

/-! ## Agreement on the settings -/

/-- The sections of a document and of a tree are tables, and the tables agree on every field. -/
structure FieldsAgree (d : Toml.Value) (t : Tree) : Prop where
  sections : ∀ s ∈ Layers.sections, ∀ x, d.member? s = some x → x.isTable = true
  sectioned : t.Sectioned
  field : ∀ p ∈ fields, p ≠ ("app", "environment") →
    ∀ {α : Type} {r : Toml.Reader α} {r' : Tree.Reader α} {default : α}, Follows none r r' →
      Agrees (d.at? p.1 p.2) (t.at? p.1 p.2) r r' default
  environment : Agrees (d.at? "app" "environment") (t.at? "app" "environment") Format.text
    Format.text "development"

theorem Agrees.lookup {d : Toml.Value} {t : Tree} {s f : String} {r : Toml.Reader α}
    {r' : Tree.Reader α} {default : α} (h : Agrees (d.at? s f) (t.at? s f) r r' default) :
    Agrees ((((d.member? s).map Toml.Value.members).getD []).lookup f)
      ((((t.member? s).map Tree.members).getD []).lookup f) r r' default := by
  rwa [Toml.lookup_section, Tree.lookup_section]

namespace FieldsAgree

variable {d : Toml.Value} {t : Tree} (h : FieldsAgree d t)
include h

theorem app : Agrees (d.member? "app") (t.member? "app") Settings.appReader Settings.appReader
    {} := by
  refine .record (h.sections _ (by decide)) (h.sectioned.sections _ (by decide))
    (by simp [Field.optional]) (by simp [Field.optional]) ?_ _
  refine .optional rfl (h.field ("app", "name") (by decide) (by decide)
    (follows_text _)).lookup fun name => ?_
  refine .optional rfl (h.field ("app", "version") (by decide) (by decide)
    (follows_text _)).lookup fun version => ?_
  exact .optional rfl h.environment.lookup fun environment => .nil _

theorem service : Agrees (d.member? "service") (t.member? "service") Settings.serviceReader
    Settings.serviceReader {} := by
  refine .record (h.sections _ (by decide)) (h.sectioned.sections _ (by decide))
    (by simp [Field.optional]) (by simp [Field.optional]) ?_ _
  exact .optional rfl (h.field ("service", "backend") (by decide) (by decide)
    follows_backend).lookup fun backend => .nil _

theorem demo : Agrees (d.member? "demo") (t.member? "demo") Settings.demoReader
    Settings.demoReader {} := by
  refine .record (h.sections _ (by decide)) (h.sectioned.sections _ (by decide))
    (by simp [Field.optional]) (by simp [Field.optional]) ?_ _
  refine .optional rfl (h.field ("demo", "id") (by decide) (by decide)
    (follows_int64 _)).lookup fun id => ?_
  refine .optional rfl (h.field ("demo", "name") (by decide) (by decide)
    (follows_text _)).lookup fun name => ?_
  exact .optional rfl (h.field ("demo", "email") (by decide) (by decide)
    (follows_text _)).lookup fun email => .nil _

theorem logging : Agrees (d.member? "observability") (t.member? "observability")
    Settings.loggingReader Settings.loggingReader {} := by
  refine .record (h.sections _ (by decide)) (h.sectioned.sections _ (by decide))
    (by simp [Field.optional]) (by simp [Field.optional]) ?_ _
  refine .optional rfl (h.field ("observability", "log_filter") (by decide) (by decide)
    (follows_text _)).lookup fun filter => ?_
  exact .optional rfl (h.field ("observability", "json_logs") (by decide) (by decide)
    (follows_flag _)).lookup fun json => .nil _

/-- Where the fields agree, so do the settings. -/
theorem settings (hd : d.isTable = true) :
    Agrees (some d) (some t) Settings.reader Settings.reader {} := by
  refine .record (fun x hx => Option.some.inj hx ▸ hd)
    (fun x hx => Option.some.inj hx ▸ h.sectioned.root) (by simp [Field.optional])
    (by simp [Field.optional]) ?_ _
  refine .optional rfl h.app fun app => ?_
  refine .optional rfl h.service fun service => ?_
  refine .optional rfl h.demo fun demo => ?_
  exact .optional rfl h.logging fun logging => .nil _

end FieldsAgree

/-- **What is read directly from a document is read from the tree that it was put onto**, if that
tree had no field before but the environment, and for that one the default. -/
theorem Arranged.read_putLayer {d : Toml.Value} (h : Arranged d) (hd : d.Distinct)
    (htable : d.isTable = true) {t : Tree} (ht : t.Sectioned)
    (hbefore : ∀ p ∈ fields, t.at? p.1 p.2 =
      if p = ("app", "environment") then some (.scalar none (.text "development")) else none)
    (origin : String) {c : Settings} (hc : (Settings.reader : Toml.Reader Settings) d = some c) :
    (t.putLayer (Tree.layerOfToml origin d)).read Settings.reader = .ok c := by
  have hat := fun p hp => h.at?_putLayer origin hd (p := p) (section_mem_of_field p hp) t
  have hagree : FieldsAgree d (t.putLayer (Tree.layerOfToml origin d)) := by
    refine ⟨fun s hs x hx => h.sections (s, x) (Keyed.mem_of_lookup hx) hs,
      h.sectioned origin ht, fun p hp hne _ _ _ _ hfollows => ?_, ?_⟩
    · rw [hat p hp, hbefore p hp, if_neg hne]
      exact hfollows.agrees (fun _ => rfl) origin _
    · rw [hat ("app", "environment") (by decide), hbefore ("app", "environment") (by decide),
        if_pos rfl]
      exact (follows_text _).agrees (fun _ => rfl) origin _
  exact hagree.settings htable c hc ""

end Layers

namespace Configuration

open UserRegistry.Layers

/-- **Loading one document gives what reading it gives.** Where a tidy document is the only file of
a place for development, no variable holds a setting, and reading the document as it stands gives
settings whose filter is not blank, loading succeeds with just these settings, in every order of the
load. Only a variable that is not in UTF-8 makes it panic. -/
theorem start_direct {p : Place} {w : World} {o : Order} {text : String} {c : Settings}
    (henvironment : p.environment = "development")
    (hcommon : w.files.find? (p.path "default") = some (.file ⟨text, false⟩))
    (hown : w.files.find? (p.path "development") = none)
    (hhere : w.files.find? (p.path "local") = none)
    (hvars : ∀ e ∈ w.vars.entries, Overrides.holdsSetting e.1 = false)
    (htidy : ∀ d ∈ Toml.parse text, Tidy d)
    (hread : Toml.read Settings.reader text = .ok c)
    (hfilter : Text.isAllBlank c.logging.filter.toList = false) :
    (Loader.start p w o).result.map Loader.get = .ok c ∧
      p.panic? w o = if w.vars.foreign then some .foreignVariable else none := by
  obtain ⟨d, hparse, hc⟩ := Toml.read_eq_ok hread
  have hdistinct := Toml.parse_distinct hparse
  have hcounted : counted p.isNamed none = none := by simp [counted]
  have hlayer : variableLayer w.vars o.overrides = [] := by
    rw [variableLayer, Overrides.layer_eq_nil hvars]
    rfl
  have hholds : Holds w.files (p.path "default") (some d) := .inr ⟨text, hcommon, hparse, rfl⟩
  have hnone : Holds w.files (p.path p.environment) none := .inl ⟨henvironment.symm ▸ hown, rfl⟩
  have hnothing : Holds w.files (p.path "local") none := .inl ⟨hhere, rfl⟩
  have htree := tree_sources hholds hnone hnothing o rfl rfl
  rw [hcounted, hlayer, henvironment] at htree
  have hlisted : decoded ((base "development").putLayer
      (Tree.layerOfToml (originOf (p.path "default")) d)) = .ok c :=
    congrArg (Except.mapError unfit) ((htidy d hparse).arranged.read_putLayer hdistinct
      (Toml.isTable_of_parse hparse) (base_sectioned "development") (base_at? "development")
      (originOf (p.path "default")) hc)
  have hseparate := (htidy d hparse).simple.separate hdistinct (originOf (p.path "default"))
  have halike := hseparate.alike_putLayer (o.documents 0) .listed
    (.refl (some (base "development")))
  rw [Tree.arrangedLayer_listed, Tree.arrangedLayer_ofToml] at halike
  have hdecoded := ((decoded_anyOrder halike o.settings .listed).eq_ok_iff c).2 hlisted
  have hvalid : validated c = .ok c := by
    rw [validated, hfilter]
    rfl
  have hpanic : p.panic? w o = if w.vars.foreign then some .foreignVariable else none := by
    have hnames : ∀ v ∈ [some d, none, none], ∀ v' ∈ v, ∀ m ∈ v'.members, '[' ∉ m.1.toList := by
      simpa using fun n x hm => ((htidy d hparse).simple.names (n, x) hm).2
    have hput := putSources_place hholds hnone hnothing o rfl rfl
    rw [panic?_place hholds hnone hnothing hnames hput, variablesPanic?, hlayer]
    rfl
  refine ⟨?_, hpanic⟩
  rw [start_get, Place.settings, settings, henvironment, htree]
  exact (congrArg (Except.bind · validated) hdecoded).trans hvalid

/-- A place for development with one document, which says more than the settings are made of. -/
def documentedPlace : Place := ⟨"config", "development"⟩

def documentedText : String :=
  "title = 1\n[app]\nname = \"花名册\"\n[service.backend.mock]\n" ++
    "[demo]\nid = -9223372036854775808\nnick = [\"x\"]\n[observability]\n[extra.inner]\n"

def documentedWorld : World :=
  ⟨Folder.empty.write "config/default.toml" (.file ⟨documentedText, false⟩),
    .ofList [("ROSTER_ENVIRONMENT", "production")]⟩

theorem start_direct_documented :
    (Loader.start documentedPlace documentedWorld).result.map Loader.get =
      .ok ⟨⟨"花名册", "0.1.0", "development"⟩, ⟨.mock⟩,
        ⟨-9223372036854775808, "Zhang San", "zhangsan@example.com"⟩,
        ⟨"info,roster=debug", false⟩⟩ ∧ documentedPlace.panic? documentedWorld = none :=
  @start_direct documentedPlace documentedWorld .listed documentedText _ rfl (by decide +kernel)
    (by decide +kernel) (by decide +kernel) (by decide +kernel) (by decide +kernel)
    (by decide +kernel) (by decide +kernel)

end Configuration

end UserRegistry
