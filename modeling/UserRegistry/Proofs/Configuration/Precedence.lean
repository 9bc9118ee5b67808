import UserRegistry.Proofs.Configuration.Ordering
import UserRegistry.Proofs.Layers.Sorted

/-!
# Which layer decides on a field

Each of the nine fields is decided by the first that speaks of it: its variable, the file for this
place, the file of the environment, the file for every environment, and for the name of the
environment the name that the place has (`Place.raw`). The fields are decided one by one, so a
layer that sets one field says nothing about another.

`start_precedence` is this for every name of an environment, with one condition: the file of an
environment counts only if its name has something before the ending (`Place.isNamed`). An
environment without a name, or with a stroke at the end of it, has a file that is announced and
then left out. Names that are no paths into lists cannot make the load panic (`panic?_place`).
-/

namespace UserRegistry

/-! ## Order marks -/

namespace Toml

theorem statements_orderMark (fuel : Nat) (cs : List Char) :
    statements fuel (Char.ofNat 0xfeff :: cs) = none := by
  cases fuel with
  | zero => rfl
  | succ fuel => rfl

/-- A document that can be read starts with one byte order mark at most. -/
theorem parse_withoutOrderMark {text : String} {d : Value} (h : parse text = some d) :
    parse (String.ofList (Text.withoutOrderMark text.toList)) = some d := by
  have hmark : ∀ s : List Char, (statements (s.length + 1) s).bind ofStatements = some d →
      Text.withoutOrderMark s = s := by
    intro s hs
    cases s with
    | nil => rfl
    | cons c cs =>
      by_cases hc : c.toNat = 0xfeff
      · have hc' : c = Char.ofNat 0xfeff := by rw [← hc, Char.ofNat_toNat]
        rw [hc', statements_orderMark] at hs
        cases hs
      · rw [Text.withoutOrderMark, if_neg hc]
  unfold parse at h ⊢
  rw [String.toList_ofList, hmark _ h]
  exact h

end Toml

namespace Configuration

open UserRegistry.Layers

/-! ## The files of a place -/

/-- A path leads to nothing, or to a file with a document. -/
def Holds (files : Folder) (path : String) (d : Option Toml.Value) : Prop :=
  (files.find? path = none ∧ d = none) ∨
    ∃ text, files.find? path = some (.file ⟨text, false⟩) ∧ Toml.parse text = d ∧ d.isSome = true

def originOf (path : String) : String :=
  (Path.ofText path).text

/-- The tree with a document on top, if there is one. -/
def withDocument (path : String) (d : Option Toml.Value) (t : Tree) : Tree :=
  match d with
  | none => t
  | some d => t.putLayer (Tree.layerOfToml (originOf path) d)

/-- A document counts if the name of its file has something before the ending. -/
def counted (named : Bool) (d : Option Toml.Value) : Option Toml.Value :=
  if named then d else none

theorem hasStem_tomlName (x : String) :
    hasStem (Path.tomlName x) = !(Text.lastPart '/' x.toList).isEmpty := by
  have hname : Path.tomlName x = ".toml" ↔ Text.lastPart '/' x.toList = [] := by
    rw [← String.toList_inj, Path.tomlName, String.toList_ofList]
    exact List.append_left_eq_self
  rw [hasStem, Bool.eq_iff_iff]
  simp [hname]

/-- The orders that are left after a document, if there is one. -/
def ordersAfter (d : Option Toml.Value) (ranks : Nat → Ranks) : Nat → Ranks :=
  if d.isSome then fun i => ranks (i + 1) else ranks

@[simp] theorem ordersAfter_listed (d : Option Toml.Value) :
    ordersAfter d (fun _ => .listed) = fun _ => .listed := by
  unfold ordersAfter
  split <;> rfl

/-- A document in the first of several orders. -/
def sorted (ranks : Nat → Ranks) (d : Option Toml.Value) : Option Toml.Value :=
  d.map fun v => v.inOrder (ranks 0)

@[simp] theorem sorted_listed (d : Option Toml.Value) : sorted (fun _ => .listed) d = d := by
  cases d <;> simp [sorted]

/-- The text of a file is read if its name has something before the ending. -/
theorem textUnder?_file {files : Folder} {path text : String}
    (h : files.find? path = some (.file ⟨text, false⟩)) :
    textUnder? files path = (Path.ofText path).lastName?.bind fun name =>
      if hasStem name then some (String.ofList (Text.withoutOrderMark text.toList)) else none := by
  simp only [textUnder?, Folder.file?, h, FileText.whole?, Option.bind_eq_bind, Option.bind_some,
    Bool.false_eq_true, if_false]

theorem source?_file {files : Folder} {path text : String}
    (h : files.find? path = some (.file ⟨text, false⟩)) :
    source? files path = (textUnder? files path).map fun text => ⟨originOf path, text⟩ := by
  have hfolder : ¬ files.find? path = some .folder := by simp [h]
  rw [source?, if_neg hfolder]
  rfl

/-- What is read under a path is the document that it leads to. -/
theorem Holds.layerOf {files : Folder} {path : String} {d : Option Toml.Value}
    (h : Holds files path d) (hcontains : files.contains path = true) {s : Source}
    (hs : source? files path = some s) :
    ∃ v, d = some v ∧ layerOf s = .ok (Tree.layerOfToml s.origin v) := by
  rcases h with ⟨hnone, -⟩ | ⟨text, hfile, hparse, hd⟩
  · simp [Folder.contains, hnone] at hcontains
  · obtain ⟨v, rfl⟩ := Option.isSome_iff_exists.1 hd
    rw [source?_file hfile, textUnder?_file hfile] at hs
    obtain ⟨read, hread, rfl⟩ := Option.map_eq_some_iff.1 hs
    obtain ⟨name, -, hread⟩ := Option.bind_eq_some_iff.1 hread
    split at hread
    · obtain rfl := Option.some.inj hread
      exact ⟨v, rfl, by rw [Configuration.layerOf, Toml.parse_withoutOrderMark hparse]⟩
    · cases hread

theorem Holds.distinct {files : Folder} {path : String} {d : Option Toml.Value}
    (h : Holds files path d) {v : Toml.Value} (hv : d = some v) : v.Distinct := by
  rcases h with ⟨-, hnone⟩ | ⟨text, -, hparse, -⟩
  · rw [hnone] at hv
    cases hv
  · exact Toml.parse_distinct (hparse.trans hv)

/-- The files of several paths are put on top one by one, each in its order. -/
theorem putSources_cons {files : Folder} {path x : String} {d : Option Toml.Value}
    (hpath : path = x ++ ".toml") (h : Holds files path d) (t : Tree) (rest : List String)
    (ranks : Nat → Ranks) {read : Option Toml.Value}
    (hread : read = counted (!(Text.lastPart '/' x.toList).isEmpty) d) :
    putSources t (((path :: rest).filter files.contains).filterMap (source? files)) ranks =
      putSources (withDocument path (sorted ranks read) t)
        ((rest.filter files.contains).filterMap (source? files)) (ordersAfter read ranks) := by
  subst hread
  rcases h with ⟨hnone, rfl⟩ | ⟨text, hfile, hparse, hd⟩
  · have hcontains : files.contains path = false := by simp [Folder.contains, hnone]
    rw [List.filter_cons_of_neg (by simp [hcontains])]
    have hcounted : ∀ b, counted b none = none := by simp [counted]
    rw [hcounted]
    rfl
  · obtain ⟨d, rfl⟩ := Option.isSome_iff_exists.1 hd
    have hcontains : files.contains path = true := by simp [Folder.contains, hfile]
    have hname : (Path.ofText path).lastName? = some (Path.tomlName x) := by
      rw [hpath, Path.lastName?_toml]
    have hsource : source? files path =
        if hasStem (Path.tomlName x) then
          some ⟨originOf path, String.ofList (Text.withoutOrderMark text.toList)⟩
        else none := by
      rw [source?_file hfile, textUnder?_file hfile, hname, Option.bind_some]
      split <;> rfl
    rw [List.filter_cons_of_pos hcontains, List.filterMap_cons, hsource, hasStem_tomlName]
    cases (Text.lastPart '/' x.toList).isEmpty with
    | true => rfl
    | false =>
      have hlayer : layerOf ⟨originOf path, String.ofList (Text.withoutOrderMark text.toList)⟩ =
          .ok (Tree.layerOfToml (originOf path) d) := by
        rw [layerOf, Toml.parse_withoutOrderMark hparse]
      simp only [Bool.not_false, if_true, putSources, hlayer, Tree.arrangedLayer_ofToml]
      rfl

/-- Files ask for no position in a list if their names are no paths into one. -/
theorem sourcesPanic_names {sources : List Source} (h : ∀ s ∈ sources, ∀ layer,
    layerOf s = .ok layer → ∀ n ∈ layer.map Prod.fst, '[' ∉ n.toList) (t : Tree)
    (ranks : Nat → Ranks) : sourcesPanic t sources ranks = false := by
  induction sources generalizing t ranks with
  | nil => rfl
  | cons s rest ih =>
    obtain ⟨hs, hrest⟩ := List.forall_mem_cons.1 h
    rw [sourcesPanic]
    cases hlayer : layerOf s with
    | error f => rfl
    | ok layer =>
      have hperm := Tree.names_arrangedLayer_perm (ranks 0) layer
      have hpanic := Tree.layerPanics_names
        (fun n hn => hs layer hlayer n (hperm.mem_iff.1 hn)) t
      simp only [hpanic, ih hrest, Bool.or_self]

/-! ## The tree of a place -/

/-- The environment of a place names a file with something before its ending. -/
def Place.isNamed (p : Place) : Bool :=
  p.environment != "" && p.environment.toList.getLast? != some '/'

theorem Place.isNamed_eq (p : Place) :
    p.isNamed = !(Text.lastPart '/' p.environment.toList).isEmpty := by
  have hlast := Text.lastPart_eq_nil_iff '/' p.environment.toList
  have hempty : p.environment.toList = [] ↔ p.environment = "" := String.toList_eq_nil_iff
  rw [Place.isNamed, Bool.eq_iff_iff]
  simp [hlast, hempty, not_or]

def Place.path (p : Place) (name : String) : String :=
  Path.inFolder p.folder (name ++ ".toml")

theorem Place.path_toml (p : Place) (name : String) : ∃ x, p.path name = x ++ ".toml" ∧
    Text.lastPart '/' x.toList = Text.lastPart '/' name.toList :=
  Path.inFolder_toml p.folder name

section
variable {p : Place} {w : World} {common own here : Option Toml.Value}
  (hcommon : Holds w.files (p.path "default") common)
  (hown : Holds w.files (p.path p.environment) own)
  (hhere : Holds w.files (p.path "local") here)
include hcommon hown hhere

/-- A place with three documents, of which that of the environment may not count. -/
theorem putSources_place (o : Order) {first second : Nat → Ranks}
    (hfirst : first = ordersAfter common o.documents)
    (hsecond : second = ordersAfter (counted p.isNamed own) first) :
    putSources (base p.environment) (p.sources w.files) o.documents =
      .ok (withDocument (p.path "local") (sorted second here)
        (withDocument (p.path p.environment) (sorted first (counted p.isNamed own))
          (withDocument (p.path "default") (sorted o.documents common)
            (base p.environment)))) := by
  subst hfirst hsecond
  obtain ⟨x₁, hx₁, hlast₁⟩ := p.path_toml "default"
  obtain ⟨x₂, hx₂, hlast₂⟩ := p.path_toml p.environment
  obtain ⟨x₃, hx₃, hlast₃⟩ := p.path_toml "local"
  have hdefault : Text.lastPart '/' "default".toList = "default".toList := by decide
  have hlocal : Text.lastPart '/' "local".toList = "local".toList := by decide
  have hsources : p.sources w.files =
      (([p.path "default", p.path p.environment, p.path "local"]).filter
        w.files.contains).filterMap (source? w.files) := rfl
  have hread₁ : common = counted (!(Text.lastPart '/' x₁.toList).isEmpty) common := by
    rw [hlast₁, hdefault]
    rfl
  have hread₂ : counted p.isNamed own = counted (!(Text.lastPart '/' x₂.toList).isEmpty) own := by
    rw [hlast₂, p.isNamed_eq]
  have hread₃ : here = counted (!(Text.lastPart '/' x₃.toList).isEmpty) here := by
    rw [hlast₃, hlocal]
    rfl
  rw [hsources, putSources_cons hx₁ hcommon _ _ _ hread₁,
    putSources_cons hx₂ hown _ _ _ hread₂, putSources_cons hx₃ hhere _ _ _ hread₃]
  rfl

theorem putSources_listed :
    putSources (base p.environment) (p.sources w.files) =
      .ok (withDocument (p.path "local") here (withDocument (p.path p.environment)
        (counted p.isNamed own) (withDocument (p.path "default") common
          (base p.environment)))) := by
  have hput := putSources_place hcommon hown hhere .listed rfl rfl
  simpa only [Order.listed, ordersAfter_listed, sorted_listed] using hput

theorem tree_sources (o : Order) {first second : Nat → Ranks}
    (hfirst : first = ordersAfter common o.documents)
    (hsecond : second = ordersAfter (counted p.isNamed own) first) :
    tree p.environment (p.sources w.files) w.vars o =
      .ok ((withDocument (p.path "local") (sorted second here)
        (withDocument (p.path p.environment) (sorted first (counted p.isNamed own))
          (withDocument (p.path "default") (sorted o.documents common)
            (base p.environment)))).putLayer (variableLayer w.vars o.overrides)) := by
  rw [tree, putSources_place hcommon hown hhere o hfirst hsecond]
  rfl

/-- Each file of a place is one of the documents. -/
theorem layerOf_of_mem_sources {s : Source} (hs : s ∈ p.sources w.files) :
    ∃ d ∈ [common, own, here], ∃ v, d = some v ∧ v.Distinct ∧
      layerOf s = .ok (Tree.layerOfToml s.origin v) := by
  have hread {path : String} {d : Option Toml.Value} (h : Holds w.files path d)
      (hcontains : w.files.contains path = true) (hs : source? w.files path = some s) :
      ∃ v, d = some v ∧ v.Distinct ∧ layerOf s = .ok (Tree.layerOfToml s.origin v) := by
    obtain ⟨v, hv, hlayer⟩ := h.layerOf hcontains hs
    exact ⟨v, hv, h.distinct hv, hlayer⟩
  obtain ⟨path, hpath, hs⟩ := List.mem_filterMap.1 hs
  obtain ⟨hpath, hcontains⟩ := List.mem_filter.1 hpath
  have hpath : path ∈ [p.path "default", p.path p.environment, p.path "local"] := hpath
  simp only [List.mem_cons, List.not_mem_nil, or_false] at hpath
  rcases hpath with rfl | rfl | rfl
  · exact ⟨common, by simp, hread hcommon hcontains hs⟩
  · exact ⟨own, by simp, hread hown hcontains hs⟩
  · exact ⟨here, by simp, hread hhere hcontains hs⟩

/-- Where no name of a document is a path into a list, only the variables can make loading panic. -/
theorem panic?_place {o : Order} {t : Tree}
    (hnames : ∀ d ∈ [common, own, here], ∀ v ∈ d, ∀ m ∈ v.members, '[' ∉ m.1.toList)
    (hput : putSources (base p.environment) (p.sources w.files) o.documents = .ok t) :
    p.panic? w o = variablesPanic? t w.vars o.overrides := by
  have hsources : ∀ s ∈ p.sources w.files, ∀ layer, layerOf s = .ok layer →
      ∀ n ∈ layer.map Prod.fst, '[' ∉ n.toList := by
    intro s hs layer hlayer n hn
    obtain ⟨d, hd, v, hv, -, hlayer'⟩ := layerOf_of_mem_sources hcommon hown hhere hs
    obtain rfl := Except.ok.inj (hlayer.symm.trans hlayer')
    rw [Tree.layerOfToml, Tree.members_ofToml, List.map_map] at hn
    obtain ⟨m, hm, rfl⟩ := List.mem_map.1 hn
    exact hnames d hd v hv m hm
  have hpanic := sourcesPanic_names hsources (base p.environment) o.documents
  rw [Place.panic?, panic?, hpanic, hput]
  rfl

end

theorem lower_environmentKey : Text.Lower environmentKey.toList :=
  Text.lower_of_all (by decide)

/-- The name of the environment is what there is before any layer. -/
theorem base_at? (environment : String) : ∀ p ∈ fields, (base environment).at? p.1 p.2 =
    if p = ("app", "environment") then some (.scalar none (.text environment)) else none := by
  have hkey : ∀ p ∈ fields, environmentKey ≠ p.1 ∧
      ¬ (p.1 ++ "." ++ p.2 ++ ".").toList <+: environmentKey.toList ∧
      (environmentKey = p.1 ++ "." ++ p.2 ↔ p = ("app", "environment")) := by decide
  intro p hp
  obtain ⟨hsection, hprefix, hiff⟩ := hkey p hp
  obtain ⟨hpath, -⟩ := Overrides.names_of_fields p hp
  have hbelow : ∀ rest, environmentKey.toList = (p.1 ++ "." ++ p.2 ++ ".").toList ++ rest →
      rest = [] := fun rest e => absurd ⟨rest, e.symm⟩ hprefix
  rw [base, Tree.at?_putAtText lower_environmentKey (by decide) rfl hpath hsection hbelow]
  simp only [hiff]
  rfl

theorem base_sectioned (environment : String) : (base environment).Sectioned := by
  have hempty : Tree.empty.Sectioned := ⟨rfl, fun s _ x hx => by cases hx⟩
  exact hempty.putAtText lower_environmentKey (by decide) (by decide) _

/-! ## The raw value of a field -/

/-- What a document says of a field, if it says anything. -/
def inDocument (path : String) (d : Option Toml.Value) (s f : String) : Option Tree :=
  (d.bind fun d => d.at? s f).map (Tree.ofToml (originOf path))

/-- The raw value of a field, by the first that speaks of it: its variable, the document for this
place, that of the environment, that for every environment, and at last the name of the environment
for the field that holds it. -/
def Place.raw (p : Place) (vs : Variables) (common own here : Option Toml.Value) (s f : String) :
    Option Tree :=
  (Overrides.override? vs s f).or
    ((inDocument (p.path "local") here s f).or
      ((inDocument (p.path p.environment) own s f).or
        ((inDocument (p.path "default") common s f).or
          (if (s, f) = ("app", "environment") then some (.scalar none (.text p.environment))
            else none))))

section
variable {path : String} {d : Option Toml.Value}
  (hd : ∀ v, d = some v → Plain v ∧ v.Distinct) {t : Tree} (ranks : Nat → Ranks)
include hd

theorem at?_withDocument {p : String × String} (hp : p ∈ fields) :
    (withDocument path (sorted ranks d) t).at? p.1 p.2 =
      (inDocument path d p.1 p.2).or (t.at? p.1 p.2) := by
  cases d with
  | none => rfl
  | some v =>
    obtain ⟨hplain, hdistinct⟩ := hd v rfl
    refine ((hplain.inOrder _).at?_putLayer (hdistinct.inOrder _) (originOf path) hp t).trans ?_
    rw [hplain.at?_inOrder _ hdistinct hp]
    rfl

theorem sectioned_withDocument (ht : t.Sectioned) :
    (withDocument path (sorted ranks d) t).Sectioned := by
  cases d with
  | none => exact ht
  | some v => exact ((hd v rfl).1.arranged.inOrder _).sectioned (originOf path) ht

end

theorem ofRaw_congr {raw raw' : String → String → Option Tree}
    (h : ∀ p ∈ fields, raw p.1 p.2 = raw' p.1 p.2) : ofRaw raw = ofRaw raw' := by
  simp only [fields, List.forall_mem_cons] at h
  obtain ⟨h₁, h₂, h₃, h₄, h₅, h₆, h₇, h₈, h₉, -⟩ := h
  simp only [ofRaw, h₁, h₂, h₃, h₄, h₅, h₆, h₇, h₈, h₉]

/-- **Each field is decided by the first layer that speaks of it**, for every name of an
environment, all documents with plain names and all tame variables, in every order of the load. The
document of the environment counts if its file has a name. Such a load panics only for a variable
that is not in UTF-8. -/
theorem start_precedence {p : Place} {w : World} {o : Order} {common own here : Option Toml.Value}
    (hcommon : Holds w.files (p.path "default") common)
    (hown : Holds w.files (p.path p.environment) own)
    (hhere : Holds w.files (p.path "local") here)
    (hplain : ∀ d ∈ [common, own, here], ∀ v ∈ d, Plain v) (hvars : Overrides.Tame w.vars) :
    SameEnd ((Loader.start p w o).result.map Loader.get)
        (((ofRaw (p.raw w.vars common (counted p.isNamed own) here)).mapError unfit).bind
          validated) ∧
      (o.settings = .listed → (Loader.start p w o).result.map Loader.get =
        ((ofRaw (p.raw w.vars common (counted p.isNamed own) here)).mapError unfit).bind
          validated) ∧
      p.panic? w o = if w.vars.foreign then some .foreignVariable else none := by
  have hcommon' : ∀ v, common = some v → Plain v ∧ v.Distinct := fun v hv =>
    ⟨hplain common (by simp) v hv, hcommon.distinct hv⟩
  have hhere' : ∀ v, here = some v → Plain v ∧ v.Distinct := fun v hv =>
    ⟨hplain here (by simp) v hv, hhere.distinct hv⟩
  have hown' : ∀ v, counted p.isNamed own = some v → Plain v ∧ v.Distinct := by
    intro v hv
    unfold counted at hv
    split at hv
    · exact ⟨hplain own (by simp) v hv, hown.distinct hv⟩
    · cases hv
  have hperm := perm_variableLayer w.vars o.overrides
  have htree := tree_sources hcommon hown hhere o rfl rfl
  generalize ht : Tree.putLayer (variableLayer w.vars o.overrides) _ = t at htree
  have hsectioned : t.Sectioned := by
    rw [← ht]
    exact hvars.sectioned hperm (sectioned_withDocument hhere' _ (sectioned_withDocument hown' _
      (sectioned_withDocument hcommon' _ (base_sectioned p.environment))))
  have hraw : ∀ q ∈ fields, t.at? q.1 q.2 =
      p.raw w.vars common (counted p.isNamed own) here q.1 q.2 := by
    intro q hq
    rw [← ht, hvars.at?_putLayer hperm hq, at?_withDocument hhere' _ hq,
      at?_withDocument hown' _ hq, at?_withDocument hcommon' _ hq, base_at? p.environment q hq]
    rfl
  have hlisted : decoded t = (ofRaw (p.raw w.vars common (counted p.isNamed own) here)).mapError
      unfit := by
    rw [← ofRaw_congr hraw, ← Tree.read_sectioned hsectioned]
    rfl
  have hsettings : (Loader.start p w o).result.map Loader.get =
      (decoded t o.settings).bind validated := by
    rw [start_get, Place.settings, settings, htree]
    rfl
  have hpanic : p.panic? w o = if w.vars.foreign then some .foreignVariable else none := by
    rw [panic?_place hcommon hown hhere (fun d hd v hv m hm => ((hplain d hd v hv).names m hm).2.2)
      (putSources_place hcommon hown hhere o rfl rfl), variablesPanic?, hvars.layerPanics hperm]
    rfl
  rw [hsettings, ← hlisted]
  exact ⟨(decoded_anyOrder (.refl _) o.settings .listed).bind validated, fun h => by rw [h],
    hpanic⟩

/-- A place with three files that set some of the same fields. -/
def layeredPlace : Place := ⟨"config", "production"⟩

def layeredWorld : World :=
  ⟨((Folder.empty.write
      "config/default.toml" (.file ⟨"[demo]\nid = 1\nname = \"a\"\n", false⟩)).write
      "config/production.toml" (.file ⟨"[demo]\nid = 2\n[app]\nname = \"b\"\n", false⟩)).write
      "config/local.toml" (.file ⟨"service = \x7b backend = \"mock\" \x7d\n", false⟩),
    .ofList [("Roster__Demo__Email", "c"), ("ROSTER__APP__VERSION", "2")]⟩

theorem start_precedence_layered :
    (Loader.start layeredPlace layeredWorld).result.map Loader.get =
      ((ofRaw (layeredPlace.raw layeredWorld.vars (Toml.parse "[demo]\nid = 1\nname = \"a\"\n")
        (counted layeredPlace.isNamed (Toml.parse "[demo]\nid = 2\n[app]\nname = \"b\"\n"))
        (Toml.parse "service = \x7b backend = \"mock\" \x7d\n"))).mapError unfit).bind validated ∧
      (Loader.start layeredPlace layeredWorld).result.map (fun l => l.get.demo) =
        .ok ⟨2, "a", "c"⟩ := by
  refine ⟨(start_precedence ?_ ?_ ?_ ?_ ?_).2.1 rfl, by decide +kernel⟩
  · exact .inr ⟨_, by decide +kernel, rfl, by decide +kernel⟩
  · exact .inr ⟨_, by decide +kernel, rfl, by decide +kernel⟩
  · exact .inr ⟨_, by decide +kernel, rfl, by decide +kernel⟩
  · decide +kernel
  · decide +kernel

/-- A place whose environment has no name, with a file under that name. -/
def unnamedPlace : Place := ⟨"config", ""⟩

def unnamedWorld : World :=
  ⟨Folder.empty.write "config/.toml" (.file ⟨"[demo]\nid = 6\n", false⟩), .empty⟩

/-- The document of an environment without a name is there and does not count. -/
theorem start_precedence_unnamed :
    Holds unnamedWorld.files (unnamedPlace.path "default") none ∧
      Holds unnamedWorld.files (unnamedPlace.path unnamedPlace.environment)
        (Toml.parse "[demo]\nid = 6\n") ∧
      Holds unnamedWorld.files (unnamedPlace.path "local") none ∧
      (∀ v ∈ Toml.parse "[demo]\nid = 6\n", Plain v) ∧ Overrides.Tame unnamedWorld.vars ∧
      (Loader.start unnamedPlace unnamedWorld).result.map Loader.get ≠
        ((ofRaw (unnamedPlace.raw unnamedWorld.vars none (Toml.parse "[demo]\nid = 6\n")
          none)).mapError unfit).bind validated := by
  refine ⟨.inl ⟨by decide +kernel, rfl⟩, .inr ⟨_, by decide +kernel, rfl, by decide +kernel⟩,
    .inl ⟨by decide +kernel, rfl⟩, by decide +kernel, by decide +kernel, fun h => ?_⟩
  have hid := congrArg (fun r : Result Settings => r.toOption.map fun s => s.demo.id) h
  revert hid
  decide +kernel

end Configuration

end UserRegistry
