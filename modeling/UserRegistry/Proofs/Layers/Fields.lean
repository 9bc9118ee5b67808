import UserRegistry.Failure
import UserRegistry.Layers.Decode
import UserRegistry.Proofs.Layers.Merging

/-!
# Settings from fields

Settings are read from a tree field by field: each of the nine fields is the raw value that stands
at its place, read as what the field holds, or the default of the field where nothing stands there
(`ofRaw`). For a tree whose sections are tables that is all there is to it (`read_sectioned`).

Of settings that were read from any tree the same can be said for one field alone, as long as the
field is there (`text_of_read`).
-/

namespace UserRegistry.Layers

/-- The value of a field: a raw value that was found, read under its key as what the field holds,
or else the default. -/
def valueOf (raw : Option Tree) (key : String) (r : Tree.Reader α) (default : α) :
    Except Misfit α :=
  match raw with
  | none => .ok default
  | some t => r key t

/-- The settings that raw values make, field by field. -/
def ofRaw (raw : String → String → Option Tree) : Except Misfit Settings := do
  let name ← valueOf (raw "app" "name") "app.name" Format.text "roster"
  let version ← valueOf (raw "app" "version") "app.version" Format.text "0.1.0"
  let environment ← valueOf (raw "app" "environment") "app.environment" Format.text "development"
  let backend ← valueOf (raw "service" "backend") "service.backend" Backend.reader .store
  let id ← valueOf (raw "demo" "id") "demo.id" Format.int64 1
  let demoName ← valueOf (raw "demo" "name") "demo.name" Format.text "Zhang San"
  let email ← valueOf (raw "demo" "email") "demo.email" Format.text "zhangsan@example.com"
  let filter ← valueOf (raw "observability" "log_filter") "observability.log_filter" Format.text
    "info,roster=debug"
  let json ← valueOf (raw "observability" "json_logs") "observability.json_logs" Format.flag false
  return ⟨⟨name, version, environment⟩, ⟨backend⟩, ⟨id, demoName, email⟩, ⟨filter, json⟩⟩

/-- The fields that hold a text. -/
inductive TextField where
  | appName
  | version
  | environment
  | demoName
  | email
  | filter
deriving DecidableEq, Repr

namespace TextField

def path : TextField → String × String
  | appName => ("app", "name")
  | version => ("app", "version")
  | environment => ("app", "environment")
  | demoName => ("demo", "name")
  | email => ("demo", "email")
  | filter => ("observability", "log_filter")

def get : TextField → Settings → String
  | appName, c => c.app.name
  | version, c => c.app.version
  | environment, c => c.app.environment
  | demoName, c => c.demo.name
  | email, c => c.demo.email
  | filter, c => c.logging.filter

theorem path_mem_fields (q : TextField) : q.path ∈ fields := by
  cases q <;> decide

end TextField

namespace Tree

/-- One optional field of a table is read. Its default is what the record holds already. -/
theorem readMembers_optional {put : β → α → α} {default : β} {value : α}
    (h : put default value = value) (key : String) (ms : List (String × Tree)) (name : String)
    (r : Reader β) (fs : List (Field Reader α)) :
    readMembers key ms (.optional name r put :: fs) value =
      valueOf (ms.lookup name) (memberKey key name) r default >>= fun b =>
        readMembers key ms fs (put b value) := by
  rw [readMembers]
  cases hname : ms.lookup name with
  | none =>
    simp only [Field.optional, hname, valueOf, Bool.false_eq_true, if_false]
    exact congrArg (readMembers key ms fs) h.symm
  | some t =>
    simp only [Field.optional, hname, valueOf, Format.map, Reader.map]
    cases r (memberKey key name) t <;> rfl

theorem readMembers_nil {fs : List (Field Reader α)} (h : ∀ f ∈ fs, f.required = false)
    (key : String) (value : α) : readMembers key [] fs value = .ok value := by
  induction fs with
  | nil => rfl
  | cons f fs ih =>
    rw [readMembers, List.lookup_nil]
    simp only [h f (by simp), Bool.false_eq_true, if_false]
    exact ih fun g hg => h g (List.mem_cons_of_mem _ hg)

/-- A section that is not there is read like one without members. -/
theorem valueOf_record {raw : Option Tree} (hraw : ∀ x, raw = some x → x.isTable = true)
    {r : Record Reader α} (h : ∀ f ∈ r.fields, f.required = false) (key : String) :
    valueOf raw key (Format.record r) r.blank =
      readMembers key ((raw.map members).getD []) r.fields r.blank := by
  cases raw with
  | none => exact (readMembers_nil h key r.blank).symm
  | some x =>
    cases x with
    | scalar o v => cases hraw _ rfl
    | list o ts => cases hraw _ rfl
    | table o ms => rfl

theorem lookup_section (t : Tree) (s f : String) :
    (((t.member? s).map members).getD []).lookup f = t.at? s f := by
  rw [at?]
  cases t.member? s <;> rfl

section
variable {t : Tree}

theorem valueOf_app (h : ∀ x, t.member? "app" = some x → x.isTable = true) :
    valueOf (t.member? "app") "app" Settings.appReader {} = (do
      let name ← valueOf (t.at? "app" "name") "app.name" Format.text "roster"
      let version ← valueOf (t.at? "app" "version") "app.version" Format.text "0.1.0"
      let environment ← valueOf (t.at? "app" "environment") "app.environment" Format.text
        "development"
      return ⟨name, version, environment⟩) := by
  refine (valueOf_record h (by simp [Field.optional]) "app").trans ?_
  simp only [← lookup_section]
  refine (readMembers_optional rfl ..).trans (bind_congr fun name => ?_)
  refine (readMembers_optional rfl ..).trans (bind_congr fun version => ?_)
  exact readMembers_optional rfl ..

theorem valueOf_service (h : ∀ x, t.member? "service" = some x → x.isTable = true) :
    valueOf (t.member? "service") "service" Settings.serviceReader {} = (do
      let backend ← valueOf (t.at? "service" "backend") "service.backend" Backend.reader .store
      return ⟨backend⟩) := by
  refine (valueOf_record h (by simp [Field.optional]) "service").trans ?_
  simp only [← lookup_section]
  exact readMembers_optional rfl ..

theorem valueOf_demo (h : ∀ x, t.member? "demo" = some x → x.isTable = true) :
    valueOf (t.member? "demo") "demo" Settings.demoReader {} = (do
      let id ← valueOf (t.at? "demo" "id") "demo.id" Format.int64 1
      let name ← valueOf (t.at? "demo" "name") "demo.name" Format.text "Zhang San"
      let email ← valueOf (t.at? "demo" "email") "demo.email" Format.text "zhangsan@example.com"
      return ⟨id, name, email⟩) := by
  refine (valueOf_record h (by simp [Field.optional]) "demo").trans ?_
  simp only [← lookup_section]
  refine (readMembers_optional rfl ..).trans (bind_congr fun id => ?_)
  refine (readMembers_optional rfl ..).trans (bind_congr fun name => ?_)
  exact readMembers_optional rfl ..

theorem valueOf_logging (h : ∀ x, t.member? "observability" = some x → x.isTable = true) :
    valueOf (t.member? "observability") "observability" Settings.loggingReader {} = (do
      let filter ← valueOf (t.at? "observability" "log_filter") "observability.log_filter"
        Format.text "info,roster=debug"
      let json ← valueOf (t.at? "observability" "json_logs") "observability.json_logs" Format.flag
        false
      return ⟨filter, json⟩) := by
  refine (valueOf_record h (by simp [Field.optional]) "observability").trans ?_
  simp only [← lookup_section]
  refine (readMembers_optional rfl ..).trans (bind_congr fun filter => ?_)
  exact readMembers_optional rfl ..

/-- Settings are read section by section from a table. -/
theorem read_table (h : t.isTable = true) : t.read Settings.reader = (do
    let app ← valueOf (t.member? "app") "app" Settings.appReader {}
    let service ← valueOf (t.member? "service") "service" Settings.serviceReader {}
    let demo ← valueOf (t.member? "demo") "demo" Settings.demoReader {}
    let logging ← valueOf (t.member? "observability") "observability" Settings.loggingReader {}
    return ⟨app, service, demo, logging⟩) := by
  cases t with
  | scalar o v => cases h
  | list o ts => cases h
  | table o ms =>
    refine (readMembers_optional rfl ..).trans (bind_congr fun app => ?_)
    refine (readMembers_optional rfl ..).trans (bind_congr fun service => ?_)
    refine (readMembers_optional rfl ..).trans (bind_congr fun demo => ?_)
    exact readMembers_optional rfl ..

/-- **Settings are read field by field** from a tree whose sections are tables. -/
theorem read_sectioned (h : t.Sectioned) : t.read Settings.reader = ofRaw t.at? := by
  rw [read_table h.root, valueOf_app (h.sections "app" (by decide)),
    valueOf_service (h.sections "service" (by decide)),
    valueOf_demo (h.sections "demo" (by decide)),
    valueOf_logging (h.sections "observability" (by decide))]
  simp only [ofRaw, bind_assoc, pure_bind]

/-! ## What was read -/

theorem isTable_of_member? {k : String} {x : Tree} (h : t.member? k = some x) :
    t.isTable = true := by
  cases t with
  | table o ms => rfl
  | _ => cases h

/-- A field that is there is in a section that is a table. -/
theorem isTable_of_at? {s f : String} {x : Tree} (h : t.at? s f = some x) :
    t.isTable = true ∧ ∀ y, t.member? s = some y → y.isTable = true := by
  obtain ⟨y, hy, hx⟩ := Option.bind_eq_some_iff.1 h
  refine ⟨isTable_of_member? hy, fun y' hy' => ?_⟩
  obtain rfl := Option.some.inj (hy.symm.trans hy')
  exact isTable_of_member? hx

variable {c : Settings} (hc : t.read Settings.reader = .ok c)
include hc

theorem valueOf_of_read (ht : t.isTable = true) :
    valueOf (t.member? "app") "app" Settings.appReader {} = .ok c.app ∧
      valueOf (t.member? "service") "service" Settings.serviceReader {} = .ok c.service ∧
      valueOf (t.member? "demo") "demo" Settings.demoReader {} = .ok c.demo ∧
      valueOf (t.member? "observability") "observability" Settings.loggingReader {} =
        .ok c.logging := by
  rw [read_table ht] at hc
  obtain ⟨app, happ, hc⟩ := Result.bind_eq_ok hc
  obtain ⟨service, hservice, hc⟩ := Result.bind_eq_ok hc
  obtain ⟨demo, hdemo, hc⟩ := Result.bind_eq_ok hc
  obtain ⟨logging, hlogging, hc⟩ := Result.bind_eq_ok hc
  obtain rfl := Except.ok.inj hc
  exact ⟨happ, hservice, hdemo, hlogging⟩

theorem app_of_read {f : String} {x : Tree} (hat : t.at? "app" f = some x) :
    valueOf (t.at? "app" "name") "app.name" Format.text "roster" = .ok c.app.name ∧
      valueOf (t.at? "app" "version") "app.version" Format.text "0.1.0" = .ok c.app.version ∧
      valueOf (t.at? "app" "environment") "app.environment" Format.text "development" =
        .ok c.app.environment := by
  obtain ⟨ht, hsection⟩ := isTable_of_at? hat
  obtain ⟨happ, -⟩ := valueOf_of_read hc ht
  rw [valueOf_app hsection] at happ
  obtain ⟨name, hname, happ⟩ := Result.bind_eq_ok happ
  obtain ⟨version, hversion, happ⟩ := Result.bind_eq_ok happ
  obtain ⟨environment, henvironment, happ⟩ := Result.bind_eq_ok happ
  rw [← Except.ok.inj happ]
  exact ⟨hname, hversion, henvironment⟩

theorem demo_of_read {f : String} {x : Tree} (hat : t.at? "demo" f = some x) :
    valueOf (t.at? "demo" "id") "demo.id" Format.int64 1 = .ok c.demo.id ∧
      valueOf (t.at? "demo" "name") "demo.name" Format.text "Zhang San" = .ok c.demo.name ∧
      valueOf (t.at? "demo" "email") "demo.email" Format.text "zhangsan@example.com" =
        .ok c.demo.email := by
  obtain ⟨ht, hsection⟩ := isTable_of_at? hat
  obtain ⟨-, -, hdemo, -⟩ := valueOf_of_read hc ht
  rw [valueOf_demo hsection] at hdemo
  obtain ⟨id, hid, hdemo⟩ := Result.bind_eq_ok hdemo
  obtain ⟨name, hname, hdemo⟩ := Result.bind_eq_ok hdemo
  obtain ⟨email, hemail, hdemo⟩ := Result.bind_eq_ok hdemo
  rw [← Except.ok.inj hdemo]
  exact ⟨hid, hname, hemail⟩

theorem logging_of_read {f : String} {x : Tree} (hat : t.at? "observability" f = some x) :
    valueOf (t.at? "observability" "log_filter") "observability.log_filter" Format.text
        "info,roster=debug" = .ok c.logging.filter ∧
      valueOf (t.at? "observability" "json_logs") "observability.json_logs" Format.flag false =
        .ok c.logging.json := by
  obtain ⟨ht, hsection⟩ := isTable_of_at? hat
  obtain ⟨-, -, -, hlogging⟩ := valueOf_of_read hc ht
  rw [valueOf_logging hsection] at hlogging
  obtain ⟨filter, hfilter, hlogging⟩ := Result.bind_eq_ok hlogging
  obtain ⟨json, hjson, hlogging⟩ := Result.bind_eq_ok hlogging
  rw [← Except.ok.inj hlogging]
  exact ⟨hfilter, hjson⟩

/-- **A text field that is there was read as a text**, whatever the other sections are. -/
theorem text_of_read (q : TextField) {x : Tree} (hat : t.at? q.path.1 q.path.2 = some x) :
    ∃ key, (Format.text : Reader String) key x = .ok (q.get c) := by
  have hvalue : ∃ key default, valueOf (t.at? q.path.1 q.path.2) key Format.text default =
      .ok (q.get c) := by
    cases q with
    | appName => exact ⟨_, _, (app_of_read hc hat).1⟩
    | version => exact ⟨_, _, (app_of_read hc hat).2.1⟩
    | environment => exact ⟨_, _, (app_of_read hc hat).2.2⟩
    | demoName => exact ⟨_, _, (demo_of_read hc hat).2.1⟩
    | email => exact ⟨_, _, (demo_of_read hc hat).2.2⟩
    | filter => exact ⟨_, _, (logging_of_read hc hat).1⟩
  obtain ⟨key, default, hvalue⟩ := hvalue
  rw [hat] at hvalue
  exact ⟨key, hvalue⟩

end

end Tree

end UserRegistry.Layers
