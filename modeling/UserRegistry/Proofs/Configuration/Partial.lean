import UserRegistry.Proofs.Json.Reading
import UserRegistry.Proofs.Layers.Merging

/-!
# Partial configuration documents

A document may give any of the nine settings and leave out the others. `Gives` says that a document
gives just the settings of a choice, each once and in its section, with anything else under other
names. It is then read as the settings that have these values and the defaults for the rest
(`takes_given`), in every format. The document that is written for settings gives all of them, so
that it is read back (`read_given`).
-/

namespace UserRegistry

open Keyed (under)

inductive Datum where
  | int (value : Int64)
  | text (value : String)
  | flag (value : Bool)
deriving DecidableEq, Repr

/-- How a value stands in a document. -/
def Form.leaf (form : Form ν) : Datum → ν
  | .int i => form.int i
  | .text s => form.text s
  | .flag b => form.flag b

inductive Leaf where
  | appName
  | appVersion
  | appEnvironment
  | backend
  | demoId
  | demoName
  | demoEmail
  | logFilter
  | jsonLogs
deriving DecidableEq, Repr

namespace Leaf

def path : Leaf → String × String
  | appName => ("app", "name")
  | appVersion => ("app", "version")
  | appEnvironment => ("app", "environment")
  | backend => ("service", "backend")
  | demoId => ("demo", "id")
  | demoName => ("demo", "name")
  | demoEmail => ("demo", "email")
  | logFilter => ("observability", "log_filter")
  | jsonLogs => ("observability", "json_logs")

/-- The value of a setting. A backend is given by its name. -/
def get : Leaf → Settings → Datum
  | appName, c => .text c.app.name
  | appVersion, c => .text c.app.version
  | appEnvironment, c => .text c.app.environment
  | backend, c => .text c.service.backend.name
  | demoId, c => .int c.demo.id
  | demoName, c => .text c.demo.name
  | demoEmail, c => .text c.demo.email
  | logFilter, c => .text c.logging.filter
  | jsonLogs, c => .flag c.logging.json

end Leaf

/-- A section gives its chosen settings, each once and with the value that `c` has for it. Under
other names there may be anything. -/
def GivesSection (form : Form ν) (c : Settings) (given : Leaf → Bool) (s : String)
    (ns : List (String × ν)) : Prop :=
  ∀ i : Leaf, i.path.1 = s → under i.path.2 ns = if given i then [form.leaf (i.get c)] else []

/-- A document gives the chosen settings in their sections. A section without chosen settings may
be left out, and under names that are no section's there may be anything. -/
structure Gives (form : Form ν) (c : Settings) (given : Leaf → Bool) (ms : List (String × ν)) :
    Prop where
  sections : ∀ s ∈ Layers.sections,
    (under s ms = [] ∧ ∀ i : Leaf, i.path.1 = s → given i = false) ∨
      ∃ ns, under s ms = [form.table ns] ∧ GivesSection form c given s ns

/-- The settings that have the chosen values of `c` and the defaults for the rest. -/
def Settings.keeping (c : Settings) (given : Leaf → Bool) : Settings :=
  let d : Settings := {}
  { app := {
      name := if given .appName then c.app.name else d.app.name
      version := if given .appVersion then c.app.version else d.app.version
      environment := if given .appEnvironment then c.app.environment else d.app.environment }
    service := { backend := if given .backend then c.service.backend else d.service.backend }
    demo := {
      id := if given .demoId then c.demo.id else d.demo.id
      name := if given .demoName then c.demo.name else d.demo.name
      email := if given .demoEmail then c.demo.email else d.demo.email }
    logging := {
      filter := if given .logFilter then c.logging.filter else d.logging.filter
      json := if given .jsonLogs then c.logging.json else d.logging.json } }

theorem Leaf.get_keeping (i : Leaf) (c : Settings) (given : Leaf → Bool) :
    i.get (c.keeping given) = if given i then i.get c else i.get {} := by
  cases i <;> simp only [Leaf.get, Settings.keeping] <;> split <;> rfl

namespace Format.Laws

variable {ρ : Type → Type} [Format ρ] {ν : Type} {form : Form ν} (L : Format.Laws ρ form)
  {c : Settings} {given : Leaf → Bool} {ns : List (String × ν)}
include L

theorem takes_app (h : GivesSection form c given "app" ns) :
    L.Takes Settings.appReader (form.table ns) (c.keeping given).app := by
  refine L.takes_record (α := AppSection) "struct AppMetadata" {} [
    (.optional "name" Format.text fun v a => { a with name := v },
      fun a => { a with name := if given .appName then c.app.name else a.name }),
    (.optional "version" Format.text fun v a => { a with version := v },
      fun a => { a with version := if given .appVersion then c.app.version else a.version }),
    (.optional "environment" Format.text fun v a => { a with environment := v },
      fun a => { a with
        environment := if given .appEnvironment then c.app.environment else a.environment })] ?_ ?_
  · simp [Independent, Field.optional]
  · simp only [List.forall_mem_cons, List.not_mem_nil, false_implies, implies_true, and_true]
    exact ⟨L.changes_optional (h .appName rfl) (fun _ => L.takes_text _) fun a => by split <;> rfl,
      L.changes_optional (h .appVersion rfl) (fun _ => L.takes_text _) fun a => by split <;> rfl,
      L.changes_optional (h .appEnvironment rfl) (fun _ => L.takes_text _) fun a => by
        split <;> rfl⟩

theorem takes_service (h : GivesSection form c given "service" ns) :
    L.Takes Settings.serviceReader (form.table ns) (c.keeping given).service := by
  have hname : Backend.byName.lookup c.service.backend.name = some c.service.backend := by
    cases c.service.backend <;> rfl
  refine L.takes_record (α := ServiceSection) "struct ServiceConfig" {} [
    (.optional "backend" Backend.reader fun v s => { s with backend := v },
      fun s => { s with backend := if given .backend then c.service.backend else s.backend })] ?_ ?_
  · simp [Independent]
  · simp only [List.forall_mem_cons, List.not_mem_nil, false_implies, implies_true, and_true]
    exact L.changes_optional (h .backend rfl) (fun _ => L.takes_oneOf _ hname) fun s => by
      split <;> rfl

theorem takes_demo (h : GivesSection form c given "demo" ns) :
    L.Takes Settings.demoReader (form.table ns) (c.keeping given).demo := by
  refine L.takes_record (α := DemoSection) "struct DemoConfig" {} [
    (.optional "id" Format.int64 fun v d => { d with id := v },
      fun d => { d with id := if given .demoId then c.demo.id else d.id }),
    (.optional "name" Format.text fun v d => { d with name := v },
      fun d => { d with name := if given .demoName then c.demo.name else d.name }),
    (.optional "email" Format.text fun v d => { d with email := v },
      fun d => { d with email := if given .demoEmail then c.demo.email else d.email })] ?_ ?_
  · simp [Independent, Field.optional]
  · simp only [List.forall_mem_cons, List.not_mem_nil, false_implies, implies_true, and_true]
    exact ⟨L.changes_optional (h .demoId rfl) (fun _ => L.takes_int _) fun d => by split <;> rfl,
      L.changes_optional (h .demoName rfl) (fun _ => L.takes_text _) fun d => by split <;> rfl,
      L.changes_optional (h .demoEmail rfl) (fun _ => L.takes_text _) fun d => by split <;> rfl⟩

theorem takes_logging (h : GivesSection form c given "observability" ns) :
    L.Takes Settings.loggingReader (form.table ns) (c.keeping given).logging := by
  refine L.takes_record (α := LoggingSection) "struct TelemetryConfig" {} [
    (.optional "log_filter" Format.text fun v l => { l with filter := v },
      fun l => { l with filter := if given .logFilter then c.logging.filter else l.filter }),
    (.optional "json_logs" Format.flag fun v l => { l with json := v },
      fun l => { l with json := if given .jsonLogs then c.logging.json else l.json })] ?_ ?_
  · simp [Independent, Field.optional]
  · simp only [List.forall_mem_cons, List.not_mem_nil, false_implies, implies_true, and_true]
    exact ⟨L.changes_optional (h .logFilter rfl) (fun _ => L.takes_text _) fun l => by
        split <;> rfl,
      L.changes_optional (h .jsonLogs rfl) (fun _ => L.takes_flag _) fun l => by split <;> rfl⟩

/-- A section is given or left out; if it is left out, none of its settings is chosen and it has
its defaults. -/
theorem changes_section {ms : List (String × ν)} (h : Gives form c given ms) {s : String}
    (hs : s ∈ Layers.sections) {β : Type} {r : ρ β} {b default : β}
    (hr : ∀ ns, GivesSection form c given s ns → L.Takes r (form.table ns) b)
    (hdefault : (∀ i : Leaf, i.path.1 = s → given i = false) → b = default) :
    ∃ p : Bool, b = (if p then b else default) ∧
      ∀ {α : Type} {put : β → α → α} {change : α → α},
        (∀ a, change a = if p then put b a else a) →
          Changes L.Takes ms (.optional s r put, change) := by
  rcases h.sections s hs with ⟨hunder, hnone⟩ | ⟨ns, hunder, hns⟩
  · exact ⟨false, hdefault hnone, fun {α put change} hchange =>
      .inl ⟨hunder, rfl, funext fun a => (hchange a).trans rfl⟩⟩
  · exact ⟨true, rfl, fun {α put change} hchange =>
      L.changes_optional (p := true) hunder (fun _ => hr ns hns) hchange⟩

/-- **A partial document is read as what it gives and the defaults for the rest.** -/
theorem takes_given {ms : List (String × ν)} (h : Gives form c given ms) :
    L.Takes Settings.reader (form.table ms) (c.keeping given) := by
  obtain ⟨p, happ, changesApp⟩ := L.changes_section h (s := "app") (by decide)
    (fun _ => L.takes_app) fun hnone => show _ = ({} : AppSection) by
      simp [Settings.keeping, hnone .appName rfl, hnone .appVersion rfl, hnone .appEnvironment rfl]
  obtain ⟨q, hservice, changesService⟩ := L.changes_section h (s := "service") (by decide)
    (fun _ => L.takes_service) fun hnone => show _ = ({} : ServiceSection) by
      simp [Settings.keeping, hnone .backend rfl]
  obtain ⟨p', hdemo, changesDemo⟩ := L.changes_section h (s := "demo") (by decide)
    (fun _ => L.takes_demo) fun hnone => show _ = ({} : DemoSection) by
      simp [Settings.keeping, hnone .demoId rfl, hnone .demoName rfl, hnone .demoEmail rfl]
  obtain ⟨q', hlogging, changesLogging⟩ := L.changes_section h (s := "observability") (by decide)
    (fun _ => L.takes_logging) fun hnone => show _ = ({} : LoggingSection) by
      simp [Settings.keeping, hnone .logFilter rfl, hnone .jsonLogs rfl]
  have hall : c.keeping given = ⟨if p then (c.keeping given).app else {},
      if q then (c.keeping given).service else {}, if p' then (c.keeping given).demo else {},
      if q' then (c.keeping given).logging else {}⟩ := by
    rw [← happ, ← hservice, ← hdemo, ← hlogging]
  rw [hall]
  refine L.takes_record (α := Settings) "struct AppConfig" {} [
    (.optional "app" Settings.appReader fun v s => { s with app := v },
      fun s => { s with app := if p then (c.keeping given).app else s.app }),
    (.optional "service" Settings.serviceReader fun v s => { s with service := v },
      fun s => { s with service := if q then (c.keeping given).service else s.service }),
    (.optional "demo" Settings.demoReader fun v s => { s with demo := v },
      fun s => { s with demo := if p' then (c.keeping given).demo else s.demo }),
    (.optional "observability" Settings.loggingReader fun v s => { s with logging := v },
      fun s => { s with logging := if q' then (c.keeping given).logging else s.logging })] ?_ ?_
  · simp [Independent, Field.optional]
  · simp only [List.forall_mem_cons, List.not_mem_nil, false_implies, implies_true, and_true]
    exact ⟨changesApp fun s => by split <;> rfl, changesService fun s => by split <;> rfl,
      changesDemo fun s => by split <;> rfl, changesLogging fun s => by split <;> rfl⟩

end Format.Laws

namespace Settings

theorem keeping_all (c : Settings) : c.keeping (fun _ => true) = c := rfl

/-- The document that is written for settings gives all of them. -/
theorem gives_toJson (c : Settings) :
    ∃ ms, c.toJson.value = .object ms ∧ Gives Json.form c (fun _ => true) ms := by
  refine ⟨_, rfl, ⟨fun s hs => ?_⟩⟩
  simp only [Layers.sections, List.mem_cons, List.not_mem_nil, or_false] at hs
  rcases hs with rfl | rfl | rfl | rfl
  all_goals
    refine .inr ⟨_, rfl, fun i hi => ?_⟩
    cases i <;> simp [Leaf.path] at hi <;> rfl

/-- Written settings are read back. -/
theorem read_toJson (c : Settings) : Json.read Settings.reader c.toJson.render = .ok c := by
  obtain ⟨ms, hvalue, hgives⟩ := gives_toJson c
  have hspells := Json.spells_chars c.toJson
  rw [hvalue] at hspells
  have hread := Json.read_spelled (Json.laws.takes_given hgives) .nil hspells .nil
  rwa [List.nil_append, List.append_nil, keeping_all] at hread

/-- **Partial documents, and whole ones.** Settings are read back from what is written for them. A
document in text that gives some of the settings of `c`, in any order, with any blanks and escapes
and with anything under other names, is read as settings that are those of `c` where they are given
and the defaults elsewhere; so is such a document in values. -/
theorem read_given :
    (∀ c : Settings, Json.read Settings.reader c.toJson.render = .ok c) ∧
    (∀ (c : Settings) (given : Leaf → Bool) (ms : List (String × Json.Value)),
      Gives Json.form c given ms → ∀ {g t g' : List Char}, Json.Gap g →
        Json.Spells (.object ms) t → Json.Gap g' →
          ∃ r, Json.read Settings.reader (String.ofList (g ++ (t ++ g'))) = .ok r ∧
            ∀ i : Leaf, i.get r = if given i then i.get c else i.get {}) ∧
    ∀ (c : Settings) (given : Leaf → Bool) (ms : List (String × Toml.Value)),
      Gives Toml.form c given ms →
        ∃ r, (Settings.reader : Toml.Reader Settings) (.table ms) = some r ∧
          ∀ i : Leaf, i.get r = if given i then i.get c else i.get {} := by
  refine ⟨read_toJson, fun c given ms h g t g' hg ht hg' => ?_, fun c given ms h => ?_⟩
  · exact ⟨c.keeping given, Json.read_spelled (Json.laws.takes_given h) hg ht hg',
      fun i => i.get_keeping c given⟩
  · exact ⟨c.keeping given, Toml.laws.takes_given h, fun i => i.get_keeping c given⟩

def partlyGiven : Settings :=
  { service := { backend := .mock }, demo := { id := 7, name := "Li Si" } }

def partChosen : Leaf → Bool
  | .backend | .demoName => true
  | _ => false

def partDocument : Json :=
  .object [("extra", .list [.flag true, .object []]), ("observability", .object []),
    ("demo", .object [("zip", .text "100000"), ("name", .text "Li Si")]),
    ("service", .object [("backend", .text "mock")])]

def partTable : List (String × Toml.Value) :=
  [("demo", .table [("name", .text "Li Si"), ("born", .moment "1979-05-27")]), ("app", .table []),
    ("service", .table [("backend", .text "mock"), ("pool", .float (.zero false))])]

theorem read_given_part :
    (∃ r, Json.read Settings.reader (String.ofList ([' '] ++ (partDocument.chars ++ ['\n']))) =
        .ok r ∧ ∀ i : Leaf, i.get r = if partChosen i then i.get partlyGiven else i.get {}) ∧
      ∃ r, (Settings.reader : Toml.Reader Settings) (.table partTable) = some r ∧
        ∀ i : Leaf, i.get r = if partChosen i then i.get partlyGiven else i.get {} := by
  have hsections : Layers.sections = ["app", "service", "demo", "observability"] := rfl
  refine ⟨read_given.2.1 partlyGiven partChosen _ ⟨?_⟩ (by simp [Json.Gap, Json.isGap])
    (Json.spells_chars partDocument) (by simp [Json.Gap, Json.isGap]),
    read_given.2.2 partlyGiven partChosen partTable ⟨?_⟩⟩
  · simp only [hsections, List.forall_mem_cons, List.not_mem_nil, false_implies, implies_true,
      and_true]
    refine ⟨.inl ⟨rfl, ?_⟩, .inr ⟨_, rfl, ?_⟩, .inr ⟨_, rfl, ?_⟩, .inr ⟨_, rfl, ?_⟩⟩ <;>
    · intro i hi
      cases i <;> simp [Leaf.path] at hi <;> rfl
  · simp only [hsections, List.forall_mem_cons, List.not_mem_nil, false_implies, implies_true,
      and_true]
    refine ⟨.inr ⟨_, rfl, ?_⟩, .inr ⟨_, rfl, ?_⟩, .inr ⟨_, rfl, ?_⟩, .inl ⟨rfl, ?_⟩⟩ <;>
    · intro i hi
      cases i <;> simp [Leaf.path] at hi <;> rfl

end Settings

end UserRegistry
