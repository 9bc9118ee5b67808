import Mathlib.Data.List.Forall2
import UserRegistry.Proofs.Json.RoundTrip
import UserRegistry.Proofs.Json.Unambiguous
import UserRegistry.Proofs.Log.Installing
import UserRegistry.Proofs.World.Paths

/-!
# A log of documents

Where events are written as documents, the log has one line for each event that the filter lets
through, in their order, and no other line (`Tells`). Names, email addresses and configured texts
are free and get into messages as they are, line feeds and quotes included; none of them ends a
line or a text within it, and so none of them can pass for an event.

Two facts about a single document carry this: it holds no control character, and it is a text of
one value only (`Event.line_document`). The log of a process grows by what is written of one event
after the other, and both facts survive that (`Documented.notice`), whatever operations the events
come from (`Process.tells_run`).
-/

namespace UserRegistry

open Keyed (under)

/-! ## Lines -/

namespace Text

/-- The lines of a text. The last one need not be ended. -/
def lines (cs : List Char) : List (List Char) :=
  if lastPart '\n' cs = [] then (split '\n' cs).dropLast else split '\n' cs

theorem lines_nil : lines [] = [] := rfl

theorem lines_append_cons (cs ds : List Char) :
    lines (cs ++ '\n' :: ds) = split '\n' cs ++ lines ds := by
  unfold lines
  rw [lastPart_append_cons, split_append_cons,
    List.dropLast_append_of_ne_nil (split_ne_nil '\n' ds)]
  split <;> rfl

/-- Where the last line is ended, a new one begins. -/
theorem lines_append {cs : List Char} (h : lastPart '\n' cs = []) (ds : List Char) :
    lines (cs ++ ds) = lines cs ++ lines ds := by
  rcases (lastPart_eq_nil_iff '\n' cs).1 h with rfl | hlast
  · rw [lines_nil, List.nil_append, List.nil_append]
  · obtain ⟨bs, rfl⟩ := List.getLast?_eq_some_iff.1 hlast
    rw [List.append_assoc, List.singleton_append, lines_append_cons, lines_append_cons, lines_nil,
      List.append_nil]

/-- A text without line feeds, ended, is one line. -/
theorem lines_concat {line : List Char} (h : '\n' ∉ line) : lines (line ++ ['\n']) = [line] := by
  rw [lines_append_cons, split_of_notMem h, lines_nil, List.append_nil]

theorem lastPart_append_eq_nil {sep : Char} {cs ds : List Char} (hc : lastPart sep cs = [])
    (hd : lastPart sep ds = []) : lastPart sep (cs ++ ds) = [] := by
  rcases (lastPart_eq_nil_iff sep cs).1 hc with rfl | hlast
  · rwa [List.nil_append]
  · obtain ⟨bs, rfl⟩ := List.getLast?_eq_some_iff.1 hlast
    rwa [List.append_assoc, List.singleton_append, lastPart_append_cons]

end Text

/-! ## The line of an event -/

namespace Event

/-- What the members of a document say of an event; each of them is there once. -/
structure Described (time : String) (e : Event) (ms fs : List (String × Json.Value)) : Prop where
  time : under "timestamp" ms = [.text time]
  level : under "level" ms = [.text e.level.name]
  target : under "target" ms = [.text e.target]
  fields : under "fields" ms = [.object fs]
  message : under "message" fs = [.text e.message]
  others : ∀ f ∈ e.fields, under f.1 fs = [.flag f.2]

/-- A line is the document of an event. -/
structure Line (time : String) (e : Event) (line : List Char) : Prop where
  /-- It holds no control character. -/
  visible : Json.Visible line
  /-- It is one object that describes the event, and cannot be read as anything else. -/
  document : ∃ ms fs, (∀ v, Json.Spells v line ↔ v = .object ms) ∧ Described time e ms fs

/-- What the document of an event says under `fields`. -/
def fieldMembers (e : Event) : List (String × Json.Value) :=
  ("message", .text e.message) :: e.fields.map fun f => (f.1, .flag f.2)

/-- What the document of an event says. -/
def members (time : String) (e : Event) : List (String × Json.Value) :=
  [("timestamp", .text time), ("level", .text e.level.name), ("fields", .object e.fieldMembers),
    ("target", .text e.target)]

theorem memberValues_flags (fs : List (String × Bool)) :
    Json.memberValues (fs.map fun f => (f.1, .flag f.2)) =
      fs.map fun f => (f.1, Json.Value.flag f.2) := by
  induction fs with
  | nil => rfl
  | cons f fs ih => simp only [List.map_cons, Json.memberValues, Json.value, ih]

theorem value_document (time : String) (e : Event) :
    (Console.document time e).value = .object (e.members time) := by
  simp only [Console.document, Json.value, Json.memberValues, memberValues_flags, members,
    fieldMembers]

/-- There is one further field at most, and it is not called as the message is. -/
theorem fields_cases (e : Event) : e.fields = [] ∨ ∃ json, e.fields = [("json", json)] := by
  cases e with
  | loggingInitialized json => exact .inr ⟨json, rfl⟩
  | _ => exact .inl rfl

theorem described_members (time : String) (e : Event) :
    Described time e (e.members time) e.fieldMembers := by
  refine ⟨rfl, rfl, rfl, rfl, ?_, ?_⟩
  · rcases e.fields_cases with h | ⟨json, h⟩ <;> simp [under, fieldMembers, h]
  · rcases e.fields_cases with h | ⟨json, h⟩ <;> simp [under, fieldMembers, h]

/-- **The document of an event is a line of that event**, whatever the texts in it are. -/
theorem line_document (time : String) (e : Event) :
    Line time e (Console.document time e).chars := by
  refine ⟨Json.visible_chars _, e.members time, e.fieldMembers, fun v => ?_,
    described_members time e⟩
  rw [Json.spells_chars_iff, value_document]

end Event

/-! ## Logs -/

/-- A log tells of events, each with its time: its lines are those of the events, in their order,
and the last one is ended, too. -/
structure Tells (stamped : List (String × Event)) (log : String) : Prop where
  ended : Text.lastPart '\n' log.toList = []
  told : List.Forall₂ (fun p line => Event.Line p.1 p.2 line) stamped (Text.lines log.toList)

theorem tells_nil : Tells [] "" :=
  ⟨rfl, .nil⟩

theorem Tells.append {stamped stamped' : List (String × Event)} {log log' : String}
    (h : Tells stamped log) (h' : Tells stamped' log') :
    Tells (stamped ++ stamped') (log ++ log') := by
  refine ⟨?_, ?_⟩
  · rw [String.toList_append]
    exact Text.lastPart_append_eq_nil h.ended h'.ended
  · rw [String.toList_append, Text.lines_append h.ended]
    exact List.rel_append h.told h'.told

theorem tells_entry (time : String) (e : Event) :
    Tells [(time, e)] (Console.entry true time e) := by
  have hline := e.line_document time
  have hentry : (Console.entry true time e).toList =
      (Console.document time e).chars ++ ['\n'] := by
    simp [Console.entry, Json.render]
  refine ⟨?_, ?_⟩
  · rw [hentry, Text.lastPart_concat]
  · rw [hentry, Text.lines_concat hline.visible.notMem_feed]
    exact .cons hline .nil

/-- What is written of an event tells of it, if the filter lets it through, and of nothing else. -/
theorem tells_writeAny (φ : Filter) (time : String) (e : Event) :
    Tells ([(time, e)].filter fun p => φ.enables p.2)
      (Console.writeAny (some ⟨φ, true⟩) time [e]) := by
  cases h : φ.enables e with
  | true =>
    have hwritten : Console.writeAny (some ⟨φ, true⟩) time [e] = Console.entry true time e := by
      simp [Console.writeAny, Console.write, Console.passed, h]
    simp only [hwritten, List.filter_singleton, h, cond_true]
    exact tells_entry time e
  | false =>
    have hwritten : Console.writeAny (some ⟨φ, true⟩) time [e] = "" := by
      simp [Console.writeAny, Console.write, Console.passed, h]
    simp only [hwritten, List.filter_singleton, h, cond_false]
    exact tells_nil

/-! ## Processes -/

/-- A service of some kind, in the state that it has. -/
structure Served where
  {σ : Type}
  service : Service σ
  state : σ

namespace Served

def ofBackend (b : Backend) : Served :=
  ⟨b.service, b.start⟩

/-- Makes a request: what happens on the way, and the service afterwards. -/
def ask (s : Served) (r : Request) : List Event × Served :=
  let (report, state) := (r.perform s.service).run s.state
  (report.events, ⟨s.service, state⟩)

end Served

/-- What can be done in a process. -/
inductive Operation where
  /-- An attempt to set up logging. -/
  | setUp (attempt : Attempt)
  /-- The application is run with settings, or with the defaults. -/
  | application (settings : Option Settings)
  | banner
  | settingsInUse (settings : Settings)
  | advisories (settings : Settings)
  /-- A service is chosen, and is there from then on. -/
  | choose (backend : Backend)
  /-- One of the services is asked. -/
  | request (position : Nat) (request : Request)

/-- A process: its logging, its services, what has happened in it and what was written of that. -/
structure Process where
  console : Option Console
  services : List Served
  happened : List (String × Event)
  log : String

namespace Process

section
-- The time of every event, by how many there were before it.
variable [Patterns] (clock : Nat → String)

def notice (p : Process) (e : Event) : Process :=
  let time := clock p.happened.length
  { p with
    happened := p.happened ++ [(time, e)]
    log := p.log ++ Console.writeAny p.console time [e] }

def noticeAll (p : Process) (es : List Event) : Process :=
  es.foldl (notice clock) p

def perform (p : Process) : Operation → Process
  | .setUp a =>
    let (report, slot) := a.perform.run p.console
    noticeAll clock { p with console := slot } report.events
  | .application settings => noticeAll clock p (Application.run settings).events
  | .banner => noticeAll clock p Application.banner
  | .settingsInUse s => noticeAll clock p (Application.settingsInUse s)
  | .advisories s => noticeAll clock p (Application.advisories s)
  | .choose b => noticeAll clock { p with services := p.services ++ [.ofBackend b] } b.choose.events
  | .request i r =>
    match p.services[i]? with
    | none => p
    | some s =>
      let (events, s') := s.ask r
      noticeAll clock { p with services := p.services.set i s' } events

def run (p : Process) (ops : List Operation) : Process :=
  ops.foldl (perform clock) p

end

/-- Logging is set up with a filter, to write documents, and the log tells of what has happened and
is let through. -/
structure Documented (φ : Filter) (p : Process) : Prop where
  console : p.console = some ⟨φ, true⟩
  tells : Tells (p.happened.filter fun q => φ.enables q.2) p.log

variable {clock : Nat → String} {φ : Filter} {p : Process}

theorem Documented.notice (h : Documented φ p) (e : Event) :
    Documented φ (p.notice clock e) := by
  refine ⟨h.console, ?_⟩
  simp only [Process.notice, List.filter_append, h.console]
  exact h.tells.append (tells_writeAny φ _ e)

theorem Documented.noticeAll (h : Documented φ p) (es : List Event) :
    Documented φ (p.noticeAll clock es) := by
  induction es generalizing p with
  | nil => exact h
  | cons e es ih => exact ih (h.notice e)

theorem Documented.serving (h : Documented φ p) (services : List Served) :
    Documented φ { p with services := services } :=
  ⟨h.console, h.tells⟩

section
variable [Patterns]

/-- A further attempt to set up logging changes nothing, and other operations leave it alone. -/
theorem Documented.perform (h : Documented φ p) (op : Operation) :
    Documented φ (p.perform clock op) := by
  cases op with
  | setUp a =>
    obtain ⟨hevents, hslot⟩ := a.run_some ⟨φ, true⟩
    simp only [Process.perform, h.console, hevents, hslot]
    exact ⟨rfl, h.tells⟩
  | application settings => exact h.noticeAll _
  | banner => exact h.noticeAll _
  | settingsInUse s => exact h.noticeAll _
  | advisories s => exact h.noticeAll _
  | choose b => exact (h.serving _).noticeAll _
  | request i r =>
    simp only [Process.perform]
    split
    · exact h
    · exact (h.serving _).noticeAll _

theorem Documented.run (h : Documented φ p) (ops : List Operation) :
    Documented φ (p.run clock ops) := by
  induction ops generalizing p with
  | nil => exact h
  | cons op ops ih => exact ih (h.perform op)

/-- A set-up that succeeds and writes documents begins such a log. -/
theorem documented_setUp {a : Attempt} {slot : Option Console}
    (hsetUp : (a.perform.run slot).1.result = .ok ()) (hjson : a.logging.json = true)
    (services : List Served) :
    ∃ φ, a.Uses φ ∧ Documented φ (perform clock ⟨slot, services, [], ""⟩ (.setUp a)) := by
  obtain ⟨φ, hφ, hrun⟩ := Attempt.run_eq_ok hsetUp
  refine ⟨φ, hφ, ?_⟩
  have hempty : Documented φ ⟨some ⟨φ, true⟩, services, [], ""⟩ := ⟨rfl, tells_nil⟩
  simp only [perform, hrun, hjson]
  exact hempty.noticeAll _

/-- **No text can pass for an event.** Once logging is set up to write documents, the log has one
line for each event that the filter in use lets through, in the order of the events, whatever is
done in the process, whatever services and texts it is given and whatever the times are. Every line
is an object with the level, the target and the message of its event, and can be read in no other
way. -/
theorem tells_run {a : Attempt} {slot : Option Console}
    (hsetUp : (a.perform.run slot).1.result = .ok ()) (hjson : a.logging.json = true)
    (clock : Nat → String) (services : List Served) (ops : List Operation) :
    ∃ φ, a.Uses φ ∧
      Tells ((run clock ⟨slot, services, [], ""⟩ (.setUp a :: ops)).happened.filter
          fun q => φ.enables q.2)
        (run clock ⟨slot, services, [], ""⟩ (.setUp a :: ops)).log := by
  obtain ⟨φ, hφ, hbegun⟩ := documented_setUp hsetUp hjson services
  exact ⟨φ, hφ, (hbegun.run ops).tells⟩

end

/-- A user whose name looks like the end of a line and the beginning of another one. -/
def forger : User :=
  ⟨⟨7⟩, "Eve\"\x7d\x7d\r\n\x7b\"level\":\"ERROR\",\"fields\":\x7b\"message\":\"", "\\\x00\x1b\x7f"⟩

/-- A service that has the forger under every id. -/
def forging : Service Unit :=
  ⟨fun _ => pure forger, fun _ => pure (), fun _ => pure (), fun _ => pure ()⟩

/-- Settings with a line feed, a quote and a backslash in their texts. -/
def forgedSettings : Settings where
  app := { name := "roster\n", version := "\"", environment := "\\\t" }

def documenting : Attempt :=
  ⟨none, "info", true⟩

local instance anyPattern : Patterns := .any

/-- The startup messages, and the demonstration on the service that is there. -/
def forgeries : Process :=
  run (fun _ => "now") ⟨none, [⟨forging, ()⟩], [], ""⟩
    [.setUp documenting, .settingsInUse forgedSettings,
      .request 0 (.scenario ⟨⟨7⟩, "Eve", "eve@example.com"⟩)]

/-- What is let through of it. -/
def forgeriesHeard : List (String × Event) :=
  [.rule, .runningApplication "roster\n" "\"", .runningEnvironment "\\\t", .runningBackend .store,
    .rule, .foundUser forger].map fun e => ("now", e)

theorem tells_run_forged :
    (documenting.perform.run none).1.result = .ok () ∧ documenting.logging.json = true ∧
      Tells forgeriesHeard forgeries.log := by
  have hread : Filter.read "info" = .ok ⟨[⟨none, [], some .info⟩]⟩ := by decide +kernel
  have hsetUp : (documenting.perform.run none).1.result = .ok () := by decide +kernel
  have hheard : forgeries.happened.filter
      (fun q => Filter.enables ⟨[⟨none, [], some .info⟩]⟩ q.2) = forgeriesHeard := by
    decide +kernel
  obtain ⟨φ, hφ, htells⟩ := tells_run hsetUp rfl (fun _ => "now") [⟨forging, ()⟩]
    [.settingsInUse forgedSettings, .request 0 (.scenario ⟨⟨7⟩, "Eve", "eve@example.com"⟩)]
  obtain rfl : φ = ⟨[⟨none, [], some .info⟩]⟩ := by
    rcases hφ with ⟨text, htext, -⟩ | ⟨-, hφ⟩
    · cases htext
    · exact Except.ok.inj (hφ.symm.trans hread)
  refine ⟨hsetUp, rfl, ?_⟩
  rw [← hheard]
  exact htells

end Process

end UserRegistry
