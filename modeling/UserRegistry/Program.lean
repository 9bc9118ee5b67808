import UserRegistry.Application
import UserRegistry.Configuration.Loader
import UserRegistry.Log.Console

/-!
# The program

Loads the configuration of the default folder, sets up logging as it says, runs the demonstration
and writes the record found. The output holds that record alone, once for a reader and once as a
document; everything else goes to the diagnostics. What happens before logging is set up is not
written. A run may also end in a panic, on the way to the configuration or to the filter.

| here | there |
| --- | --- |
| `run` | `main` |
| `proceed`, `present` | `main` from `init_logging` on, and `run` |
| `giveUp`, `failed` | `fail`, and the exit with 1 |
| `panicked` | a panic, which `main` does not catch |
-/

namespace UserRegistry

/-- Something written to the diagnostics. -/
inductive Diagnostic where
  | event (json : Bool) (e : Event)
  | line (text : String)
  | panic (cause : Panic)
deriving DecidableEq, Repr

def Diagnostic.text (time : String) : Diagnostic → String
  | event json e => Console.entry json time e
  | line text => text ++ "\n"
  | panic cause => cause.message ++ "\n"

/-- What a run of the program leaves. -/
structure Outcome where
  exitCode : Nat
  output : String
  diagnostics : List Diagnostic
deriving DecidableEq, Repr

namespace Program

/-- The variable that holds a filter which goes before the one of the settings. -/
def filterVariable : String := "RUST_LOG"

/-- The record found, for a reader and as a document. -/
def outputOf (u : User) : String :=
  "Found user: " ++ u.text ++ "\n" ++ u.toJson.render ++ "\n"

/-- The diagnostics of events once logging may be set up. -/
def diagnosticsOf (c : Option Console) (es : List Event) : List Diagnostic :=
  match c with
  | some c => (c.passed es).map (.event c.json)
  | none => []

/-- The exit code after a panic. A build may be made to abort instead, which leaves none. -/
def panicCode : Nat := 101

def panicked (cause : Panic) : Outcome :=
  ⟨panicCode, "", [.panic cause]⟩

def failed (diagnostics : List Diagnostic) : Outcome :=
  ⟨1, "", diagnostics⟩

section
variable [Patterns]

/-- The program where `from_default_location` fails: logging by default, and then `fail`. -/
def giveUp (override : Option String) (f : Failure) : Outcome :=
  let (r, console) := (Console.setUp override {}).run none
  failed (diagnosticsOf console (r.events ++ [.gaveUp f]))

/-- The rest of a run once logging is set up (`run`). `events` happened while it was. -/
def present (console : Option Console) (events : List Event) (s : Settings) : Outcome :=
  let before := events ++ Application.banner ++ Application.settingsInUse s ++
    Application.advisories s
  let r := Application.run (some s)
  match r.result with
  | .ok u => ⟨0, outputOf u, diagnosticsOf console (before ++ r.events ++ [.done])⟩
  | .error f => failed (diagnosticsOf console (before ++ r.events ++ [.gaveUp f]))

/-- The program with settings: `init_logging` and then `run`. -/
def proceed (override : Option String) (s : Settings) : Outcome :=
  let (r, console) := (Console.setUp override s.logging).run none
  match r.result with
  | .ok () => present console r.events s
  | .error f => failed [.line ("Error: " ++ f.message)]

/-- Why the program panics, if it does: on the way to the configuration, or else to the filter. -/
def panic? (w : World) (o : Layers.Order := .listed) : Option Panic :=
  match Configuration.Loader.discoverPanic? Configuration.defaultFolder w o with
  | some cause => some cause
  | none =>
    let (started, w) := Configuration.Loader.discover Configuration.defaultFolder w o
    let logging : LoggingSection := match started.result with
      | .ok l => l.get.logging
      | .error _ => {}
    if Console.choosingPanics (w.vars.get? filterVariable) logging.filter then
      some .insideCharacter
    else none

/-- Runs the program (`main`), where loading has an order. -/
def run (w : World) (o : Layers.Order := .listed) : Outcome :=
  match panic? w o with
  | some cause => panicked cause
  | none =>
    let (started, w) := Configuration.Loader.discover Configuration.defaultFolder w o
    let override := w.vars.get? filterVariable
    match started.result with
    | .ok l => proceed override l.get
    | .error f => giveUp override f

end

end Program

end UserRegistry
