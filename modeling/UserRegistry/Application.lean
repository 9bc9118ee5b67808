import UserRegistry.Service.Choice

/-!
# The application

The demonstration creates a user and reads it back through whatever service there is. The
application runs it against the service that the settings choose; the startup messages tell
which settings are in use.

| here | there |
| --- | --- |
| `scenario` | `run_scenario` |
| `Application.run` | `AppBuilder::run` |
| `banner`, `settingsInUse` | `print_banner`, `print_startup_info` |
| `advisories` | `log_config_warnings` |
-/

namespace UserRegistry

/-- Creates a user and reads the record under its id back (`run_scenario`). What is found is what
the service answers, which need not be what was created. -/
def scenario (service : Service σ) (u : User) : Action σ User := do
  .tell (.runningScenario u.id)
  service.create (some u)
  let found ← service.get u.id
  .tell (.foundUser found)
  pure found

/-- What is told at the end of the demonstration: the record found, if there is one. -/
def toldAtEnd : Result User → List Event
  | .ok u => [.foundUser u]
  | .error _ => []

section
variable {service : Service σ} {u : User} {s t : σ} {es : List Event}

theorem run_scenario_error {f : Failure}
    (hcreate : (service.create (some u)).run s = (⟨.error f, es⟩, t)) :
    (scenario service u).run s = (⟨.error f, .runningScenario u.id :: es⟩, t) := by
  unfold scenario
  rw [Action.run_bind_ok (Action.run_tell _ s), Action.run_bind_error hcreate]
  rfl

theorem run_scenario_ok {r : Report User} {t' : σ}
    (hcreate : (service.create (some u)).run s = (⟨.ok (), es⟩, t))
    (hget : (service.get u.id).run t = (r, t')) :
    (scenario service u).run s =
      (⟨r.result, .runningScenario u.id :: (es ++ (r.events ++ toldAtEnd r.result))⟩, t') := by
  obtain ⟨result, events⟩ := r
  unfold scenario
  rw [Action.run_bind_ok (Action.run_tell _ s), Action.run_bind_ok hcreate]
  cases result with
  | ok v =>
    rw [Action.run_bind_ok hget]
    rfl
  | error f =>
    rw [Action.run_bind_error hget]
    simp [Report.after, toldAtEnd]

end

namespace Application

/-- Runs the demonstration (`AppBuilder::run`) with settings, or with the defaults if there are
none. -/
def run (settings : Option Settings) : Report User := do
  let s := settings.getD {}
  let state ← s.service.backend.choose
  ((scenario s.service.backend.service s.demo.user).run state).1

/-- What `print_banner` tells. -/
def banner : List Event :=
  [.banner]

/-- What `print_startup_info` tells. -/
def settingsInUse (s : Settings) : List Event :=
  [.rule, .runningApplication s.app.name s.app.version, .runningEnvironment s.app.environment,
    .runningBackend s.service.backend, .rule]

/-- What `log_config_warnings` tells. -/
def advisories (s : Settings) : List Event :=
  s.warnings.map .startupAdvisory

end Application

end UserRegistry
