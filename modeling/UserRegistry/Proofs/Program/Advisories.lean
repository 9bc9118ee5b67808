import UserRegistry.Proofs.Configuration.Loading
import UserRegistry.Proofs.Layers.Visits
import UserRegistry.Proofs.Program.Outcome

/-!
# Advisories, when due and once

Valid settings may be risky, and whoever uses them is to be told so. A load that succeeds ends with
a warning for each advisory on the settings that it made; a load that fails warns of nothing
(`Advises`). Only the settings count: neither the layers that they came from nor the name that the
environment was loaded by, nor the order of the load.

When the program loads there is no log yet, so it tells the advisories again once there is one. A
run that finds a record therefore writes each of them once, and no other warning (`Cautions`).
-/

namespace UserRegistry

namespace Settings

def standInAdvice : String :=
  "Mock user service selected in production; all operations will succeed without storing data."

def Risky (s : Settings) : Prop :=
  s.app.environment = "production" ∧ s.service.backend = .mock

instance (s : Settings) : Decidable s.Risky :=
  inferInstanceAs (Decidable (_ ∧ _))

theorem warnings_eq (s : Settings) : s.warnings = if s.Risky then [standInAdvice] else [] := by
  simp only [warnings, AppSection.isProduction, Risky, Bool.and_eq_true, beq_iff_eq]
  rfl

end Settings

/-! ## Warnings among events -/

namespace Event

def warningsIn (es : List Event) : List Event :=
  es.filter fun e => e.level = .warn

/-- Where events come from and what they say. -/
def sayings (es : List Event) : List (String × String) :=
  es.map fun e => (e.target, e.message)

theorem warningsIn_append (es es' : List Event) :
    warningsIn (es ++ es') = warningsIn es ++ warningsIn es' :=
  List.filter_append ..

theorem warningsIn_of_quiet {es : List Event} (h : ∀ e ∈ es, e.level ≠ .warn) :
    warningsIn es = [] := by
  simpa [warningsIn] using h

theorem warningsIn_filter (φ : Filter) (es : List Event) :
    warningsIn (es.filter φ.enables) = (warningsIn es).filter φ.enables := by
  simp only [warningsIn, List.filter_filter, Bool.and_comm]

end Event

namespace Configuration

open Event (warningsIn sayings)
open UserRegistry.Layers

/-! ## Loading -/

/-- What a load of a place in a world warns of, when `r` is its result and `es` are its events. -/
structure Advises (p : Place) (w : World) (o : Order) (r : Result Settings) (es : List Event) :
    Prop where
  /-- The settings are what the merged layers hold. -/
  merged : ∀ s, r = .ok s → ∃ t, tree p.environment (p.sources w.files) w.vars o = .ok t ∧
    t.read Settings.reader = .ok s
  /-- The warnings are the advisories on the settings, in their order. -/
  told : ∀ s, r = .ok s →
    sayings (warningsIn es) = s.warnings.map fun advice => ("roster_config::loader", advice)
  /-- There is one advisory if a stand-in is used in production, and none otherwise. -/
  due : ∀ s, r = .ok s → (s.warnings = [Settings.standInAdvice] ↔
    s.app.environment = "production" ∧ s.service.backend = .mock) ∧
      (s.warnings = [] ↔ ¬ (s.app.environment = "production" ∧ s.service.backend = .mock))
  /-- A load that fails warns of nothing, wherever it fails. -/
  failed : ∀ f, r = .error f → warningsIn es = []

section
variable (p : Place) (w : World) (o : Order)

theorem warningsIn_load : warningsIn (p.load w o).events =
    match p.settings w o with
    | .ok s => s.warnings.map .loadedAdvisory
    | .error _ => [] := by
  have hannounced : warningsIn
      (.loadingEnvironment p.environment :: (p.found w.files).map .loadingFile) = [] := by
    refine Event.warningsIn_of_quiet fun e he => ?_
    rcases List.mem_cons.1 he with rfl | he
    · simp [Event.level]
    · obtain ⟨path, -, rfl⟩ := List.mem_map.1 he
      simp [Event.level]
  unfold Place.load
  cases p.settings w o with
  | error f => exact hannounced
  | ok s =>
    have hall : warningsIn (s.warnings.map .loadedAdvisory) = s.warnings.map .loadedAdvisory := by
      simp [warningsIn, Event.level]
    rw [Event.warningsIn_append, hannounced, hall, List.nil_append]

theorem advises_load : Advises p w o (p.load w o).result (p.load w o).events := by
  rw [load_result]
  refine ⟨fun s hs => ?_, fun s hs => ?_, fun s hs => ?_, fun f hf => ?_⟩
  · obtain ⟨t, ht, hread⟩ := Result.bind_eq_ok hs
    obtain ⟨s', hdecoded, hvalidated⟩ := Result.bind_eq_ok hread
    obtain ⟨rfl, -⟩ := validated_eq_ok hvalidated
    exact ⟨t, ht, Tree.steady_settings _ .listed _ _ _ (decoded_eq_ok hdecoded)⟩
  · simp only [warningsIn_load, hs, sayings, List.map_map]
    rfl
  · have hrisky : (s.warnings = [Settings.standInAdvice] ↔ s.Risky) ∧
        (s.warnings = [] ↔ ¬ s.Risky) := by
      rw [s.warnings_eq]
      split <;> simp [*]
    exact hrisky
  · rw [warningsIn_load, hf]

end

/-- An environment may be production without being called so. -/
example : warningsIn (Place.load ⟨"config", "staging"⟩
    ⟨Folder.empty.write "config/staging.toml"
        (.file ⟨"[app]\nenvironment = \"production\"\n", false⟩),
      .ofList [("ROSTER__SERVICE__BACKEND", "MOCK")]⟩).events =
    [.loadedAdvisory Settings.standInAdvice] := by decide +kernel

/-- Events that are no warnings make no difference. -/
theorem Advises.congr {p : Place} {w : World} {o : Order} {r : Result Settings}
    {es es' : List Event} (h : Advises p w o r es) (hes : warningsIn es' = warningsIn es) :
    Advises p w o r es' := by
  obtain ⟨hmerged, htold, hdue, hfailed⟩ := h
  rw [← hes] at htold hfailed
  exact ⟨hmerged, htold, hdue, hfailed⟩

theorem advises_start (p : Place) (w : World) (o : Order) :
    Advises p w o ((Loader.start p w o).result.map Loader.get) (Loader.start p w o).events := by
  rw [start_get, ← load_result]
  exact advises_load p w o

/-- What is told of the file of variables is no warning. -/
theorem warningsIn_readVariableFile (w : World) : warningsIn (readVariableFile w).1 = [] := by
  refine Event.warningsIn_of_quiet fun e he => ?_
  obtain ⟨fault, -, rfl⟩ := List.mem_map.1 he
  simp [Event.level]

theorem advises_discover (folder : String) (w : World) (o : Order) :
    Advises ⟨folder, environmentIn (readVariableFile w).2.vars⟩ (readVariableFile w).2 o
      ((Loader.discover folder w o).1.result.map Loader.get)
      (Loader.discover folder w o).1.events := by
  have hdiscover : Loader.discover folder w o =
      ((Loader.start ⟨folder, environmentIn (readVariableFile w).2.vars⟩
        (readVariableFile w).2 o).after (readVariableFile w).1, (readVariableFile w).2) := rfl
  rw [hdiscover]
  refine (advises_start _ _ o).congr ?_
  rw [Report.after, Event.warningsIn_append, warningsIn_readVariableFile, List.nil_append]

theorem advises_reload (l : Loader) (w : World) (o : Order) :
    Advises l.place w o ((l.reload w o).1.result.map fun _ => (l.reload w o).2.get)
      (l.reload w o).1.events := by
  have hload := advises_load l.place w o
  have hreloaded : warningsIn [.reloaded] = [] := rfl
  cases hr : (l.place.load w o).result with
  | error f =>
    rw [hr] at hload
    unfold Loader.reload
    simp only [hr]
    exact hload
  | ok s =>
    rw [hr] at hload
    unfold Loader.reload
    simp only [hr]
    refine hload.congr ?_
    rw [Event.warningsIn_append, hreloaded, List.append_nil]

end Configuration

/-! ## The program -/

def Diagnostic.event? : Diagnostic → Option Event
  | event _ e => some e
  | line _ => none
  | panic _ => none

def Outcome.events (out : Outcome) : List Event :=
  out.diagnostics.filterMap Diagnostic.event?

namespace Program

open Event (warningsIn sayings)
open UserRegistry.Layers (Order)

/-- The demonstration tells neither of a load nor of anything risky. -/
theorem quiet_application (s : Settings) : ∀ e ∈ (Application.run (some s)).events,
    e.level ≠ .warn ∧ e.target ≠ "roster_config::loader" := by
  have hevents (b : Backend) (h : s.service.backend = b) : (Application.run (some s)).events =
      .creatingService b :: ((scenario b.service s.demo.user).run b.start).1.events := by
    subst h
    rfl
  cases hb : s.service.backend with
  | store =>
    have hstore := (hevents .store hb).trans <| congrArg
      (fun r => .creatingService .store :: r.1.events) (Store.run_scenario .empty s.demo.user)
    rw [hstore]
    dsimp only
    split <;> simp [Event.level, Event.target]
  | mock =>
    have hmock := (hevents .mock hb).trans <| congrArg
      (fun r => .creatingService .mock :: r.1.events) (StandIn.run_scenario s.demo.user ())
    rw [hmock]
    simp [Event.level, Event.target]

/-- What happens in a run with settings from the time on when there is a log. -/
def eventsOf (s : Settings) : List Event :=
  [.loggingInitialized s.logging.json] ++ Application.banner ++ Application.settingsInUse s ++
    Application.advisories s ++ (Application.run (some s)).events ++ [.done]

theorem events_diagnosticsOf (c : Console) (es : List Event) :
    (diagnosticsOf (some c) es).filterMap Diagnostic.event? = es.filter c.filter.enables := by
  have hevent : Diagnostic.event? ∘ Diagnostic.event c.json = some := rfl
  rw [diagnosticsOf, List.filterMap_map, hevent, List.filterMap_some, Console.passed]

/-- Among what happens in such a run, the advisories are the only warnings. -/
theorem warningsIn_eventsOf (s : Settings) :
    warningsIn (eventsOf s) = s.warnings.map .startupAdvisory := by
  have hbefore : warningsIn ([.loggingInitialized s.logging.json] ++ Application.banner ++
      Application.settingsInUse s) = [] := rfl
  have hadvisories : warningsIn (Application.advisories s) = s.warnings.map .startupAdvisory := by
    simp [Application.advisories, warningsIn, Event.level]
  have happlication : warningsIn (Application.run (some s)).events = [] :=
    Event.warningsIn_of_quiet fun e he => (quiet_application s e he).1
  have hdone : warningsIn [.done] = [] := rfl
  rw [eventsOf, Event.warningsIn_append, Event.warningsIn_append, Event.warningsIn_append, hbefore,
    hadvisories, happlication, hdone, List.nil_append, List.append_nil, List.append_nil]

theorem target_eventsOf (s : Settings) : ∀ e ∈ eventsOf s, e.target ≠ "roster_config::loader" := by
  have hadvisories : ∀ e ∈ Application.advisories s, e.target = "roster_app::startup" := by
    intro e he
    obtain ⟨advice, -, rfl⟩ := List.mem_map.1 he
    rfl
  intro e he
  simp only [eventsOf, List.mem_append, List.mem_singleton] at he
  rcases he with ((((rfl | he) | he) | he) | he) | rfl
  · simp [Event.target]
  · obtain rfl := List.mem_singleton.1 he
    simp [Event.target]
  · simp only [Application.settingsInUse, List.mem_cons, List.not_mem_nil, or_false] at he
    rcases he with rfl | rfl | rfl | rfl | rfl <;> simp [Event.target]
  · rw [hadvisories e he]
    decide
  · exact (quiet_application s e he).2
  · simp [Event.target]

section
variable [Patterns]

/-- What a run in a world warns of. -/
structure Cautions (w : World) (o : Order) (out : Outcome) : Prop where
  /-- The load at the beginning has warned of what is due. -/
  loading : ∀ l, started w o = .ok l →
    sayings (warningsIn (Configuration.Loader.discover Configuration.defaultFolder w o).1.events) =
      if l.get.Risky then [("roster_config::loader", Settings.standInAdvice)] else []
  /-- No event of the load is written: there was no log then. -/
  unheard : ∀ e ∈ out.events, e.target ≠ "roster_config::loader"
  /-- A run that ends well has settings and a filter. If the filter lets warnings of the start
  through, the advisory is written once if it is due, and no other warning is written. -/
  written : out.exitCode = 0 → ∃ l φ, started w o = .ok l ∧
    Console.chooseFilter (overrideIn w) l.get.logging.filter = .ok φ ∧
    (φ.enables (.startupAdvisory Settings.standInAdvice) = true →
      sayings (warningsIn out.events) =
        if l.get.Risky then [("roster_app::startup", Settings.standInAdvice)] else [])

/-- Of what happens in a run that finds a record, what the filter lets through is written. -/
theorem events_proceed {override : Option String} {s : Settings} {φ : Filter}
    (h : Console.chooseFilter override s.logging.filter = .ok φ) :
    (proceed override s).events = (eventsOf s).filter φ.enables := by
  simp only [proceed, Console.run_setUp, h, present, run_application, Outcome.events]
  exact events_diagnosticsOf ⟨φ, s.logging.json⟩ _

/-- Nothing is written of a load, whatever becomes of the run. -/
theorem target_written (w : World) (o : Order) :
    ∀ e ∈ (run w o).events, e.target ≠ "roster_config::loader" := by
  intro e he
  cases hpanic : panic? w o with
  | some cause =>
    rw [run_of_panic hpanic] at he
    cases he
  | none =>
    cases hstarted : started w o with
    | error f =>
      obtain ⟨φ, -, hgiveUp⟩ := giveUp_eq (overrideIn w) f
      rw [run_notLoaded hpanic hstarted, hgiveUp] at he
      obtain ⟨d, hd, hevent⟩ := List.mem_filterMap.1 he
      obtain ⟨e', he', rfl⟩ := List.mem_map.1 hd
      obtain rfl := Option.some.inj hevent
      have hmem := List.mem_of_mem_filter he'
      simp only [List.mem_cons, List.not_mem_nil, or_false] at hmem
      rcases hmem with rfl | rfl <;> simp [Event.target]
    | ok l =>
      rw [run_loaded hpanic hstarted] at he
      cases hchoose : Console.chooseFilter (overrideIn w) l.get.logging.filter with
      | error f =>
        rw [proceed_of_error hchoose] at he
        cases he
      | ok φ =>
        rw [events_proceed hchoose] at he
        exact target_eventsOf l.get e (List.mem_of_mem_filter he)

/-- A run that ends well is one that had settings and a filter. -/
theorem run_eq_proceed {w : World} {o : Order} (h : (run w o).exitCode = 0) :
    ∃ l φ, started w o = .ok l ∧
      Console.chooseFilter (overrideIn w) l.get.logging.filter = .ok φ ∧
      run w o = proceed (overrideIn w) l.get := by
  cases hpanic : panic? w o with
  | some cause =>
    rw [run_of_panic hpanic] at h
    cases h
  | none =>
    cases hstarted : started w o with
    | error f =>
      obtain ⟨φ, -, hgiveUp⟩ := giveUp_eq (overrideIn w) f
      rw [run_notLoaded hpanic hstarted, hgiveUp] at h
      cases h
    | ok l =>
      have hrun := run_loaded hpanic hstarted
      cases hchoose : Console.chooseFilter (overrideIn w) l.get.logging.filter with
      | error f =>
        rw [hrun, proceed_of_error hchoose] at h
        cases h
      | ok φ => exact ⟨l, φ, rfl, hchoose, hrun⟩

theorem cautions (w : World) (o : Order) : Cautions w o (run w o) where
  loading l hl := by
    have hadvises := Configuration.advises_discover Configuration.defaultFolder w o
    have hresult : (Configuration.Loader.discover Configuration.defaultFolder w o).1.result.map
        Configuration.Loader.get = .ok l.get := congrArg (Except.map _) hl
    rw [hadvises.told _ hresult, l.get.warnings_eq]
    split <;> rfl
  unheard := target_written w o
  written hcode := by
    obtain ⟨l, φ, hstarted, hchoose, hrun⟩ := run_eq_proceed hcode
    refine ⟨l, φ, hstarted, hchoose, fun henables => ?_⟩
    rw [hrun, events_proceed hchoose, Event.warningsIn_filter, warningsIn_eventsOf,
      l.get.warnings_eq]
    split
    · rw [List.map_singleton, List.filter_singleton, henables]
      rfl
    · rfl

open UserRegistry.Configuration (Advises Loader Place environmentIn readVariableFile)

/-- **Advisories are told when they are due, and once.** Every load warns of the advisories on the
settings that it made: a first load of a place, one that finds its place by the variables, and every
later one. A run of the program writes them once, after it has set up its log. -/
theorem advises_once :
    (∀ (p : Place) (w : World) (o : Order),
      Advises p w o ((Loader.start p w o).result.map Loader.get) (Loader.start p w o).events) ∧
    (∀ (folder : String) (w : World) (o : Order),
      Advises ⟨folder, environmentIn (readVariableFile w).2.vars⟩ (readVariableFile w).2 o
        ((Loader.discover folder w o).1.result.map Loader.get)
        (Loader.discover folder w o).1.events) ∧
    (∀ (l : Loader) (w : World) (o : Order), Advises l.place w o
      ((l.reload w o).1.result.map fun _ => (l.reload w o).2.get) (l.reload w o).1.events) ∧
    ∀ (w : World) (o : Order), Cautions w o (run w o) := by
  refine ⟨?_, ?_, ?_, ?_⟩
  · exact Configuration.advises_start
  · exact Configuration.advises_discover
  · exact Configuration.advises_reload
  · exact cautions

end

end Program

end UserRegistry
