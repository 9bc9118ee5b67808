import UserRegistry.Program
import UserRegistry.Proofs.Json.RoundTrip
import UserRegistry.Proofs.Log.Installing
import UserRegistry.Proofs.Service.Demonstration
import UserRegistry.Proofs.World.Paths

/-!
# What a run of the program leaves

A run that does not panic ends in one of three ways, and `run_eq` says which: no configuration could
be loaded, the configured filter is malformed, or a record was found. There is no fourth way, since
the demonstration fails on no backend (`run_application`).

`leaves_run` is the contract: the exit code tells the third way from the others, only the third
way writes to the output, and its last line is a document of the record found whatever the
configured texts hold. A panic is an end of its own, with another exit code and no report
(`leaves_run_panics`).
-/

namespace UserRegistry

/-! ## The demonstration -/

namespace Program

/-- The record that the demonstration finds: the configured user in a store, the canned record
under the configured id otherwise. -/
def foundUser (s : Settings) : User :=
  match s.service.backend with
  | .store => ⟨s.demo.user.id, s.demo.user.name, s.demo.user.email⟩
  | .mock => ⟨s.demo.user.id, "Mock User", "mock@example.com"⟩

/-- The demonstration fails on no backend. -/
theorem run_application (s : Settings) : (Application.run (some s)).result = .ok (foundUser s) := by
  have hrun (b : Backend) (h : s.service.backend = b) :
      (Application.run (some s)).result =
        ((scenario b.service s.demo.user).run b.start).1.result := by
    subst h
    rfl
  unfold foundUser
  cases hb : s.service.backend with
  | store =>
    rw [hrun .store hb]
    exact congrArg (fun r => r.1.result) (Store.run_scenario .empty s.demo.user)
  | mock =>
    rw [hrun .mock hb]
    exact congrArg (fun r => r.1.result) (StandIn.run_scenario s.demo.user ())

/-! ## The three ways a run ends -/

open UserRegistry.Layers (Order)

def started (w : World) (o : Order := .listed) : Result Configuration.Loader :=
  (Configuration.Loader.discover Configuration.defaultFolder w o).1.result

/-- The filter of the variables, after the file of variables was read. -/
def overrideIn (w : World) : Option String :=
  (Configuration.readVariableFile w).2.vars.get? "RUST_LOG"

section
variable [Patterns] {w : World} {o : Order}

theorem run_of_panic {cause : Panic} (h : panic? w o = some cause) : run w o = panicked cause := by
  rw [run, h]

theorem run_eq (h : panic? w o = none) : run w o =
    match started w o with
    | .ok l => proceed (overrideIn w) l.get
    | .error f => giveUp (overrideIn w) f := by
  rw [run, h]
  rfl

theorem run_loaded {l : Configuration.Loader} (hpanic : panic? w o = none)
    (h : started w o = .ok l) : run w o = proceed (overrideIn w) l.get := by
  rw [run_eq hpanic, h]

theorem run_notLoaded {f : Failure} (hpanic : panic? w o = none) (h : started w o = .error f) :
    run w o = giveUp (overrideIn w) f := by
  rw [run_eq hpanic, h]

theorem proceed_of_ok {override : Option String} {s : Settings} {φ : Filter}
    (h : Console.chooseFilter override s.logging.filter = .ok φ) :
    (proceed override s).exitCode = 0 ∧ (proceed override s).output = outputOf (foundUser s) := by
  simp only [proceed, Console.run_setUp, h, present, run_application, and_self]

theorem proceed_of_error {override : Option String} {s : Settings} {f : Failure}
    (h : Console.chooseFilter override s.logging.filter = .error f) :
    proceed override s = failed [.line ("Error: " ++ f.message)] := by
  simp only [proceed, Console.run_setUp, h]

/-! ## The filter where no configuration could be loaded -/

/-- The filter of the settings by default is a well-formed one, whatever patterns there are. -/
theorem read_defaultFilter : ∃ φ, Filter.read "info,roster=debug" = .ok φ :=
  ⟨_, by with_unfolding_all rfl⟩

/-- The filter in effect where no configuration could be loaded: the one of the variables if it is
well-formed, else the default one. -/
def InEffect (override : Option String) (φ : Filter) : Prop :=
  (∃ text, override = some text ∧ Filter.read text = .ok φ) ∨
    (∀ text, override = some text → ∀ ψ, Filter.read text ≠ .ok ψ) ∧
      Filter.read "info,roster=debug" = .ok φ

theorem chooseFilter_default (override : Option String) :
    ∃ φ, InEffect override φ ∧ Console.chooseFilter override "info,roster=debug" = .ok φ := by
  cases h : Console.chooseFilter override "info,roster=debug" with
  | ok φ => exact ⟨φ, (Console.chooseFilter_eq_ok_iff (a := ⟨override, {}⟩)).1 h, rfl⟩
  | error f =>
    obtain ⟨fault, hfault, -⟩ := Console.chooseFilter_eq_error h
    obtain ⟨φ, hφ⟩ := read_defaultFilter
    cases hfault.symm.trans hφ

/-- Giving up writes nothing but what the filter in effect lets through. -/
theorem giveUp_eq (override : Option String) (f : Failure) : ∃ φ, InEffect override φ ∧
    giveUp override f =
      failed ((([.loggingInitialized false, .gaveUp f] : List Event).filter φ.enables).map
        (.event false)) := by
  obtain ⟨φ, heffect, hchoose⟩ := chooseFilter_default override
  refine ⟨φ, heffect, ?_⟩
  simp only [giveUp, Console.run_setUp, hchoose]
  rfl

end

/-! ## The output -/

/-- The last line of an output in which every line is ended. -/
def lastLine (output : String) : String :=
  String.ofList (Text.lastPart '\n' output.toList.dropLast)

theorem lastLine_append (start line : String) (h : '\n' ∉ line.toList) :
    lastLine (start ++ "\n" ++ line ++ "\n") = line := by
  have hend : (start ++ "\n" ++ line ++ "\n").toList.dropLast =
      (start.toList ++ ['\n']) ++ line.toList := by
    rw [String.toList_append, String.toList_append, String.toList_append]
    exact List.dropLast_concat
  rw [lastLine, hend, Text.lastPart_append h, Text.lastPart_concat, List.nil_append,
    String.ofList_toList]

/-- The last line is the document of the record, whatever its texts hold: no line feed is left in
a written document. -/
theorem lastLine_outputOf (u : User) : lastLine (outputOf u) = u.toJson.render := by
  refine lastLine_append _ _ ?_
  rw [Json.render, String.toList_ofList]
  exact (Json.visible_chars _).notMem_feed

/-! ## The contract -/

theorem text_gaveUp (time : String) (f : Failure) :
    Diagnostic.text time (.event false (.gaveUp f)) =
      time ++ " ERROR roster: " ++ Console.shown ("Application error: " ++ f.message) ++ "\n" := by
  have hlevel : Console.alignedLevel .error = "ERROR" := by decide
  have hplain : Console.plainText time (.gaveUp f) =
      time ++ " " ++ Console.alignedLevel .error ++ " " ++ "roster" ++ ": " ++
        Console.shown ("Application error: " ++ f.message) ++ "" := rfl
  have hmark : " " ++ "ERROR" ++ " " ++ "roster" ++ ": " = " ERROR roster: " := by decide
  simp only [Diagnostic.text, Console.entry, Bool.false_eq_true, if_false, hplain, hlevel,
    String.append_empty, ← hmark, String.append_assoc]

section
variable [Patterns]

/-- What a run in a world leaves. -/
structure Leaves (w : World) (o : Order) (out : Outcome) : Prop where
  /-- The run ends well iff it does not panic, a configuration was loaded and there is a filter for
  events. -/
  success : out.exitCode = 0 ↔ panic? w o = none ∧ ∃ l, started w o = .ok l ∧
    ∃ φ, Console.chooseFilter (overrideIn w) l.get.logging.filter = .ok φ
  /-- Then the output is the record found, and no more. -/
  output : ∀ l, started w o = .ok l → out.exitCode = 0 →
    out.output = "Found user: " ++ (foundUser l.get).text ++ "\n" ++
      (foundUser l.get).toJson.render ++ "\n"
  /-- Its last line is read back as that record. -/
  document : ∀ l, started w o = .ok l → out.exitCode = 0 →
    Json.read User.reader (lastLine out.output) = .ok (foundUser l.get)
  /-- Every other run that does not panic ends with 1 and without output. -/
  failure : panic? w o = none → out.exitCode ≠ 0 → out.exitCode = 1 ∧ out.output = ""
  /-- A malformed filter of the configuration is complained of, and nothing else is. -/
  badFilter : panic? w o = none → ∀ l f, started w o = .ok l →
    Console.chooseFilter (overrideIn w) l.get.logging.filter = .error f →
    out.diagnostics = [.line ("Error: " ++ f.message)]
  /-- Where no configuration could be loaded, the reason is written as an error of `roster` iff the
  filter then in effect lets such an event through. -/
  notLoaded : panic? w o = none → ∀ f, started w o = .error f → ∃ φ, InEffect (overrideIn w) φ ∧
    (.event false (.gaveUp f) ∈ out.diagnostics ↔ φ.enables (.gaveUp f) = true) ∧
    ∀ time, Diagnostic.text time (.event false (.gaveUp f)) =
      time ++ " ERROR roster: " ++ Console.shown ("Application error: " ++ f.message) ++ "\n"
  /-- A run that panics ends with 101 and without output, and tells of nothing but the panic. -/
  panics : ∀ cause, panic? w o = some cause → out = ⟨101, "", [.panic cause]⟩

/-- A panic is one of the ways. -/
theorem Leaves.panicked {w : World} {o : Order} {cause : Panic} (h : panic? w o = some cause) :
    Leaves w o (Program.panicked cause) where
  success := by simp [Program.panicked, panicCode, h]
  output l _ hcode := by cases hcode
  document l _ hcode := by cases hcode
  failure hnone := by simp [h] at hnone
  badFilter hnone := by simp [h] at hnone
  notLoaded hnone := by simp [h] at hnone
  panics := by
    intro cause' hcause'
    obtain rfl := Option.some.inj (h.symm.trans hcause')
    rfl

section
variable {w : World} {o : Order} (hpanic : panic? w o = none)
include hpanic

/-- Giving up is one of the ways. -/
theorem Leaves.giveUp {f : Failure} (h : started w o = .error f) :
    Leaves w o (giveUp (overrideIn w) f) := by
  obtain ⟨φ, heffect, hgiveUp⟩ := giveUp_eq (overrideIn w) f
  have hnone : ∀ l, started w o ≠ .ok l := by simp [h]
  rw [hgiveUp]
  exact {
    success := by simp [failed, hnone]
    output := fun l hl => absurd hl (hnone l)
    document := fun l hl => absurd hl (hnone l)
    failure := fun _ _ => ⟨rfl, rfl⟩
    badFilter := fun _ l g hl => absurd hl (hnone l)
    notLoaded := by
      intro _ g hg
      obtain rfl : f = g := by simpa [h] using hg
      exact ⟨φ, heffect, by simp [failed], fun time => text_gaveUp time f⟩
    panics := by simp [hpanic] }

variable {l : Configuration.Loader} (h : started w o = .ok l)
include h

theorem Leaves.malformed {f : Failure}
    (hf : Console.chooseFilter (overrideIn w) l.get.logging.filter = .error f) :
    Leaves w o (proceed (overrideIn w) l.get) := by
  have hl : ∀ m, started w o = .ok m → l = m := by simp [h]
  rw [proceed_of_error hf]
  exact {
    success := by simp [failed, h, hf]
    output := fun m _ hcode => absurd hcode (by simp [failed])
    document := fun m _ hcode => absurd hcode (by simp [failed])
    failure := fun _ _ => ⟨rfl, rfl⟩
    badFilter := by
      intro _ m g hm hg
      obtain rfl := hl m hm
      obtain rfl : f = g := by simpa [hf] using hg
      rfl
    notLoaded := by simp [h]
    panics := by simp [hpanic] }

theorem Leaves.found {φ : Filter}
    (hφ : Console.chooseFilter (overrideIn w) l.get.logging.filter = .ok φ) :
    Leaves w o (proceed (overrideIn w) l.get) := by
  have hl : ∀ m, started w o = .ok m → l = m := by simp [h]
  obtain ⟨hcode, houtput⟩ := proceed_of_ok hφ
  exact {
    success := by simp [hcode, hpanic, h, hφ]
    output := by
      intro m hm _
      obtain rfl := hl m hm
      exact houtput
    document := by
      intro m hm _
      obtain rfl := hl m hm
      rw [houtput, lastLine_outputOf]
      exact Json.read_user _
    failure := fun _ hne => absurd hcode hne
    badFilter := by
      intro _ m g hm hg
      obtain rfl := hl m hm
      rw [hφ] at hg
      cases hg
    notLoaded := by simp [h]
    panics := by simp [hpanic] }

end

end

/-- A folder whose file of variables gives a value with a NUL in it. -/
def nulFile : World :=
  ⟨Folder.empty.write ".env" (.file ⟨"A=\x00", false⟩), .empty⟩

/-- A variable that asks for a position before the start of a list. -/
def beforeList : World :=
  ⟨.empty, .ofList [("ROSTER__X[-1]", "1")]⟩

theorem panic?_nulFile [Patterns] : panic? nulFile = some (.unsettable "A" "\x00") := by
  have hdiscover : Configuration.Loader.discoverPanic? Configuration.defaultFolder nulFile =
    some (.unsettable "A" "\x00") := by decide +kernel
  rw [panic?, hdiscover]

theorem panic?_beforeList [Patterns] : panic? beforeList = some .beforeStart := by
  have hdiscover : Configuration.Loader.discoverPanic? Configuration.defaultFolder beforeList =
    some .beforeStart := by decide +kernel
  rw [panic?, hdiscover]

end Program

end UserRegistry
