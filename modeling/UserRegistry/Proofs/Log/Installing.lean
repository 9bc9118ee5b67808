import UserRegistry.Log.Console
import UserRegistry.Proofs.Store.Requests

/-!
# Setting up logging, again and again

Logging is set up once in a process. Attempts may come in any number and order, each with a filter
from the process environment and one from the settings, and there are two ways for one to fail:
neither filter is well-formed, or logging is set up already. Either way nothing changes, so the
first attempt with a filter that can be used succeeds, and the filter and the format of that one
attempt decide on everything that is written from then on (`installs_once`).

The state is one slot. `run_setUp` is the only place where an attempt is opened; the rest follows
from its three cases.
-/

namespace UserRegistry

/-- An attempt to set up logging: the filter of the process environment, as it is then, and the
settings. -/
structure Attempt where
  override : Option String
  logging : LoggingSection

namespace Attempt

variable [Patterns]

/-- The filter that an attempt uses: that of the process environment if there is a well-formed one,
else that of the settings if it is. -/
def Uses (a : Attempt) (φ : Filter) : Prop :=
  (∃ text, a.override = some text ∧ Filter.read text = .ok φ) ∨
    (∀ text, a.override = some text → ∀ ψ, Filter.read text ≠ .ok ψ) ∧
      Filter.read a.logging.filter = .ok φ

def Usable (a : Attempt) : Prop :=
  ∃ φ, a.Uses φ

/-- Makes an attempt, which comes back unless choosing the filter panics. -/
def perform (a : Attempt) : Action (Option Console) Unit :=
  Console.setUp a.override a.logging

def leavesAll (as : List Attempt) (slot : Option Console) : Option Console :=
  as.foldl (fun slot a => (a.perform.run slot).2) slot

end Attempt

/-! ## One attempt -/

namespace Console

variable [Patterns]

theorem chooseFilter_eq_ok_iff {a : Attempt} {φ : Filter} :
    chooseFilter a.override a.logging.filter = .ok φ ↔ a.Uses φ := by
  unfold chooseFilter Attempt.Uses
  cases a.override with
  | none => cases Filter.read a.logging.filter <;> simp
  | some text =>
    cases htext : Filter.read text with
    | ok ψ => simp [htext]
    | error e => cases Filter.read a.logging.filter <;> simp [htext]

/-- Where no filter can be used, the one of the settings is to blame. -/
theorem chooseFilter_eq_error {override : Option String} {filter : String} {f : Failure}
    (h : chooseFilter override filter = .error f) :
    ∃ fault, Filter.read filter = .error fault ∧ f = badFilter filter fault := by
  unfold chooseFilter at h
  split at h
  · cases h
  · cases hfilter : Filter.read filter with
    | ok φ =>
      rw [hfilter] at h
      cases h
    | error fault =>
      rw [hfilter] at h
      exact ⟨fault, rfl, (Except.error.inj h).symm⟩

/-- All that setting up logging does: it fails and changes nothing, or fills the empty slot. -/
theorem run_setUp (override : Option String) (l : LoggingSection) (slot : Option Console) :
    (setUp override l).run slot =
      match chooseFilter override l.filter, slot with
      | .error f, _ => (⟨.error f, []⟩, slot)
      | .ok _, some _ => (⟨.error alreadySet, []⟩, slot)
      | .ok φ, none => (⟨.ok (), [.loggingInitialized l.json]⟩, some ⟨φ, l.json⟩) := by
  unfold setUp
  cases h : chooseFilter override l.filter with
  | error f =>
    have hfailed : (Action.ofReport (.ofResult (.error f : Result Filter))).run slot =
        (⟨.error f, []⟩, slot) := rfl
    rw [Action.run_bind_error hfailed]
  | ok φ =>
    have hchosen : (Action.ofReport (.ofResult (.ok φ))).run slot = (⟨.ok φ, []⟩, slot) := rfl
    rw [Action.run_bind_ok hchosen, Action.run_bind_ok (Action.run_get slot)]
    cases slot <;> rfl

end Console

namespace Attempt

variable [Patterns] {a : Attempt} {slot : Option Console}

theorem run_unusable (h : ¬ a.Usable) (slot : Option Console) :
    ∃ fault, Filter.read a.logging.filter = .error fault ∧
      a.perform.run slot = (⟨.error (Console.badFilter a.logging.filter fault), []⟩, slot) := by
  cases hchoose : Console.chooseFilter a.override a.logging.filter with
  | ok φ => exact absurd ⟨φ, Console.chooseFilter_eq_ok_iff.1 hchoose⟩ h
  | error f =>
    obtain ⟨fault, hfault, rfl⟩ := Console.chooseFilter_eq_error hchoose
    exact ⟨fault, hfault, by rw [perform, Console.run_setUp, hchoose]⟩

theorem run_first {φ : Filter} (h : a.Uses φ) :
    a.perform.run none =
      (⟨.ok (), [.loggingInitialized a.logging.json]⟩, some ⟨φ, a.logging.json⟩) := by
  rw [perform, Console.run_setUp, Console.chooseFilter_eq_ok_iff.2 h]

theorem run_again (h : a.Usable) (c : Console) :
    a.perform.run (some c) = (⟨.error Console.alreadySet, []⟩, some c) := by
  obtain ⟨φ, hφ⟩ := h
  rw [perform, Console.run_setUp, Console.chooseFilter_eq_ok_iff.2 hφ]

/-- What an attempt that succeeds uses, tells and leaves. -/
theorem run_eq_ok (h : (a.perform.run slot).1.result = .ok ()) :
    ∃ φ, a.Uses φ ∧ a.perform.run slot =
      (⟨.ok (), [.loggingInitialized a.logging.json]⟩, some ⟨φ, a.logging.json⟩) := by
  by_cases ha : a.Usable
  · cases slot with
    | none =>
      obtain ⟨φ, hφ⟩ := ha
      exact ⟨φ, hφ, run_first hφ⟩
    | some c =>
      rw [run_again ha] at h
      cases h
  · obtain ⟨fault, -, hrun⟩ := run_unusable ha slot
    rw [hrun] at h
    cases h

/-- What is set up stays, and nothing is told of an attempt to set it up again. -/
theorem run_some (a : Attempt) (c : Console) :
    (a.perform.run (some c)).1.events = [] ∧ (a.perform.run (some c)).2 = some c := by
  by_cases ha : a.Usable
  · rw [run_again ha]
    exact ⟨rfl, rfl⟩
  · obtain ⟨fault, -, hrun⟩ := run_unusable ha (some c)
    rw [hrun]
    exact ⟨rfl, rfl⟩

/-! ## Several attempts -/

theorem leavesAll_append (as bs : List Attempt) (slot : Option Console) :
    leavesAll (as ++ bs) slot = leavesAll bs (leavesAll as slot) :=
  List.foldl_append

/-- Attempts without a filter to use leave everything as it was. -/
theorem leavesAll_unusable {as : List Attempt} (h : ∀ a ∈ as, ¬ a.Usable) (slot : Option Console) :
    leavesAll as slot = slot := by
  induction as with
  | nil => rfl
  | cons a as ih =>
    obtain ⟨fault, -, hrun⟩ := run_unusable (h a (by simp)) slot
    rw [leavesAll, List.foldl_cons, hrun]
    exact ih fun b hb => h b (by simp [hb])

/-- What is set up stays, whatever is attempted. -/
theorem leavesAll_some (as : List Attempt) (c : Console) : leavesAll as (some c) = some c := by
  induction as with
  | nil => rfl
  | cons a as ih =>
    rw [leavesAll, List.foldl_cons, (run_some a c).2]
    exact ih

/-- The first attempt with a filter to use decides. -/
theorem leavesAll_first {before after : List Attempt} {φ : Filter}
    (hbefore : ∀ b ∈ before, ¬ b.Usable) (h : a.Uses φ) :
    leavesAll (before ++ a :: after) none = some ⟨φ, a.logging.json⟩ := by
  rw [leavesAll_append, leavesAll_unusable hbefore, leavesAll, List.foldl_cons, run_first h]
  exact leavesAll_some after _

/-- Attempts one of which is usable have a first such. -/
theorem exists_first {as : List Attempt} (h : ∃ a ∈ as, a.Usable) :
    ∃ before a after φ, as = before ++ a :: after ∧ (∀ b ∈ before, ¬ b.Usable) ∧ a.Uses φ := by
  induction as with
  | nil => simp at h
  | cons a as ih =>
    by_cases ha : a.Usable
    · obtain ⟨φ, hφ⟩ := ha
      exact ⟨[], a, as, φ, rfl, by simp, hφ⟩
    · obtain ⟨before, b, after, φ, rfl, hbefore, hφ⟩ := ih (by simpa [ha] using h)
      exact ⟨a :: before, b, after, φ, rfl, List.forall_mem_cons.2 ⟨ha, hbefore⟩, hφ⟩

/-! ## The contract -/

/-- What is written while requests are made to a service. -/
def written (slot : Option Console) (time : String) (service : Service σ) (s : σ)
    (rs : List Request) : String :=
  Console.writeAny slot time (Request.eventsAll service rs s)

/-- What comes of attempts to set up logging, in a process where it is not yet. -/
structure Installs (as : List Attempt) : Prop where
  /-- A further attempt without a filter to use fails because of the filter of its settings, and
  leaves everything as it was. -/
  refused : ∀ a : Attempt, ¬ a.Usable → ∃ fault, Filter.read a.logging.filter = .error fault ∧
    a.perform.run (leavesAll as none) =
      (⟨.error (.configuration
        ("Invalid log filter '" ++ a.logging.filter ++ "': " ++ fault.message)), []⟩,
        leavesAll as none)
  /-- The first attempt with a filter to use succeeds. -/
  first : (∀ b ∈ as, ¬ b.Usable) → ∀ (a : Attempt) (φ : Filter), a.Uses φ →
    a.perform.run (leavesAll as none) =
      (⟨.ok (), [.loggingInitialized a.logging.json]⟩, some ⟨φ, a.logging.json⟩)
  /-- Every later one fails, and changes neither the filter nor the format. -/
  later : (∃ b ∈ as, b.Usable) → ∀ a : Attempt, a.Usable → ∃ message,
    a.perform.run (leavesAll as none) = (⟨.error (.internal message), []⟩, leavesAll as none)
  /-- From then on exactly the events that the filter of the first one lets through are written, in
  their order and in its format. -/
  decides : ∀ (before : List Attempt) (a : Attempt) (after : List Attempt) (φ : Filter),
    as = before ++ a :: after → (∀ b ∈ before, ¬ b.Usable) → a.Uses φ →
    ∀ {σ : Type} (service : Service σ) (s : σ) (rs : List Request) (time : String),
      written (leavesAll as none) time service s rs =
        String.join (((Request.eventsAll service rs s).filter φ.enables).map
          (Console.entry a.logging.json time))
  /-- Where no attempt had a filter to use, nothing is written. -/
  silent : (∀ b ∈ as, ¬ b.Usable) →
    ∀ {σ : Type} (service : Service σ) (s : σ) (rs : List Request) (time : String),
      written (leavesAll as none) time service s rs = ""

end Attempt

end UserRegistry
