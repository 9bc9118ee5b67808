import UserRegistry.Log.Event

/-!
# Reports and actions

A `Report` is what an operation gives back: a result or a failure, and the events that happened
on the way, first to last. An `Action` is an operation on a state that reports; the state it
leaves counts also when it fails. Both stop at the first failure and keep the events up to it.
-/

namespace UserRegistry

/-- A result or a failure, with the events on the way to it. -/
structure Report (α : Type) where
  result : Result α
  events : List Event

namespace Report

/-- Events that come before those of a report. -/
def after (events : List Event) (r : Report α) : Report α :=
  ⟨r.result, events ++ r.events⟩

/-- A report that only tells of an event. -/
def tell (e : Event) : Report Unit :=
  ⟨.ok (), [e]⟩

def fail (f : Failure) : Report α :=
  ⟨.error f, []⟩

def ofResult (r : Result α) : Report α :=
  ⟨r, []⟩

instance : Monad Report where
  pure a := ⟨.ok a, []⟩
  bind r f :=
    match r.result with
    | .ok a => (f a).after r.events
    | .error e => ⟨.error e, r.events⟩

end Report

def Action (σ α : Type) : Type :=
  σ → Report α × σ

namespace Action

def run (x : Action σ α) (s : σ) : Report α × σ :=
  x s

/-- A report that leaves the state alone. -/
def ofReport (r : Report α) : Action σ α :=
  fun s => (r, s)

def tell (e : Event) : Action σ Unit :=
  ofReport (.tell e)

def fail (f : Failure) : Action σ α :=
  ofReport (.fail f)

def get : Action σ σ :=
  fun s => (⟨.ok s, []⟩, s)

def set (s : σ) : Action σ Unit :=
  fun _ => (⟨.ok (), []⟩, s)

instance : Monad (Action σ) where
  pure a := ofReport (pure a)
  bind x f := fun s =>
    match x s with
    | (⟨.ok a, events⟩, s') =>
      let (r, s'') := f a s'
      (r.after events, s'')
    | (⟨.error e, events⟩, s') => (⟨.error e, events⟩, s')

@[simp] theorem run_pure (a : α) (s : σ) : run (pure a) s = (⟨.ok a, []⟩, s) := rfl

@[simp] theorem run_tell (e : Event) (s : σ) : run (tell e) s = (⟨.ok (), [e]⟩, s) := rfl

@[simp] theorem run_fail (f : Failure) (s : σ) :
    run (fail f : Action σ α) s = (⟨.error f, []⟩, s) := rfl

@[simp] theorem run_get (s : σ) : run get s = (⟨.ok s, []⟩, s) := rfl

@[simp] theorem run_set (s t : σ) : run (set s) t = (⟨.ok (), []⟩, s) := rfl

/-- After a success the second action runs from the state the first one left. -/
theorem run_bind_ok {x : Action σ α} {f : α → Action σ β} {s s' : σ} {a : α} {es : List Event}
    (h : run x s = (⟨.ok a, es⟩, s')) :
    run (x >>= f) s = ((run (f a) s').1.after es, (run (f a) s').2) := by
  have h' : x s = (⟨.ok a, es⟩, s') := h
  simp [run, bind, h']

/-- After a failure nothing more happens. -/
theorem run_bind_error {x : Action σ α} {f : α → Action σ β} {s s' : σ} {e : Failure}
    {es : List Event} (h : run x s = (⟨.error e, es⟩, s')) :
    run (x >>= f) s = (⟨.error e, es⟩, s') := by
  have h' : x s = (⟨.error e, es⟩, s') := h
  simp [run, bind, h']

end Action

end UserRegistry
