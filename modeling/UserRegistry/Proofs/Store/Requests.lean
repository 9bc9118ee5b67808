import Mathlib.Data.Finset.Card
import UserRegistry.Application

/-!
# Requests to a store

What one request answers and leaves, one equation for each operation and each branch, and runs of
requests. Everything else about stores is derived from these equations: `get`, `create`, `update`
and `delete` are not opened again.

The count of a store is tied to its records by `Counts`, which putting and erasing keep.
-/

namespace UserRegistry

/-! ## What a single operation does -/

namespace Store

variable (s : Store) (u : User) (id : UserId)

theorem run_get : (get id).run s =
    (⟨match s.find? id with
      | some u => .ok u
      | none => .error (absent id), [.gettingUser id]⟩, s) := by
  unfold get
  rw [Action.run_bind_ok (Action.run_tell _ s), Action.run_bind_ok (Action.run_get s)]
  cases h : s.find? id <;> rfl

theorem run_create_some : (create (some u)).run s =
    (⟨.ok (), [.creatingUser u.id,
      if s.contains u.id then .userReplaced u.id else .userCreated u.id]⟩, s.put u) := rfl

theorem run_update_some : (update (some u)).run s =
    if s.contains u.id then (⟨.ok (), [.updatingUser u.id, .userUpdated u.id]⟩, s.put u)
    else (⟨.error (absent u.id), [.updatingUser u.id, .updateRejected u.id]⟩, s) := by
  unfold update
  rw [Action.run_bind_ok (Action.run_tell _ s), Action.run_bind_ok (Action.run_get s)]
  split <;> rfl

theorem run_delete : (delete id).run s =
    if s.contains id then (⟨.ok (), [.deletingUser id, .userDeleted id]⟩, s.erase id)
    else (⟨.error (absent id), [.deletingUser id, .deleteRejected id]⟩, s) := by
  unfold delete
  rw [Action.run_bind_ok (Action.run_tell _ s), Action.run_bind_ok (Action.run_get s)]
  split <;> rfl

/-- The demonstration cannot fail on a store: what it puts in is what it finds. -/
theorem run_scenario : (scenario service u).run s =
    (⟨.ok u, [.runningScenario u.id, .creatingUser u.id,
      if s.contains u.id then .userReplaced u.id else .userCreated u.id,
      .gettingUser u.id, .foundUser u]⟩, s.put u) := by
  have hget : (service.get u.id).run (s.put u) = (⟨.ok u, [.gettingUser u.id]⟩, s.put u) := by
    refine (run_get (s.put u) u.id).trans ?_
    rw [find?_put, if_pos rfl]
  exact run_scenario_ok (run_create_some s u) hget

/-! ## Counting records -/

theorem contains_put (k : UserId) :
    (s.put u).contains k = true ↔ u.id = k ∨ s.contains k = true := by
  rw [contains_eq_isSome, contains_eq_isSome, find?_put]
  by_cases h : u.id = k <;> simp [h]

theorem contains_erase (k : UserId) :
    (s.erase id).contains k = true ↔ id ≠ k ∧ s.contains k = true := by
  rw [contains_eq_isSome, contains_eq_isSome, find?_erase]
  by_cases h : id = k <;> simp [h]

theorem size_put : (s.put u).size = if s.contains u.id then s.size else s.size + 1 := by
  simp [put, size, contains, Std.ExtHashMap.size_insert]

theorem size_erase : (s.erase id).size = if s.contains id then s.size - 1 else s.size := by
  simp [erase, size, contains, Std.ExtHashMap.size_erase]

theorem isEmpty_iff : s.isEmpty = true ↔ s.size = 0 := by
  unfold isEmpty size
  rw [Std.ExtHashMap.isEmpty_iff, Std.ExtHashMap.eq_empty_iff_size_eq_zero]

/-- The ids under which a store has records, as many as the store counts. -/
def Counts (s : Store) (ids : Finset UserId) : Prop :=
  (∀ k, k ∈ ids ↔ s.contains k = true) ∧ s.size = ids.card

theorem counts_empty : Counts empty ∅ := by
  refine ⟨fun k => ?_, ?_⟩
  · simp [contains_eq_isSome]
  · simp [size, empty]

theorem Counts.put {s : Store} {ids : Finset UserId} (h : Counts s ids) (u : User) :
    Counts (s.put u) (insert u.id ids) := by
  obtain ⟨hmem, hsize⟩ := h
  refine ⟨fun k => ?_, ?_⟩
  · rw [Finset.mem_insert, hmem k, contains_put, eq_comm]
  · rw [size_put, hsize]
    by_cases hu : s.contains u.id = true
    · rw [if_pos hu, Finset.insert_eq_of_mem ((hmem u.id).2 hu)]
    · rw [if_neg hu, Finset.card_insert_of_notMem (fun hin => hu ((hmem u.id).1 hin))]

theorem Counts.erase {s : Store} {ids : Finset UserId} (h : Counts s ids) (id : UserId) :
    Counts (s.erase id) (ids.erase id) := by
  obtain ⟨hmem, hsize⟩ := h
  refine ⟨fun k => ?_, ?_⟩
  · rw [Finset.mem_erase, hmem k, contains_erase, ne_comm]
  · rw [size_erase, hsize]
    by_cases hid : s.contains id = true
    · rw [if_pos hid, Finset.card_erase_of_mem ((hmem id).2 hid)]
    · rw [if_neg hid, Finset.erase_eq_of_notMem (fun hin => hid ((hmem id).1 hin))]

end Store

/-! ## Requests and runs -/

/-- An action whose result is handed on changed. -/
theorem Action.run_bind_pure (x : Action σ α) (f : α → β) (s : σ) :
    (x >>= fun a => pure (f a)).run s =
      (⟨(x.run s).1.result.map f, (x.run s).1.events⟩, (x.run s).2) := by
  cases h : x.run s with
  | mk r t =>
    obtain ⟨result, events⟩ := r
    cases result with
    | ok a =>
      rw [Action.run_bind_ok h, Action.run_pure]
      simp [Report.after, Except.map]
    | error e =>
      rw [Action.run_bind_error h]
      rfl

/-- What can be asked of a user service. -/
inductive Request where
  | get (id : UserId)
  | create (user : Option User)
  | update (user : Option User)
  | delete (id : UserId)
  /-- The demonstration with a user. -/
  | scenario (user : User)
deriving DecidableEq, Repr

namespace Request

/-- Asks a service; the answer holds the record that was asked for, if one was. -/
def perform (service : Service σ) : Request → Action σ (Option User)
  | get id => do return some (← service.get id)
  | create user => do
    service.create user
    return none
  | update user => do
    service.update user
    return none
  | delete id => do
    service.delete id
    return none
  | scenario user => do return some (← UserRegistry.scenario service user)

def answer (r : Request) (s : Store) : Result (Option User) :=
  ((r.perform Store.service).run s).1.result

/-- The store that a request leaves. -/
def leaves (r : Request) (s : Store) : Store :=
  ((r.perform Store.service).run s).2

/-- The store that requests leave, made one after the other; one that fails does not stop the
next. -/
def leavesAll (rs : List Request) (s : Store) : Store :=
  rs.foldl (fun s r => r.leaves s) s

/-- What requests made one after the other are answered. -/
def answersAll : List Request → Store → List (Result (Option User))
  | [], _ => []
  | r :: rs, s => r.answer s :: answersAll rs (r.leaves s)

/-- What a service tells of while requests are made one after the other. -/
def eventsAll (service : Service σ) : List Request → σ → List Event
  | [], _ => []
  | r :: rs, s =>
    let (report, s) := (r.perform service).run s
    report.events ++ eventsAll service rs s

def id? : Request → Option UserId
  | get id | delete id => some id
  | create user | update user => user.map User.id
  | scenario user => some user.id

end Request

namespace Store

/-- All that a request to a store does, branch by branch. -/
def respond (s : Store) : Request → Report (Option User) × Store
  | .get id =>
    match s.find? id with
    | some u => (⟨.ok (some u), [.gettingUser id]⟩, s)
    | none => (⟨.error (absent id), [.gettingUser id]⟩, s)
  | .create none | .update none => (⟨.error missing, [.missingUser]⟩, s)
  | .create (some u) =>
    (⟨.ok none, [.creatingUser u.id,
      if s.contains u.id then .userReplaced u.id else .userCreated u.id]⟩, s.put u)
  | .update (some u) =>
    if s.contains u.id then (⟨.ok none, [.updatingUser u.id, .userUpdated u.id]⟩, s.put u)
    else (⟨.error (absent u.id), [.updatingUser u.id, .updateRejected u.id]⟩, s)
  | .delete id =>
    if s.contains id then (⟨.ok none, [.deletingUser id, .userDeleted id]⟩, s.erase id)
    else (⟨.error (absent id), [.deletingUser id, .deleteRejected id]⟩, s)
  | .scenario u =>
    (⟨.ok (some u), [.runningScenario u.id, .creatingUser u.id,
      if s.contains u.id then .userReplaced u.id else .userCreated u.id,
      .gettingUser u.id, .foundUser u]⟩, s.put u)

theorem run_perform (s : Store) (r : Request) : (r.perform service).run s = s.respond r := by
  cases r with
  | get id =>
    simp only [Request.perform, service, Action.run_bind_pure, run_get, respond]
    cases s.find? id <;> rfl
  | create user =>
    cases user with
    | none => rfl
    | some u => rfl
  | update user =>
    cases user with
    | none => rfl
    | some u =>
      simp only [Request.perform, service, Action.run_bind_pure, run_update_some, respond]
      split <;> rfl
  | delete id =>
    simp only [Request.perform, service, Action.run_bind_pure, run_delete, respond]
    split <;> rfl
  | scenario u =>
    simp only [Request.perform, Action.run_bind_pure, run_scenario, respond]
    rfl

theorem answer_eq (s : Store) (r : Request) : r.answer s = (s.respond r).1.result := by
  rw [Request.answer, run_perform]

theorem leaves_eq (s : Store) (r : Request) : r.leaves s = (s.respond r).2 := by
  rw [Request.leaves, run_perform]

end Store

end UserRegistry
