import UserRegistry.Proofs.Store.Requests

/-!
# A store and its history

A run of requests leaves a history: the records that were kept, by a create or an update that
succeeded, and the ids that were removed. Which answers a store gives follows from that history
alone. An id is live when a record was kept under it that no removal follows; `Agrees` says what a
store with a history answers to every request, and `agrees_history` says that every run of
requests, of any length and with any failures in it, leaves a store that agrees with its history.

The proof goes through `settle`, which reads a history from left to right: the record under an id
after a run is the one its history settles on (`find?_leavesAll`).
-/

namespace UserRegistry

/-- Whether an action succeeds from a state. -/
def Action.succeeds (x : Action σ α) (s : σ) : Bool :=
  (x.run s).1.result.isOk

namespace Store

/-- Something that an operation changed in a store. -/
inductive Change where
  /-- A record was created or updated. -/
  | kept (user : User)
  /-- A record was deleted. -/
  | removed (id : UserId)
deriving DecidableEq, Repr

/-- What a request changes in a store, by the operations on it that succeed. The demonstration
creates its user. -/
def changes (s : Store) : Request → List Change
  | .create (some u) => if (create (some u)).succeeds s then [.kept u] else []
  | .update (some u) => if (update (some u)).succeeds s then [.kept u] else []
  | .scenario u => if (create (some u)).succeeds s then [.kept u] else []
  | .delete id => if (delete id).succeeds s then [.removed id] else []
  | .get _ | .create none | .update none => []

def history : Store → List Request → List Change
  | _, [] => []
  | s, r :: rs => s.changes r ++ history (r.leaves s) rs

/-- A record was kept under an id, and no removal of the id follows. -/
def Live (h : List Change) (id : UserId) : Prop :=
  ∃ before u after, h = before ++ .kept u :: after ∧ u.id = id ∧ .removed id ∉ after

/-- The record that was kept last under an id. -/
def LastKept (h : List Change) (id : UserId) (u : User) : Prop :=
  ∃ before after, h = before ++ .kept u :: after ∧ u.id = id ∧ ∀ v, .kept v ∈ after → v.id ≠ id

/-- What a store answers to every request when `h` is all that happened to it. -/
structure Agrees (h : List Change) (s : Store) : Prop where
  get_live : ∀ id, Live h id → ∃ u, LastKept h id u ∧ (Request.get id).answer s = .ok (some u)
  get_other : ∀ id, ¬ Live h id → (Request.get id).answer s = .error (.notFound "User" id.text)
  contains : ∀ id, s.contains id = true ↔ Live h id
  size : ∃ ids : Finset UserId, (∀ id, id ∈ ids ↔ Live h id) ∧ s.size = ids.card
  isEmpty : s.isEmpty = true ↔ s.size = 0
  create : ∀ u, (Request.create (some u)).answer s = .ok none
  update_live : ∀ u, Live h u.id → (Request.update (some u)).answer s = .ok none
  update_other : ∀ u, ¬ Live h u.id →
    (Request.update (some u)).answer s = .error (.notFound "User" u.id.text)
  delete_live : ∀ id, Live h id → (Request.delete id).answer s = .ok none
  delete_other : ∀ id, ¬ Live h id →
    (Request.delete id).answer s = .error (.notFound "User" id.text)
  create_none : ∀ t : Store,
    (Request.create none).answer t = .error (.invalidArgument "user cannot be empty")
  update_none : ∀ t : Store,
    (Request.update none).answer t = .error (.invalidArgument "user cannot be empty")
  scenario : ∀ u, (Request.scenario u).answer s = .ok (some u)

/-! ## What a request changes -/

def Change.apply (s : Store) : Change → Store
  | kept u => s.put u
  | removed id => s.erase id

theorem succeeds_update (s : Store) (u : User) :
    (update (some u)).succeeds s = s.contains u.id := by
  unfold Action.succeeds
  rw [run_update_some]
  cases s.contains u.id <;> rfl

theorem succeeds_delete (s : Store) (id : UserId) : (delete id).succeeds s = s.contains id := by
  unfold Action.succeeds
  rw [run_delete]
  cases s.contains id <;> rfl

/-- A request leaves what its changes make of the store: one that fails leaves it alone. -/
theorem leaves_eq_changes (s : Store) (r : Request) :
    r.leaves s = (s.changes r).foldl Change.apply s := by
  rw [leaves_eq]
  cases r with
  | get id =>
    simp only [respond, changes]
    cases s.find? id <;> rfl
  | create user => cases user <;> rfl
  | update user =>
    cases user with
    | none => rfl
    | some u =>
      simp only [respond, changes, succeeds_update]
      split <;> rfl
  | delete id =>
    simp only [respond, changes, succeeds_delete]
    split <;> rfl
  | scenario u => rfl

theorem leavesAll_eq_history (rs : List Request) (s : Store) :
    Request.leavesAll rs s = (history s rs).foldl Change.apply s := by
  induction rs generalizing s with
  | nil => rfl
  | cons r rs ih =>
    rw [history, List.foldl_append, ← leaves_eq_changes, ← ih]
    rfl

/-! ## Reading a history -/

/-- The record under an id after one more change. -/
def Change.settle (id : UserId) (before : Option User) : Change → Option User
  | kept u => if u.id = id then some u else before
  | removed k => if k = id then none else before

/-- The record under an id at the end of a history that starts without records. -/
def settle (h : List Change) (id : UserId) : Option User :=
  h.foldl (Change.settle id) none

theorem settle_append (h : List Change) (c : Change) (id : UserId) :
    settle (h ++ [c]) id = c.settle id (settle h id) := by
  rw [settle, List.foldl_append]
  rfl

theorem find?_apply (s : Store) (c : Change) (id : UserId) :
    (c.apply s).find? id = c.settle id (s.find? id) := by
  cases c with
  | kept u => exact find?_put s u id
  | removed k => exact find?_erase s k id

theorem find?_foldl (h : List Change) (s : Store) (id : UserId) :
    (h.foldl Change.apply s).find? id = h.foldl (Change.settle id) (s.find? id) := by
  induction h generalizing s with
  | nil => rfl
  | cons c h ih => rw [List.foldl_cons, List.foldl_cons, ih, find?_apply]

/-- The records of a run are those its history settles on. -/
theorem find?_leavesAll (rs : List Request) (id : UserId) :
    (Request.leavesAll rs empty).find? id = settle (history empty rs) id := by
  rw [leavesAll_eq_history, find?_foldl, find?_empty]
  rfl

/-! ## Live ids and records kept last -/

/-- A record kept somewhere in a history that grew by one change was kept by that change, or in
the history before. -/
theorem split_append {h before after : List Change} {c d : Change}
    (e : h ++ [c] = before ++ d :: after) :
    (c = d ∧ after = []) ∨ ∃ rest, h = before ++ d :: rest ∧ after = rest ++ [c] := by
  rcases List.eq_nil_or_concat' after with rfl | ⟨rest, x, rfl⟩
  · obtain ⟨-, hcd⟩ := List.append_inj' e rfl
    exact .inl ⟨List.singleton_inj.1 hcd, rfl⟩
  · have e' : h ++ [c] = (before ++ d :: rest) ++ [x] := by simpa using e
    obtain ⟨hh, hcx⟩ := List.append_inj' e' rfl
    exact .inr ⟨rest, hh, by rw [List.singleton_inj.1 hcx]⟩

theorem live_append_kept {h : List Change} {u : User} {id : UserId} :
    Live (h ++ [.kept u]) id ↔ u.id = id ∨ Live h id := by
  constructor
  · rintro ⟨before, v, after, e, hv, hafter⟩
    rcases split_append e with ⟨huv, -⟩ | ⟨rest, hh, rfl⟩
    · cases huv
      exact .inl hv
    · exact .inr ⟨before, v, rest, hh, hv, fun hr => hafter (by simp [hr])⟩
  · rintro (hu | ⟨before, v, after, rfl, hv, hafter⟩)
    · exact ⟨h, u, [], rfl, hu, by simp⟩
    · exact ⟨before, v, after ++ [.kept u], by simp, hv, by simpa using hafter⟩

theorem live_append_removed {h : List Change} {k id : UserId} :
    Live (h ++ [.removed k]) id ↔ k ≠ id ∧ Live h id := by
  constructor
  · rintro ⟨before, v, after, e, hv, hafter⟩
    rcases split_append e with ⟨huv, -⟩ | ⟨rest, hh, rfl⟩
    · cases huv
    · refine ⟨?_, before, v, rest, hh, hv, fun hr => hafter (by simp [hr])⟩
      rintro rfl
      exact hafter (by simp)
  · rintro ⟨hk, before, v, after, rfl, hv, hafter⟩
    refine ⟨before, v, after ++ [.removed k], by simp, hv, ?_⟩
    simp [hafter, Ne.symm hk]

/-- The record kept last stays so until another one is kept under its id. -/
theorem LastKept.append {h : List Change} {id : UserId} {u : User} (hl : LastKept h id u)
    (c : Change) (hc : ∀ v, c = .kept v → v.id ≠ id) : LastKept (h ++ [c]) id u := by
  obtain ⟨before, after, rfl, hu, hafter⟩ := hl
  refine ⟨before, after ++ [c], by simp, hu, fun v hv => ?_⟩
  rcases List.mem_append.1 hv with hv | hv
  · exact hafter v hv
  · exact hc v (List.mem_singleton.1 hv).symm

theorem lastKept_append_kept (h : List Change) (u : User) : LastKept (h ++ [.kept u]) u.id u :=
  ⟨h, [], rfl, rfl, by simp⟩

/-- What a history settles on under an id: the record kept last where the id is live, and nothing
where it is not. -/
theorem settle_spec (h : List Change) (id : UserId) :
    (∀ u, settle h id = some u → Live h id ∧ LastKept h id u) ∧
      (settle h id = none → ¬ Live h id) := by
  induction h using List.reverseRecOn with
  | nil => exact ⟨fun u hu => by simp [settle] at hu, fun _ ⟨_, _, _, e, _⟩ => by simp at e⟩
  | append_singleton h c ih =>
    obtain ⟨ihSome, ihNone⟩ := ih
    rw [settle_append]
    cases c with
    | kept v =>
      rw [live_append_kept]
      by_cases hv : v.id = id
      · subst hv
        simp only [Change.settle, ↓reduceIte, Option.some.injEq, reduceCtorEq, false_imp_iff,
          and_true]
        rintro u rfl
        exact ⟨.inl trivial, lastKept_append_kept h v⟩
      · simp only [Change.settle, if_neg hv]
        refine ⟨fun u hu => ?_, fun hn => ?_⟩
        · obtain ⟨hlive, hlast⟩ := ihSome u hu
          exact ⟨.inr hlive, hlast.append _ fun w hw => by cases hw; exact hv⟩
        · rintro (hv' | hlive)
          · exact hv hv'
          · exact ihNone hn hlive
    | removed k =>
      rw [live_append_removed]
      by_cases hk : k = id
      · simp [Change.settle, hk]
      · simp only [Change.settle, if_neg hk]
        refine ⟨fun u hu => ?_, fun hn hlive => ihNone hn hlive.2⟩
        obtain ⟨hlive, hlast⟩ := ihSome u hu
        exact ⟨⟨hk, hlive⟩, hlast.append _ fun w hw => by cases hw⟩

/-- The ids with a record after a run are the live ones. -/
theorem contains_leavesAll (rs : List Request) (id : UserId) :
    (Request.leavesAll rs empty).contains id = true ↔ Live (history empty rs) id := by
  rw [contains_eq_isSome, find?_leavesAll]
  obtain ⟨hSome, hNone⟩ := settle_spec (history empty rs) id
  cases hs : settle (history empty rs) id with
  | some u => simp [(hSome u hs).1]
  | none => simp [hNone hs]

/-- Every run leaves a store whose count is that of its ids. -/
theorem exists_counts_leavesAll (rs : List Request) :
    ∃ ids, Counts (Request.leavesAll rs empty) ids := by
  rw [leavesAll_eq_history]
  induction history empty rs using List.reverseRecOn with
  | nil => exact ⟨∅, counts_empty⟩
  | append_singleton h c ih =>
    obtain ⟨ids, hids⟩ := ih
    rw [List.foldl_append]
    cases c with
    | kept u => exact ⟨_, hids.put u⟩
    | removed id => exact ⟨_, hids.erase id⟩

/-! ## The contract -/

/-- **A store agrees with its history.** After requests of any number and kind, from a store
without records, every further request is answered by what the successful ones before it kept and
removed. -/
theorem agrees_history (rs : List Request) :
    Agrees (history empty rs) (Request.leavesAll rs empty) := by
  have hcontains := contains_leavesAll rs
  have hfind := find?_leavesAll rs
  obtain ⟨ids, hmem, hsize⟩ := exists_counts_leavesAll rs
  have hnot (id : UserId) (hn : ¬ Live (history empty rs) id) :
      ¬ (Request.leavesAll rs empty).contains id = true := fun hc => hn ((hcontains id).1 hc)
  refine
    { get_live := fun id hl => ?_
      get_other := fun id hn => ?_
      contains := hcontains
      size := ⟨ids, fun id => (hmem id).trans (hcontains id), hsize⟩
      isEmpty := isEmpty_iff _
      create := fun u => rfl
      update_live := fun u hl => ?_
      update_other := fun u hn => ?_
      delete_live := fun id hl => ?_
      delete_other := fun id hn => ?_
      create_none := fun t => rfl
      update_none := fun t => rfl
      scenario := fun u => by rw [answer_eq]; rfl }
  · cases hs : settle (history empty rs) id with
    | some u =>
      refine ⟨u, ((settle_spec _ id).1 u hs).2, ?_⟩
      rw [answer_eq, respond, hfind, hs]
    | none => exact absurd hl ((settle_spec _ id).2 hs)
  · cases hs : settle (history empty rs) id with
    | some u => exact absurd ((settle_spec _ id).1 u hs).1 hn
    | none =>
      rw [answer_eq, respond, hfind, hs]
      rfl
  · rw [answer_eq, respond, if_pos ((hcontains _).2 hl)]
  · rw [answer_eq, respond, if_neg (hnot _ hn)]
    rfl
  · rw [answer_eq, respond, if_pos ((hcontains _).2 hl)]
  · rw [answer_eq, respond, if_neg (hnot _ hn)]
    rfl

end Store

end UserRegistry
