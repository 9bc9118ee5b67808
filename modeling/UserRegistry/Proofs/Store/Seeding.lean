import UserRegistry.Proofs.Store.Journal

/-!
# Seeding a store

A store that is seeded with users is the store that creating them one by one leaves (`seeds`). Under
every id it has the last of the users with that id, so it does not matter how users of different ids
are mixed: two lists in which the users of each id stand in the same order seed the same store.

All of it follows from one equation for a seeded store, `find?_ofList`, by induction on the list
from its end, where the users are added.
-/

namespace UserRegistry.Store

open Request

theorem ofList_concat (users : List User) (u : User) :
    ofList (users ++ [u]) = (ofList users).put u :=
  List.foldl_append

/-- The users of a list with an id, in order. -/
def sharing (users : List User) (id : UserId) : List User :=
  users.filter fun u => u.id = id

/-- The record under an id is the last user with that id. -/
theorem find?_ofList (users : List User) (id : UserId) :
    (ofList users).find? id = (sharing users id).getLast? := by
  induction users using List.reverseRecOn with
  | nil => exact find?_empty id
  | append_singleton users u ih =>
    rw [ofList_concat, find?_put, sharing, List.filter_append, List.getLast?_append]
    by_cases h : u.id = id
    · simp [h]
    · simp [h, ih, sharing]

theorem sharing_split {before after : List User} {u : User} (h : ∀ v ∈ after, v.id ≠ u.id) :
    (sharing (before ++ u :: after) u.id).getLast? = some u := by
  have hafter : after.filter (fun v => v.id = u.id) = [] := by simpa using h
  simp [sharing, hafter]

/-- Seeding collects the users into a map as its library does with pairs. -/
theorem users_ofList (users : List User) :
    (ofList users).users = Std.ExtHashMap.ofList (users.map fun u => (u.id, u)) := by
  have h (s : Store) : (users.foldl put s).users =
      s.users.insertMany (users.map fun u => (u.id, u)) := by
    induction users generalizing s with
    | nil => simp
    | cons u users ih =>
      rw [List.foldl_cons, ih, List.map_cons, Std.ExtHashMap.insertMany_cons]
      rfl
  rw [Std.ExtHashMap.ofList_eq_insertMany_empty]
  exact h empty

/-- The requests that create users one by one. -/
def creating (users : List User) : List Request :=
  users.map fun u => .create (some u)

theorem leavesAll_creating (users : List User) (s : Store) :
    leavesAll (creating users) s = users.foldl put s := by
  induction users generalizing s with
  | nil => rfl
  | cons u users ih =>
    have hput : (Request.create (some u)).leaves s = s.put u := leaves_eq s _
    rw [List.foldl_cons, ← ih, ← hput]
    rfl

/-- What a store that is seeded with users is. -/
structure Seeded (users : List User) : Prop where
  /-- Its records are the users, collected by their ids in one go. -/
  collected : (ofList users).users = Std.ExtHashMap.ofList (users.map fun u => (u.id, u))
  /-- It is what creating the users leaves, and so every run of requests is answered alike. -/
  created : leavesAll (creating users) empty = ofList users
  later : ∀ rs, answersAll rs (leavesAll (creating users) empty) = answersAll rs (ofList users)
  /-- Of the users with an id the last one is found; under an id without users nothing is. -/
  last : ∀ before u after, users = before ++ u :: after → (∀ v ∈ after, v.id ≠ u.id) →
    (Request.get u.id).answer (ofList users) = .ok (some u)
  none : ∀ id, (∀ u ∈ users, u.id ≠ id) →
    (Request.get id).answer (ofList users) = .error (.notFound "User" id.text)
  /-- There are as many records as different ids. -/
  size : (ofList users).size = (users.map User.id).toFinset.card
  /-- How users of different ids are mixed does not matter. -/
  mixed : ∀ vs, (∀ id, sharing vs id = sharing users id) → ofList vs = ofList users

/-- **Seeding is creating one by one**, whatever users there are and however often their ids are
repeated. -/
theorem seeds (users : List User) : Seeded users := by
  have hcreated := leavesAll_creating users empty
  refine
    { collected := users_ofList users
      created := hcreated
      later := fun rs => by rw [hcreated]; rfl
      last := fun before u after husers hafter => ?_
      none := fun id hid => ?_
      size := (counts_ofList users).2
      mixed := fun vs hvs => ext_find? fun id => ?_ }
  · rw [answer_eq, respond, find?_ofList, husers, sharing_split hafter]
  · have hsharing : sharing users id = [] := by simpa [sharing] using hid
    rw [answer_eq, respond, find?_ofList, hsharing]
    rfl
  · rw [find?_ofList, find?_ofList, hvs]

end UserRegistry.Store
