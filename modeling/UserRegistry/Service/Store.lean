import Std.Data.ExtHashMap
import UserRegistry.Service.Basic

/-!
# The store

Users kept in memory, at most one under each id. Creating replaces a record with the same id;
updating and deleting need one to be there. An operation that fails leaves the store as it was.

| here | there |
| --- | --- |
| `Store`, `Store.service` | `UserServiceImpl` as a `UserService` |
| `Store.ofList` | `with_users` |
| `size`, `isEmpty`, `contains` | `len`, `is_empty`, `contains` |
| `missing` | `require_user` |
-/

namespace UserRegistry

/-- The users kept, by id (`UserServiceImpl`). Two stores with the same records are the same store.
-/
structure Store where
  users : Std.ExtHashMap UserId User

namespace Store

def empty : Store := ⟨∅⟩

def find? (s : Store) (id : UserId) : Option User :=
  s.users[id]?

def contains (s : Store) (id : UserId) : Bool :=
  s.users.contains id

def size (s : Store) : Nat :=
  s.users.size

def isEmpty (s : Store) : Bool :=
  s.users.isEmpty

/-- The store with a record under its own id, in place of any former one. -/
def put (s : Store) (u : User) : Store :=
  ⟨s.users.insert u.id u⟩

def erase (s : Store) (id : UserId) : Store :=
  ⟨s.users.erase id⟩

/-- A store seeded with users (`with_users`); of two with the same id the later one stays. -/
def ofList (users : List User) : Store :=
  users.foldl put empty

@[simp] theorem find?_empty (id : UserId) : empty.find? id = none := by
  simp [empty, find?]

theorem find?_put (s : Store) (u : User) (id : UserId) :
    (s.put u).find? id = if u.id = id then some u else s.find? id := by
  simp [put, find?, Std.ExtHashMap.getElem?_insert]

theorem find?_erase (s : Store) (k id : UserId) :
    (s.erase k).find? id = if k = id then none else s.find? id := by
  simp [erase, find?, Std.ExtHashMap.getElem?_erase]

theorem contains_eq_isSome (s : Store) (id : UserId) : s.contains id = (s.find? id).isSome := by
  simp [contains, find?]

/-- A store is its records. -/
theorem ext_find? {s t : Store} (h : ∀ id, s.find? id = t.find? id) : s = t := by
  cases s
  cases t
  simp only [Store.mk.injEq]
  exact Std.ExtHashMap.ext_getElem? h

/-- What an operation on an id without a record answers. -/
def absent (id : UserId) : Failure :=
  .notFound "User" id.text

/-- What an operation without a record answers. -/
def missing : Failure :=
  .invalidArgument "user cannot be empty"

def get (id : UserId) : Action Store User := do
  .tell (.gettingUser id)
  match (← Action.get).find? id with
  | some u => pure u
  | none => .fail (absent id)

def create : Option User → Action Store Unit
  | none => do
    .tell .missingUser
    .fail missing
  | some u => do
    .tell (.creatingUser u.id)
    let s ← Action.get
    Action.set (s.put u)
    .tell (if s.contains u.id then .userReplaced u.id else .userCreated u.id)

def update : Option User → Action Store Unit
  | none => do
    .tell .missingUser
    .fail missing
  | some u => do
    .tell (.updatingUser u.id)
    let s ← Action.get
    if s.contains u.id then
      Action.set (s.put u)
      .tell (.userUpdated u.id)
    else
      .tell (.updateRejected u.id)
      .fail (absent u.id)

def delete (id : UserId) : Action Store Unit := do
  .tell (.deletingUser id)
  let s ← Action.get
  if s.contains id then
    Action.set (s.erase id)
    .tell (.userDeleted id)
  else
    .tell (.deleteRejected id)
    .fail (absent id)

def service : Service Store :=
  ⟨get, create, update, delete⟩

end Store

end UserRegistry
