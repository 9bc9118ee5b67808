import UserRegistry.Log.Action

/-!
# User services

What any keeper of users offers: reading a record, creating, updating and deleting one. A service
works on a state of its own, of any type.

| here | there |
| --- | --- |
| `Service` | `UserService` |
| `get`, `create` | `get_user`, `create_user` |
| `update`, `delete` | `update_user`, `delete_user` |
-/

namespace UserRegistry

/-- The operations of a user service whose state is `σ` (`UserService`). -/
structure Service (σ : Type) where
  /-- The record with an id. -/
  get : UserId → Action σ User
  /-- Adds a record, if one is given. -/
  create : Option User → Action σ Unit
  /-- Changes the record with the id of the one given, if one is given. -/
  update : Option User → Action σ Unit
  /-- Removes the record with an id. -/
  delete : UserId → Action σ Unit

end UserRegistry
