import UserRegistry.Service.Basic

/-!
# The stand-in

A user service without a memory: every operation succeeds, nothing is kept, and the record under
any id is the same canned one.

| here | there |
| --- | --- |
| `StandIn.service` | `MockUserService` |
| `StandIn.user` | `MOCK_USER_NAME`, `MOCK_USER_EMAIL` |
-/

namespace UserRegistry

namespace StandIn

def user (id : UserId) : User :=
  ⟨id, "Mock User", "mock@example.com"⟩

/-- The stand-in as a user service (`MockUserService`). -/
def service : Service Unit where
  get id := do
    .tell (.standInGet id)
    pure (user id)
  create _ := .tell .standInCreate
  update _ := .tell .standInUpdate
  delete id := .tell (.standInDelete id)

end StandIn

end UserRegistry
