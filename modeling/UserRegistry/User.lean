import UserRegistry.Json.Text

/-!
# Users

A user record: an id, a name and an email address, none of which is restricted. Ids are 64-bit
integers and are written as such.

| here | there |
| --- | --- |
| `User`, `UserId` | `User`, `UserId` |
| `text` | `Display` |
| `User.toJson` | `User::to_json` |
-/

namespace UserRegistry

structure UserId where
  value : Int64
deriving DecidableEq, Hashable, Inhabited, Repr

namespace UserId

def text (id : UserId) : String :=
  Decimal.ofInt64 id.value

/-- The id as a document: a bare integer. -/
def toJson (id : UserId) : Json :=
  .int id.value

instance : LE UserId := ⟨fun a b => a.value ≤ b.value⟩

instance (a b : UserId) : Decidable (a ≤ b) :=
  inferInstanceAs (Decidable (a.value ≤ b.value))

def sorted (ids : List UserId) : List UserId :=
  ids.mergeSort fun a b => decide (a ≤ b)

def countDistinct (ids : List UserId) : Nat :=
  ids.eraseDups.length

/-- The id that stands for no choice. -/
def zero : UserId := ⟨0⟩

end UserId

structure User where
  id : UserId
  name : String
  email : String
deriving DecidableEq, Repr

namespace User

def text (u : User) : String :=
  "\x7bID:" ++ u.id.text ++ " Name:" ++ u.name ++ " Email:" ++ u.email ++ "\x7d"

def toJson (u : User) : Json :=
  .object [("id", u.id.toJson), ("name", .text u.name), ("email", .text u.email)]

def countDistinct (users : List User) : Nat :=
  users.eraseDups.length

end User

end UserRegistry
