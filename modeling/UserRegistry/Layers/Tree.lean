import UserRegistry.Text.Lowercase
import UserRegistry.Keyed
import UserRegistry.Number.Binary

/-!
# The tree of settings

Layers of configuration are put on top of each other in one untyped tree. A value remembers where
it came from, for messages. Names are kept in lower case. A table that is put over another is
merged with it name by name; anything else replaces what was there.

The tree is the `Value` of the crate `config`.
-/

namespace UserRegistry.Layers

/-- A value without parts. -/
inductive Scalar where
  | nothing
  | flag (value : Bool)
  | int (value : Int64)
  | float (value : Binary)
  | text (value : String)
deriving DecidableEq, Repr

/-- A tree of settings. The origin of a value is what messages call it by; tables that came to be
by merging have none. -/
inductive Tree where
  | scalar (origin : Option String) (value : Scalar)
  | list (origin : Option String) (items : List Tree)
  | table (origin : Option String) (members : List (String × Tree))

namespace Tree

def empty : Tree := .table none []

/-- A place where nothing is yet. -/
def void : Tree := .scalar none .nothing

/-- The members of a table; anything else has none. -/
def members : Tree → List (String × Tree)
  | table _ ms => ms
  | _ => []

/-- The items of a list; anything else has none. -/
def items : Tree → List Tree
  | list _ ts => ts
  | _ => []

/-- A table as it is, anything else as a fresh table. -/
def asTable : Tree → Tree
  | table o ms => table o ms
  | _ => empty

/-- A list as it is, anything else as a fresh list. -/
def asList : Tree → Tree
  | list o ts => list o ts
  | _ => .list none []

/-- Changes what is under a name of a table; where nothing is, the change starts from `start`. -/
def changeMember (name : String) (start : Tree) (change : Tree → Tree) (t : Tree) : Tree :=
  match t.asTable with
  | table o ms => table o (Keyed.put name (change ((ms.lookup name).getD start)) ms)
  | other => other

mutual

/-- Puts a tree under a name: a table is merged into what is there, where an empty one changes
nothing; anything else replaces it. -/
def put (name : String) : Tree → Tree → Tree
  | .table _ ms, root =>
    changeMember (Text.lowercase name) empty (putAll ms) root
  | .list o ts, root => changeMember (Text.lowercase name) empty (fun _ => .list o ts) root
  | .scalar o v, root => changeMember (Text.lowercase name) empty (fun _ => .scalar o v) root

def putAll : List (String × Tree) → Tree → Tree
  | [], root => root
  | (n, t) :: ms, root => putAll ms (put n t root)

end

end Tree

end UserRegistry.Layers
