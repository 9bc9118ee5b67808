import UserRegistry.Document.Format
import UserRegistry.Number.Binary

/-!
# Values of TOML documents

A document is a table: named values in the order they are given, without repetitions. Values are
texts, integers of 64 bits, floating-point numbers, truth values, moments in time, lists and
tables. Reading a record from a value takes every value as what it is and converts nothing.

Records are read as the crate `toml` deserializes them.
-/

namespace UserRegistry.Toml

/-- A value of a document. A moment in time is kept in its usual written form. -/
inductive Value where
  | text (value : String)
  | int (value : Int64)
  | float (value : Binary)
  | flag (value : Bool)
  | moment (written : String)
  | list (items : List Value)
  | table (members : List (String × Value))

/-- Reads a value of a type out of a value of a document, or finds that it does not fit. -/
def Reader (α : Type) : Type := Value → Option α

/-- Whether a value may stand under a name that has no value of its own. -/
def Value.isVoid : Value → Bool
  | table [] | list [] => true
  | _ => false

/-- One name out of several: a text in the same letters, or a table with the name as its only key
and nothing under it. -/
def readOneOf (names : List (String × α)) : Reader α
  | .text s => names.lookup s
  | .table [(s, v)] => if v.isVoid then names.lookup s else none
  | _ => none

/-- Reads the members of a table into a record; members of other names are passed over. -/
def readMembers (members : List (String × Value)) : List (Field Reader α) → α → Option α
  | [], value => some value
  | f :: fs, value =>
    match members.lookup f.name with
    | none => if f.required then none else readMembers members fs value
    | some v => (f.change v).bind fun change => readMembers members fs (change value)

/-- Reads the items of a list as the fields of a record in their order; further items are passed
over. -/
def readItems : List Value → List (Field Reader α) → α → Option α
  | _, [], value => some value
  | [], f :: fs, value => if f.required then none else readItems [] fs value
  | v :: vs, f :: fs, value => (f.change v).bind fun change => readItems vs fs (change value)

/-- Reads a record from a table or a list. A moment counts as a table of other names. -/
def readRecord (r : Record Reader α) : Reader α
  | .table members => readMembers members r.fields r.blank
  | .list items => readItems items r.fields r.blank
  | .moment _ => readMembers [] r.fields r.blank
  | _ => none

def Reader.map (f : α → β) (r : Reader α) : Reader β :=
  show Value → Option β from fun v => (r v).map f

def readInt64 : Reader Int64
  | .int i => some i
  | _ => none

def readText : Reader String
  | .text s => some s
  | _ => none

def readFlag : Reader Bool
  | .flag b => some b
  | _ => none

instance : Format Reader where
  map := Reader.map
  int64 := readInt64
  text := readText
  flag := readFlag
  oneOf _ names := readOneOf names
  record := readRecord

end UserRegistry.Toml
