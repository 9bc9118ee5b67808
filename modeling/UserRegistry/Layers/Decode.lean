import UserRegistry.Document.Format
import UserRegistry.Layers.Ranks
import UserRegistry.Number.Shortest
import UserRegistry.Text.Quoted

/-!
# Reading settings from the tree

A value is taken for the kind that is expected where it can stand for one: numbers and truth
values are texts as they are written, a text is a number or a truth value where it is the word for
one, and names are compared in lower case. What cannot be taken so is told with its key and its
origin.

This is how the crate `config` deserializes its `Value`, by `into_int`, `into_bool` and
`into_string`.
-/

namespace UserRegistry.Layers

/-- Why a tree does not hold the settings. -/
inductive Misfit where
  /-- A value under a key is of another kind. -/
  | wrongKind (found expected key : String) (origin : Option String)
  /-- Something else stands where a record is expected. -/
  | noRecord (found title : String)
  /-- A field that has to be there is not. -/
  | missing (key : String)
  /-- A name is none of those there are. -/
  | unknownName (title name : String)
  /-- Something else stands where a name is expected. -/
  | noName (title : String)
deriving DecidableEq, Repr

def Misfit.message : Misfit → String
  | wrongKind found expected key origin =>
    "invalid type: " ++ found ++ ", expected " ++ expected ++ " for key `" ++ key ++ "`" ++
      (match origin with
        | some o => " in " ++ o
        | none => "")
  | noRecord found title => "invalid type: " ++ found ++ ", expected " ++ title
  | missing key => "missing configuration field " ++ Text.quoted key
  | unknownName title name =>
    "enum " ++ title ++ " does not have variant constructor " ++ name
  | noName title =>
    "value of enum " ++ title ++
      " should be represented by either string or table with exactly one key"

namespace Tree

def foundScalar : Scalar → String
  | .nothing => "unit value"
  | .flag b => "boolean `" ++ Json.flagWord b ++ "`"
  | .int i => "integer `" ++ Decimal.ofInt64 i ++ "`"
  | .float x => "floating point `" ++ x.text .pointed ++ "`"
  | .text s => "string " ++ Text.quoted s

/-- What messages call a tree that is not expected. -/
def found : Tree → String
  | scalar _ v => foundScalar v
  | list _ _ => "sequence"
  | table _ _ => "map"

/-- Where a tree came from, if that is known. -/
def origin : Tree → Option String
  | scalar o _ | list o _ | table o _ => o

/-- Reads what stands under a key as a value of a type. -/
def Reader (α : Type) : Type := String → Tree → Except Misfit α

def memberKey (key name : String) : String :=
  if key = "" then name else key ++ "." ++ name

def itemKey (key : String) (i : Nat) : String :=
  key ++ "[" ++ String.ofList (Decimal.ofNat i) ++ "]"

def int64? : Scalar → Option Int64
  | .nothing => none
  | .flag b => some (if b then 1 else 0)
  | .int i => some i
  | .float x => some x.toInt64
  | .text s =>
    let word := Text.lowercase s
    if ["true", "on", "yes"].contains word then some 1
    else if ["false", "off", "no"].contains word then some 0
    else Decimal.int64? s.toList

def text? : Scalar → Option String
  | .nothing => none
  | .flag b => some (Json.flagWord b)
  | .int i => some (Decimal.ofInt64 i)
  | .float x => some (x.text .plain)
  | .text s => some s

def flag? : Scalar → Option Bool
  | .nothing => none
  | .flag b => some b
  | .int i => some (i != 0)
  | .float x => some (!x.isZero)
  | .text s =>
    let word := Text.lowercase s
    if ["1", "true", "on", "yes"].contains word then some true
    else if ["0", "false", "off", "no"].contains word then some false
    else none

/-- Reads a scalar, where `shown` is what a message shows of one that does not fit. -/
def readScalar (expected : String) (value? : Scalar → Option α) (shown : Scalar → Scalar) :
    Reader α := fun key t =>
  match t with
  | scalar o v =>
    match value? v with
    | some a => .ok a
    | none => .error (.wrongKind (foundScalar (shown v)) expected key o)
  | t => .error (.wrongKind t.found expected key t.origin)

/-- A text in lower case, anything else as it is. -/
def inLowercase : Scalar → Scalar
  | .text s => .text (Text.lowercase s)
  | v => v

/-- Reads one name out of several, in letters of any case: a text, or the only name in a table. -/
def readOneOf (title : String) (names : List (String × α)) : Reader α := fun _ t =>
  let named (s : String) : Except Misfit α :=
    match names.find? fun n => Text.lowercase n.1 = Text.lowercase s with
    | some n => .ok n.2
    | none => .error (.unknownName title s)
  match t with
  | scalar _ (.text s) => named s
  | table _ [m] => named m.1
  | _ => .error (.noName title)

/-- Reads the members of a table into a record; members of other names are passed over. -/
def readMembers (key : String) (members : List (String × Tree)) :
    List (Field Reader α) → α → Except Misfit α
  | [], value => .ok value
  | f :: fs, value =>
    match members.lookup f.name with
    | none =>
      if f.required then .error (.missing (memberKey key f.name))
      else readMembers key members fs value
    | some t =>
      match f.change (memberKey key f.name) t with
      | .error e => .error e
      | .ok change => readMembers key members fs (change value)

/-- Reads the items of a list as the fields of a record in their order; further items are passed
over. -/
def readItems (key : String) :
    Nat → List Tree → List (Field Reader α) → α → Except Misfit α
  | _, _, [], value => .ok value
  | i, [], f :: fs, value =>
    if f.required then .error (.missing (itemKey key i)) else readItems key (i + 1) [] fs value
  | i, t :: ts, f :: fs, value =>
    match f.change (itemKey key i) t with
    | .error e => .error e
    | .ok change => readItems key (i + 1) ts fs (change value)

/-- Reads a record from a table or a list. -/
def readRecord (r : Record Reader α) : Reader α := fun key t =>
  match t with
  | table _ members => readMembers key members r.fields r.blank
  | list _ items => readItems key 0 items r.fields r.blank
  | t => .error (.noRecord t.found r.title)

def Reader.map (f : α → β) (r : Reader α) : Reader β := fun key t =>
  (r key t).map f

instance : Format Reader where
  map := Reader.map
  int64 := readScalar "an integer" int64? id
  text := readScalar "a string" text? id
  flag := readScalar "a boolean" flag? inLowercase
  oneOf := readOneOf
  record := readRecord

/-- A reader that goes through the members of tables by their ranks. Where several of them do not
fit, the first one that it meets is told. -/
def Visitor (α : Type) : Type := Ranks → Reader α

/-- A field as a reader with given ranks reads it. -/
def visited (r : Ranks) (f : Field Visitor α) : Field Reader α :=
  ⟨f.name, f.required, f.change (r.under f.name)⟩

/-- Reads a record from a table by the ranks of its names, or from a list in the order of the
fields. -/
def visitRecord (rec : Record Visitor α) : Visitor α := fun r key t =>
  let fields := rec.fields.map (visited r)
  match t with
  | table _ members => readMembers key members (r.sort Field.name fields) rec.blank
  | list _ items => readItems key 0 items fields rec.blank
  | t => .error (.noRecord t.found rec.title)

instance : Format Visitor where
  map f v := fun r => (v r).map f
  int64 := fun _ => Format.int64
  text := fun _ => Format.text
  flag := fun _ => Format.flag
  oneOf title names := fun _ => Format.oneOf title names
  record := visitRecord

def read (r : Reader α) (t : Tree) : Except Misfit α :=
  r "" t

end Tree

end UserRegistry.Layers
