import UserRegistry.Failure

/-!
# Where and why a document is not read

A fault has a cause and a place. The place is what was left of the text, or a few bytes into it;
as a line and a column it is counted in line feeds and in bytes since the last one.

Causes and places are those of `serde_json::Error`.
-/

namespace UserRegistry.Json

/-- Why a document is not read. -/
inductive Cause where
  | endInValue
  | endInText
  | endInList
  | endInObject
  | expectedColon
  | expectedItem
  | expectedMember
  | expectedWord
  | expectedValue
  | badEscape
  | badNumber
  | numberOutOfRange
  | controlCharacter
  | keyNotText
  | loneSurrogate
  | halfSurrogate
  | trailingComma
  | trailingCharacters
  /-- A value of another kind than expected. -/
  | wrongKind (found expected : String)
  /-- A value of the right kind that is not allowed. -/
  | wrongValue (found expected : String)
  /-- A list with too few items for the fields of a record. -/
  | tooShort (length : Nat) (expected : String)
  /-- A name that is none of those allowed. -/
  | unknownName (name : String) (allowed : List String)
  | missingField (name : String)
  | repeatedField (name : String)
deriving DecidableEq, Repr

/-- A name between back quotes. -/
def ticked (s : String) : String :=
  "\x60" ++ s ++ "\x60"

/-- Names one of which is allowed. -/
def alternatives : List String → String
  | [] => "nothing"
  | [a] => ticked a
  | [a, b] => ticked a ++ " or " ++ ticked b
  | names => "one of " ++ String.intercalate ", " (names.map ticked)

namespace Cause

def message : Cause → String
  | endInValue => "EOF while parsing a value"
  | endInText => "EOF while parsing a string"
  | endInList => "EOF while parsing a list"
  | endInObject => "EOF while parsing an object"
  | expectedColon => "expected " ++ ticked ":"
  | expectedItem => "expected " ++ ticked "," ++ " or " ++ ticked "]"
  | expectedMember => "expected " ++ ticked "," ++ " or " ++ ticked "\x7d"
  | expectedWord => "expected ident"
  | expectedValue => "expected value"
  | badEscape => "invalid escape"
  | badNumber => "invalid number"
  | numberOutOfRange => "number out of range"
  | controlCharacter => "control character (\\u0000-\\u001F) found while parsing a string"
  | keyNotText => "key must be a string"
  | loneSurrogate => "lone leading surrogate in hex escape"
  | halfSurrogate => "unexpected end of hex escape"
  | trailingComma => "trailing comma"
  | trailingCharacters => "trailing characters"
  | wrongKind found expected => "invalid type: " ++ found ++ ", expected " ++ expected
  | wrongValue found expected => "invalid value: " ++ found ++ ", expected " ++ expected
  | tooShort n expected => "invalid length " ++ toString n ++ ", expected " ++ expected
  | unknownName name allowed =>
    "unknown variant " ++ ticked name ++ ", expected " ++ alternatives allowed
  | missingField name => "missing field " ++ ticked name
  | repeatedField name => "duplicate field " ++ ticked name

end Cause

/-- A cause with its place: `skip` bytes into what was left of the text. -/
structure Fault where
  cause : Cause
  left : List Char
  skip : Nat
deriving DecidableEq, Repr

/-- A line, counted from one, and the bytes since its start. -/
structure Place where
  line : Nat
  column : Nat
deriving DecidableEq, Repr

namespace Place

def start : Place := ⟨1, 0⟩

def step (p : Place) (c : Char) : Place :=
  if c = '\n' then ⟨p.line + 1, 0⟩ else ⟨p.line, p.column + c.utf8Size⟩

/-- The place after some bytes of a text, or after the text if it has no more. -/
def skip (p : Place) : Nat → List Char → Place
  | 0, _ => p
  | _, [] => p
  | n + 1, c :: cs =>
    if c = '\n' then skip (p.step c) n cs
    else if c.utf8Size ≤ n + 1 then skip (p.step c) (n + 1 - c.utf8Size) cs
    else ⟨p.line, p.column + n + 1⟩

end Place

namespace Fault

def place (text : List Char) (f : Fault) : Place :=
  ((text.take (text.length - f.left.length)).foldl Place.step Place.start).skip f.skip f.left

/-- The failure of reading a text because of the fault. -/
def failure (text : List Char) (f : Fault) : Failure :=
  let p := f.place text
  .internal ("JSON serialization error: " ++ f.cause.message ++ " at line " ++ toString p.line ++
    " column " ++ toString p.column)

end Fault

/-- What is read from a text and what is left of it, or why nothing is read. -/
abbrev Step (α : Type) : Type := Except Fault (α × List Char)

/-- A fault at what is left of a text. -/
def faultAt (cause : Cause) (left : List Char) : Except Fault α :=
  .error ⟨cause, left, 0⟩

/-- A fault at the first byte of what is left of a text, which is counted as seen. -/
def faultOn (cause : Cause) (left : List Char) : Except Fault α :=
  .error ⟨cause, left, 1⟩

end UserRegistry.Json
