import UserRegistry.Json.Skip
import UserRegistry.Document.Format
import UserRegistry.Number.Shortest

/-!
# Reading documents by what is expected

A document is read straight into the value that is expected, from left to right, and reading stops
at the first fault. A record is an object of its fields in any order, in which members of other
names are passed over, or a list of its fields in their order, which may end early where fields
may be left out.

This is `serde_json::from_str` for the types that are read here.
-/

namespace UserRegistry.Json

/-- Reads a value of one type from what is left of a text. -/
def Reader (α : Type) : Type := List Char → Step α

/-- What a number is called where it is not expected. -/
def Numeral.found : Numeral → String
  | natural n => "integer " ++ ticked (String.ofList (Decimal.ofNat n))
  | negative n => "integer " ++ ticked (String.ofList ('-' :: Decimal.ofNat n))
  | float x => "floating point " ++ ticked (x.text .compact)

/-- The fault of finding a value of another kind. What is found is read, lists and objects apart,
so a fault in it comes first. -/
def mismatch (expected : String) (s : List Char) : Fault :=
  let named (found : String) : Except Fault (List Char) → Fault
    | .error e => e
    | .ok rest => ⟨.wrongKind found expected, rest, 0⟩
  let number : Step Numeral → Fault
    | .error e => e
    | .ok (n, rest) => ⟨.wrongKind n.found expected, rest, 0⟩
  match s with
  | [] => ⟨.endInValue, [], 0⟩
  | c :: cs =>
    if c = 'n' then named "null" (word "ull".toList cs)
    else if c = 't' then named ("boolean " ++ ticked "true") (word "rue".toList cs)
    else if c = 'f' then named ("boolean " ++ ticked "false") (word "alse".toList cs)
    else if c = '-' then number (numeral true cs)
    else if Text.isDigit c then number (numeral false s)
    else if c = '"' then
      match textAfterQuote cs with
      | .error e => e
      | .ok (t, rest) => ⟨.wrongKind ("string " ++ Text.quoted t) expected, rest, 0⟩
    else if c = '[' then ⟨.wrongKind "sequence" expected, s, 0⟩
    else if c = '\x7b' then ⟨.wrongKind "map" expected, s, 0⟩
    else ⟨.expectedValue, s, 1⟩

/-- A number as a 64-bit integer, at the place after it. -/
def Numeral.int64 (n : Numeral) (rest : List Char) : Step Int64 :=
  match n with
  | .natural k =>
    match Decimal.fit? k with
    | some i => .ok (i, rest)
    | none => faultAt (.wrongValue n.found "i64") rest
  | .negative k =>
    match Decimal.fit? (-(k : Int)) with
    | some i => .ok (i, rest)
    | none => faultAt (.wrongValue n.found "i64") rest
  | .float _ => faultAt (.wrongKind n.found "i64") rest

def readInt64 : Reader Int64 := fun s =>
  match skipGap s with
  | [] => faultAt .endInValue []
  | c :: cs =>
    if c = '-' then
      match numeral true cs with
      | .error e => .error e
      | .ok (n, rest) => n.int64 rest
    else if Text.isDigit c then
      match numeral false (c :: cs) with
      | .error e => .error e
      | .ok (n, rest) => n.int64 rest
    else .error (mismatch "i64" (c :: cs))

/-- Reads a text, where something else is called `expected`. -/
def readTextAs (expected : String) : Reader String := fun s =>
  match skipGap s with
  | [] => faultAt .endInValue []
  | c :: cs => if c = '"' then textAfterQuote cs else .error (mismatch expected (c :: cs))

def readText : Reader String :=
  readTextAs "a string"

def readFlag : Reader Bool := fun s =>
  match skipGap s with
  | [] => faultAt .endInValue []
  | c :: cs =>
    if c = 't' then (word "rue".toList cs).map (true, ·)
    else if c = 'f' then (word "alse".toList cs).map (false, ·)
    else .error (mismatch "a boolean" (c :: cs))

def readNull (s : List Char) : Except Fault (List Char) :=
  match skipGap s with
  | [] => faultAt .endInValue []
  | c :: cs => if c = 'n' then word "ull".toList cs else .error (mismatch "unit" (c :: cs))

/-- Reads one name out of several, in the same letters. -/
def readName (names : List (String × α)) : Reader α := fun s =>
  match readTextAs "variant identifier" s with
  | .error e => .error e
  | .ok (t, rest) =>
    match names.lookup t with
    | some a => .ok (a, rest)
    | none => faultAt (.unknownName t (names.map Prod.fst)) rest

def colon (s : List Char) : Except Fault (List Char) :=
  match skipGap s with
  | [] => faultAt .endInObject []
  | c :: cs => if c = ':' then .ok cs else faultOn .expectedColon (c :: cs)

/-- Reads one name out of several: a text, or an object with the name as its only key and no value
under it. -/
def readOneOf (names : List (String × α)) : Reader α := fun s =>
  match skipGap s with
  | [] => faultAt .endInValue []
  | c :: cs =>
    if c = '"' then readName names (c :: cs)
    else if c ≠ '\x7b' then faultOn .expectedValue (c :: cs)
    else
      match readName names cs with
      | .error e => .error e
      | .ok (a, rest) =>
        match (colon rest).bind readNull with
        | .error e => .error e
        | .ok rest =>
          match skipGap rest with
          | [] => faultAt .endInObject []
          | d :: ds => if d = '\x7d' then .ok (a, ds) else faultAt .expectedValue (d :: ds)

/-! ## Records -/

/-- Reads the next key of an object, or nothing where the object ends; the closing brace is left. -/
def nextKey (first : Bool) (s : List Char) : Step (Option String) :=
  let key : List Char → Step (Option String)
    | [] => faultAt .endInValue []
    | c :: cs =>
      if c = '"' then (textAfterQuote cs).map fun (t, rest) => (some t, rest)
      else if c = '\x7d' then faultOn .trailingComma (c :: cs)
      else faultOn .keyNotText (c :: cs)
  match skipGap s with
  | [] => faultAt .endInObject []
  | c :: cs =>
    if c = '\x7d' then .ok (none, c :: cs)
    else if first then key (c :: cs)
    else if c = ',' then key (skipGap cs)
    else faultOn .expectedMember (c :: cs)

/-- What is left after the end of an object, if the object ends here. -/
def afterObject (s : List Char) : List Char :=
  match skipGap s with
  | '\x7d' :: cs => cs
  | rest => rest

/-- Reads the members of a record. `value` is the record so far, `seen` the fields that were
given. -/
def readMembers (fields : List (Field Reader α)) :
    Nat → Bool → α → List String → List Char → Step α
  | 0, _, _, _, s => faultAt .endInObject s
  | fuel + 1, first, value, seen, s =>
    match nextKey first s with
    | .error e => .error e
    | .ok (none, rest) =>
      match fields.find? fun f => f.required && !seen.contains f.name with
      | some f => faultAt (.missingField f.name) (afterObject rest)
      | none => .ok (value, afterObject rest)
    | .ok (some key, rest) =>
      match fields.find? fun f => f.name == key with
      | none =>
        match (colon rest).bind skipValue with
        | .error e => .error e
        | .ok rest => readMembers fields fuel false value seen rest
      | some f =>
        if seen.contains key then faultAt (.repeatedField key) (afterObject rest)
        else match (colon rest).bind f.change with
          | .error e => .error e
          | .ok (change, rest) =>
            readMembers fields fuel false (change value) (key :: seen) rest

/-- Whether a list goes on: what is left before its next item, or nothing where the list ends; the
closing bracket is left. -/
def nextItem (first : Bool) (s : List Char) : Step Bool :=
  let item : List Char → Step Bool
    | [] => faultAt .endInValue []
    | c :: cs => if c = ']' then faultOn .trailingComma (c :: cs) else .ok (true, c :: cs)
  match skipGap s with
  | [] => faultAt .endInList []
  | c :: cs =>
    if c = ']' then .ok (false, c :: cs)
    else if first then item (c :: cs)
    else if c = ',' then item (skipGap cs)
    else faultOn .expectedItem (c :: cs)

def closeList (s : List Char) : Except Fault (List Char) :=
  match skipGap s with
  | [] => faultAt .endInList []
  | c :: cs =>
    if c = ']' then .ok cs
    else if c = ',' then
      match skipGap cs with
      | ']' :: ds => faultOn .trailingComma (']' :: ds)
      | rest => faultOn .trailingCharacters rest
    else faultOn .trailingCharacters (c :: cs)

/-- What is left after the end of a list, if the list ends here. -/
def afterList (s : List Char) : List Char :=
  match skipGap s with
  | ']' :: cs => cs
  | ',' :: cs => skipGap cs
  | rest => rest

/-- Reads the items of a list as the fields of a record in their order. -/
def readItems (expected : String) :
    List (Field Reader α) → Nat → α → List Char → Step α
  | [], _, value, s => (closeList s).map (value, ·)
  | f :: fs, position, value, s =>
    match nextItem (position == 0) s with
    | .error e => .error e
    | .ok (false, rest) =>
      if f.required then faultAt (.tooShort position expected) (afterList rest)
      else readItems expected fs position value rest
    | .ok (true, rest) =>
      match f.change rest with
      | .error e => .error e
      | .ok (change, rest) => readItems expected fs (position + 1) (change value) rest

def readRecord (r : Record Reader α) : Reader α := fun s =>
  match skipGap s with
  | [] => faultAt .endInValue []
  | c :: cs =>
    if c = '\x7b' then readMembers r.fields (cs.length + 1) true r.blank [] cs
    else if c = '[' then readItems (r.title ++ " with " ++ r.count) r.fields 0 r.blank cs
    else .error (mismatch r.title (c :: cs))

instance : Format Reader where
  map f r := fun s => (r s).map fun (a, rest) => (f a, rest)
  int64 := readInt64
  text := readText
  flag := readFlag
  oneOf _ names := readOneOf names
  record := readRecord

/-- Reads a whole text: a value and nothing after it. -/
def readAll (r : Reader α) (s : List Char) : Except Fault α :=
  match r s with
  | .error e => .error e
  | .ok (a, rest) =>
    match skipGap rest with
    | [] => .ok a
    | c :: cs => faultOn .trailingCharacters (c :: cs)

def read (r : Reader α) (text : String) : Result α :=
  (readAll r text.toList).mapError (Fault.failure text.toList)

end UserRegistry.Json
