import UserRegistry.Log.Event
import UserRegistry.Text.Blank
import UserRegistry.Text.Bytes
import UserRegistry.Text.Lowercase
import UserRegistry.Text.Split

/-!
# Directives on events

A directive lets events of a target through up to a limit, such as `target=limit`; it may be
restricted to events with certain fields, and to spans, which events are never in. A part without
an equals sign is a limit, or else a target without one.

White space around a directive is passed over when its signs are looked for, but its pieces are
cut from the whole part at the places of these signs: with white space before them they are other
than they look.

Directives are parsed as by `EnvFilter` of `tracing_subscriber`.
-/

namespace UserRegistry

/-- The least important level that is let through, if any. -/
abbrev LevelLimit : Type := Option Level

namespace LevelLimit

def allows (limit : LevelLimit) (l : Level) : Bool :=
  match limit with
  | none => false
  | some most => l.rank ≤ most.rank

def byNumber : List LevelLimit :=
  [none, some .error, some .warn, some .info, some .debug, some .trace]

def byName : List (String × LevelLimit) :=
  [("", some .error), ("error", some .error), ("warn", some .warn), ("info", some .info),
    ("debug", some .debug), ("trace", some .trace), ("off", none)]

/-- The number that digits with or without a plus sign write. -/
def number? (cs : List Char) : Option Nat :=
  match cs with
  | '+' :: ds => Decimal.nat? ds
  | ds => Decimal.nat? ds

/-- The limit that a text names, by number or in letters of any case. -/
def ofText? (cs : List Char) : Option LevelLimit :=
  ((number? cs).bind fun n => byNumber[n]?).or
    (byName.lookup (Text.asciiLowercase (String.ofList cs)))

end LevelLimit

/-- Patterns that the value of a field may be held against. They are matched elsewhere: here it is
asked only which texts may stand there, which are the words for truth values, numbers and
patterns. -/
class Patterns where
  /-- What is wrong with a text in the place of a value, if anything is. -/
  fault? : String → Option String

/-- Patterns of which every text is one. -/
@[reducible] def Patterns.any : Patterns := ⟨fun _ => none⟩

/-- A test on a field of an event: that it is there, or that it has a value. -/
structure FieldTest where
  name : String
  hasValue : Bool
deriving DecidableEq, Repr

/-- A directive as it is written. -/
structure Directive where
  target : Option String := none
  span : Option String := none
  fields : List FieldTest := []
  limit : LevelLimit := some .trace
deriving DecidableEq, Repr

inductive DirectiveFault where
  /-- A part does not have the form of a directive. -/
  | malformed
  /-- A limit does not exist. -/
  | noLimit
  /-- A field is held against something that is no pattern. -/
  | field (fault : String)
  /-- A piece would have to be cut inside a character. This is never told: reading panics. -/
  | split
deriving DecidableEq, Repr

def DirectiveFault.message : DirectiveFault → String
  | malformed => "invalid filter directive"
  | noLimit =>
    "error parsing level filter: expected one of \"off\", \"error\", \"warn\", \"info\", " ++
      "\"debug\", \"trace\", or a number 0-5"
  | field fault => "invalid field filter: " ++ fault
  | split => "not a char boundary"

/-- The test that a text is. Only what stands between the first two equals signs is its value. -/
def FieldTest.ofText [Patterns] (cs : List Char) : Except DirectiveFault FieldTest :=
  match Text.split '=' cs with
  | name :: value :: _ =>
    match Patterns.fault? (String.ofList value) with
    | none => .ok ⟨String.ofList name, true⟩
    | some fault => .error (.field fault)
  | _ => .ok ⟨String.ofList cs, false⟩

namespace Directive

/-- What a directive is in the middle of, with the byte where that began. -/
inductive Place where
  | start
  | target (start : Nat)
  | span (start : Nat)
  | field (start : Nat)
  | afterFields
  | afterBracket
  | limit (start : Nat)
deriving DecidableEq, Repr

/-- What stands between two places of a part. -/
def cut (part : List Char) (first last : Nat) : Except DirectiveFault (List Char) :=
  match Text.cut? part first last with
  | some cs => .ok cs
  | none => .error .split

/-- What stands in a part from a place on. -/
def cutRest (part : List Char) (first : Nat) : Except DirectiveFault (List Char) :=
  cut part first (Text.byteCount part)

def nonempty? (cs : List Char) : Option String :=
  if cs.isEmpty then none else some (String.ofList cs)

/-- The limit that a text after an equals sign names; none given is the last one. -/
def limitAfter (cs : List Char) : Except DirectiveFault LevelLimit :=
  if cs.isEmpty then .ok (some .trace)
  else match LevelLimit.ofText? cs with
    | some limit => .ok limit
    | none => .error .noLimit

/-- A character that a directive may start with, brackets apart. -/
def isStart (c : Char) : Bool :=
  ['-', ':', '_'].contains c || Text.isLetterOrNumber c

section
variable [Patterns]

/-- One character of a directive. `part` is the whole text and `i` the place of the character. -/
def step (part : List Char) (d : Directive) (i : Nat) (c : Char) :
    Place → Except DirectiveFault (Directive × Place)
  | .start =>
    if c = '[' then .ok (d, .span (i + 1))
    else if isStart c then .ok (d, .target i)
    else .error .malformed
  | .target first =>
    let named (next : Place) := (cut part first i).map fun target =>
      ({ d with target := some (String.ofList target) }, next)
    if c = '=' then named (.limit (i + 1))
    else if c = '[' then named (.span (i + 1))
    else .ok (d, .target first)
  | .span first =>
    if c = ']' then (cut part first i).map fun name =>
      ({ d with span := some (String.ofList name) }, .afterBracket)
    else if c = '\x7b' then (cut part first i).map fun name =>
      ({ d with span := nonempty? name }, .field (i + 1))
    else .ok (d, .span first)
  | .field first =>
    if c = '\x7d' then do
      let text ← cut part first i
      if text.isEmpty then .error .malformed
      else
        let test ← FieldTest.ofText text
        .ok ({ d with fields := d.fields ++ [test] }, .afterFields)
    else .ok (d, .field first)
  | .afterFields => if c = ']' then .ok (d, .afterBracket) else .error .malformed
  | .afterBracket => if c = '=' then .ok (d, .limit (i + 1)) else .error .malformed
  | .limit first => .ok (d, .limit first)

def finish (part : List Char) (d : Directive) : Place → Except DirectiveFault Directive
  | .target first => (cutRest part first).map fun text =>
    match LevelLimit.ofText? text with
    | some limit => { d with limit, target := none }
    | none => { d with target := some (String.ofList text) }
  | .limit first => do
    let limit ← limitAfter (← cutRest part first)
    .ok { d with limit }
  | .afterBracket => .ok d
  | .start | .span _ | .field _ | .afterFields => .error .malformed

/-- Reads what is left of a directive from a place on. -/
def readFrom (part : List Char) (d : Directive) (place : Place) (i : Nat) :
    List Char → Except DirectiveFault Directive
  | [] => finish part d place
  | c :: cs =>
    match step part d i c place with
    | .error e => .error e
    | .ok (d, place) => readFrom part d place (i + c.utf8Size) cs

def read (part : List Char) : Except DirectiveFault Directive :=
  readFrom part {} .start 0 (Text.trimmed part)

end

end Directive

end UserRegistry
