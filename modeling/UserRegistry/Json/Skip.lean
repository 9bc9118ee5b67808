import UserRegistry.Json.Scan

/-!
# Passing over values

A member that no field asks for is passed over, whatever its value is and however deep it goes.
Lists and objects still open are kept on a stack, so that the depth is not limited.

In `serde_json` this is `ignore_value`.
-/

namespace UserRegistry.Json

/-- A list or an object that is still open. -/
inductive Frame where
  | list
  | object
deriving DecidableEq, Repr

namespace Frame

def closer : Frame → Char
  | list => ']'
  | object => '\x7d'

/-- The fault when the text ends inside it. -/
def endInside : Frame → Cause
  | list => .endInList
  | object => .endInObject

/-- The fault when neither a comma nor the closing character follows a value. -/
def expected : Frame → Cause
  | list => .expectedItem
  | object => .expectedMember

end Frame

/-- Closes frames, innermost first, as far as closing characters follow. Gives the frames that
stay open, in the innermost of which another value comes. -/
def closeFrames (afterValue : Bool) : List Frame → List Char → Step (List Frame)
  | [], s => .ok ([], s)
  | f :: fs, s =>
    match skipGap s with
    | [] => faultAt f.endInside []
    | c :: cs =>
      if c = ',' ∧ afterValue then .ok (f :: fs, cs)
      else if c = f.closer then closeFrames true fs cs
      else if afterValue then faultOn f.expected (c :: cs)
      else .ok (f :: fs, c :: cs)

def skipKey (s : List Char) : Except Fault (List Char) :=
  match skipGap s with
  | [] => faultAt .endInObject []
  | c :: cs =>
    if c ≠ '"' then faultOn .keyNotText (c :: cs)
    else match skipTextFrom 0 cs with
      | .error e => .error e
      | .ok rest => match skipGap rest with
        | [] => faultAt .endInObject []
        | d :: ds => if d = ':' then .ok ds else faultOn .expectedColon (d :: ds)

/-- Passes over a value that holds no other, or over the opening of one that does. Gives the frame
that was opened, if any. -/
def skipStart (s : List Char) : Step (Option Frame) :=
  match skipGap s with
  | [] => faultAt .endInValue []
  | c :: cs =>
    if c = 'n' then (word "ull".toList cs).map (none, ·)
    else if c = 't' then (word "rue".toList cs).map (none, ·)
    else if c = 'f' then (word "alse".toList cs).map (none, ·)
    else if c = '-' then (skipNumeral cs).map (none, ·)
    else if Text.isDigit c then (skipNumeral (c :: cs)).map (none, ·)
    else if c = '"' then (skipTextFrom 0 cs).map (none, ·)
    else if c = '[' then .ok (some .list, cs)
    else if c = '\x7b' then .ok (some .object, cs)
    else faultOn .expectedValue (c :: cs)

/-- Passes over a value inside open frames and on until all of them are closed. -/
def skipIn : Nat → List Frame → List Char → Except Fault (List Char)
  | 0, _, s => faultAt .endInValue s
  | fuel + 1, frames, s =>
    match skipStart s with
    | .error e => .error e
    | .ok (opened, rest) =>
      match closeFrames opened.isNone (opened.toList ++ frames) rest with
      | .error e => .error e
      | .ok ([], rest) => .ok rest
      | .ok (.list :: fs, rest) => skipIn fuel (.list :: fs) rest
      | .ok (.object :: fs, rest) =>
        match skipKey rest with
        | .error e => .error e
        | .ok rest => skipIn fuel (.object :: fs) rest

def skipValue (s : List Char) : Except Fault (List Char) :=
  skipIn (s.length + 1) [] s

end UserRegistry.Json
