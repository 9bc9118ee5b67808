import UserRegistry.Text.Class
import UserRegistry.Text.LowercaseTable

/-!
# Lower case

`lowercase` maps every character of a text to its lower case. Two characters need more than a
one-to-one table: the capital I with a dot becomes two characters, and a capital sigma becomes
the final form at the end of a word.
-/

namespace UserRegistry.Text

def isAsciiCapital (c : Char) : Bool :=
  'A' ≤ c && c ≤ 'Z'

/-- The lower case of a character that has one outside ASCII, by the runs of the table. -/
def lowercaseRun? (n : Nat) : Option Nat :=
  match lowercaseRuns.find? fun r => r.1 ≤ n && n ≤ r.2.1 && (n - r.1) % r.2.2.1 == 0 with
  | some r => some (r.2.2.2 + (n - r.1))
  | none => none

/-- The lower case of a character that stands alone. -/
def lowercaseChar (c : Char) : List Char :=
  if c.toNat < 0x80 then
    [if isAsciiCapital c then Char.ofNat (c.toNat + 32) else c]
  else if c.toNat = 0x130 then ['i', Char.ofNat 0x307]
  else match lowercaseRun? c.toNat with
    | some n => [Char.ofNat n]
    | none => [c]

def isCased (c : Char) : Bool :=
  isAsciiLetter c || inRanges casedRanges c.toNat

/-- A character that is passed over when looking for a neighbour with case. -/
def isCaseIgnorable (c : Char) : Bool :=
  ['\'', '.', ':', '^', Char.ofNat 0x60].contains c || inRanges caseIgnorableRanges c.toNat

/-- Whether the first character that is not passed over has case. -/
def startsCased (cs : List Char) : Bool :=
  match cs.dropWhile isCaseIgnorable with
  | [] => false
  | c :: _ => isCased c

/-- The lower case of what follows the characters of `before`, which are given last first. A
sigma after a cased character, with none following, ends a word. -/
def lowercaseFrom (before : List Char) : List Char → List Char
  | [] => []
  | c :: cs =>
    let mapped :=
      if c.toNat = 0x3a3 then
        [Char.ofNat (if startsCased before && !startsCased cs then 0x3c2 else 0x3c3)]
      else lowercaseChar c
    mapped ++ lowercaseFrom (c :: before) cs

def lowercase (s : String) : String :=
  String.ofList (lowercaseFrom [] s.toList)

/-- The lower case of a text whose letters are of ASCII, where other characters stay. -/
def asciiLowercase (s : String) : String :=
  s.map fun c => if isAsciiCapital c then Char.ofNat (c.toNat + 32) else c

end UserRegistry.Text
