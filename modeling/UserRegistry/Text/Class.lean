import UserRegistry.Text.LetterTable

/-!
# Letters and numbers

`isLetterOrNumber` holds of the letters and numbers of every script; the two ASCII classes that
names are made of stand beside it.
-/

namespace UserRegistry.Text

def inRanges (ranges : List (Nat × Nat)) (n : Nat) : Bool :=
  ranges.any fun r => r.1 ≤ n && n ≤ r.2

def isDigit (c : Char) : Bool :=
  '0' ≤ c && c ≤ '9'

def isAsciiLetter (c : Char) : Bool :=
  ('a' ≤ c && c ≤ 'z') || ('A' ≤ c && c ≤ 'Z')

def isAsciiLetterOrDigit (c : Char) : Bool :=
  isAsciiLetter c || isDigit c

/-- A letter or number of any script. -/
def isLetterOrNumber (c : Char) : Bool :=
  isAsciiLetterOrDigit c || inRanges letterRanges c.toNat

/-- The value of a hexadecimal digit in either case. -/
def hexValue? (c : Char) : Option Nat :=
  if isDigit c then some (c.toNat - 48)
  else if 'a' ≤ c && c ≤ 'f' then some (c.toNat - 87)
  else if 'A' ≤ c && c ≤ 'F' then some (c.toNat - 55)
  else none

/-- The hexadecimal digits of a number, in lower case and without leading zeros. -/
def hexDigits (n : Nat) : List Char :=
  Nat.toDigits 16 n

end UserRegistry.Text
