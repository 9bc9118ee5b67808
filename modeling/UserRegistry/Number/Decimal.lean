import UserRegistry.Text.Class

/-!
# Whole numbers in decimal

Writing an integer in decimal and reading one back. Numbers of a fixed width of 64 bits are read
exactly or not at all: `int64?` refuses what does not fit.
-/

namespace UserRegistry.Decimal

open UserRegistry.Text

def pow10 (n : Nat) : Nat :=
  Nat.pow 10 n

/-- A natural number in decimal, without leading zeros. -/
def ofNat (n : Nat) : List Char :=
  Nat.toDigits 10 n

/-- An integer in decimal; only a negative one has a sign. -/
def ofInt (i : Int) : List Char :=
  if i < 0 then '-' :: ofNat i.natAbs else ofNat i.natAbs

def ofInt64 (i : Int64) : String :=
  String.ofList (ofInt i.toInt)

def digitValue (c : Char) : Nat :=
  c.toNat - 48

/-- The number that digits write after the digits of `acc`. -/
def valueFrom (acc : Nat) : List Char → Nat
  | [] => acc
  | c :: cs => valueFrom (10 * acc + digitValue c) cs

def value (cs : List Char) : Nat :=
  valueFrom 0 cs

def digits (cs : List Char) : List Char :=
  cs.takeWhile isDigit

def afterDigits (cs : List Char) : List Char :=
  cs.dropWhile isDigit

/-- A natural number: at least one digit and nothing else. -/
def nat? (cs : List Char) : Option Nat :=
  if cs.isEmpty || !cs.all isDigit then none else some (value cs)

def fit? (i : Int) : Option Int64 :=
  if -9223372036854775808 ≤ i ∧ i ≤ 9223372036854775807 then some (Int64.ofInt i) else none

/-- A 64-bit integer with an optional sign of either kind; leading zeros are allowed. -/
def int64? (cs : List Char) : Option Int64 :=
  match cs with
  | '-' :: ds => (nat? ds).bind fun n => fit? (-(n : Int))
  | '+' :: ds => (nat? ds).bind fun n => fit? n
  | ds => (nat? ds).bind fun n => fit? n

/-- A natural number, padded with zeros to a width. -/
def padded (width n : Nat) : List Char :=
  let ds := ofNat n
  List.replicate (width - ds.length) '0' ++ ds

end UserRegistry.Decimal
