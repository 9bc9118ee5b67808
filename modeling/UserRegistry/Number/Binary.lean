import UserRegistry.Number.Decimal

/-!
# Binary floating point

Numbers of double precision, as 53 binary digits and a power of two. `ofRatio` gives the number
nearest to a quotient, a half going to the even neighbour; all arithmetic is exact up to that one
rounding. `nearest` reads decimal digits, `toInt64` rounds to a whole number.
-/

namespace UserRegistry

/-- A number of double precision. A finite one is `mantissa * 2 ^ exponent` with its sign. -/
inductive Binary where
  | nan
  | infinite (negative : Bool)
  | finite (negative : Bool) (mantissa : Nat) (exponent : Int)
deriving DecidableEq, Repr

namespace Binary

open UserRegistry.Decimal (pow10)

def pow2 (n : Nat) : Nat :=
  Nat.pow 2 n

def leastExponent : Int := -1074

def greatestExponent : Int := 971

def zero (negative : Bool) : Binary := finite negative 0 leastExponent

def isZero : Binary → Bool
  | finite _ m _ => m == 0
  | _ => false

def negated : Binary → Binary
  | nan => nan
  | infinite s => infinite (!s)
  | finite s m e => finite (!s) m e

/-- A quotient rounded to a whole number, a half going to the even neighbour. -/
def roundEven (n d : Nat) : Nat :=
  let q := n / d
  let twice := 2 * (n % d)
  if twice < d ∨ (twice = d ∧ q % 2 = 0) then q else q + 1

/-- Numerator and denominator of `n / d` counted in units of `2 ^ e`. -/
def inUnits (n d : Nat) (e : Int) : Nat × Nat :=
  if 0 ≤ e then (n, d * pow2 e.toNat) else (n * pow2 (-e).toNat, d)

/-- A count of units with its sign, which is infinite where the units are too great. -/
def ofUnits (negative : Bool) (m : Nat) (e : Int) : Binary :=
  let (m, e) := if m = pow2 53 then (pow2 52, e + 1) else (m, e)
  if greatestExponent < e then infinite negative else finite negative m e

/-- The number nearest to `n / d`, for `d` not zero. Units are chosen such that at most 53 binary
digits count them. -/
def ofRatio (negative : Bool) (n d : Nat) : Binary :=
  if n = 0 then zero negative
  else
    let least := max leastExponent ((n.log2 : Int) - d.log2 - 53)
    let (a, b) := inUnits n d least
    let e := if pow2 53 ≤ a / b then least + 1 else least
    let (a, b) := inUnits n d e
    ofUnits negative (roundEven a b) e

/-- The number nearest to `n * 2 ^ e / d`. -/
def ofScaledRatio (negative : Bool) (n d : Nat) (e : Int) : Binary :=
  if 0 ≤ e then ofRatio negative (n * pow2 e.toNat) d else ofRatio negative n (d * pow2 (-e).toNat)

def ofNat (n : Nat) : Binary :=
  ofRatio false n 1

def times : Binary → Binary → Binary
  | finite s m e, finite t n f => ofScaledRatio (s != t) (m * n) 1 (e + f)
  | finite s m _, infinite t | infinite s, finite t m _ =>
    if m = 0 then nan else infinite (s != t)
  | infinite s, infinite t => infinite (s != t)
  | nan, _ | _, nan => nan

def dividedBy : Binary → Binary → Binary
  | finite s m e, finite t n f =>
    if n = 0 then (if m = 0 then nan else infinite (s != t))
    else ofScaledRatio (s != t) m n (e - f)
  | finite s _ _, infinite t => zero (s != t)
  | infinite s, finite t _ _ => infinite (s != t)
  | infinite _, infinite _ => nan
  | nan, _ | _, nan => nan

/-- The number nearest to `m * 10 ^ e`. Beyond the greatest number it is infinite. -/
def nearest (negative : Bool) (m : Nat) (e : Int) : Binary :=
  let size := e + (Decimal.ofNat m).length
  if m = 0 ∨ size < -340 then zero negative
  else if 320 < size then infinite negative
  else if 0 ≤ e then ofRatio negative (m * pow10 e.toNat) 1
  else ofRatio negative m (pow10 (-e).toNat)

/-- The nearest natural number to `m * 2 ^ e`, a half going up. -/
def roundUp (m : Nat) (e : Int) : Nat :=
  if 0 ≤ e then m * pow2 e.toNat else (2 * m + pow2 (-e).toNat) / pow2 ((-e).toNat + 1)

/-- An integer, or the nearest bound where it does not fit 64 bits. -/
def clamp (i : Int) : Int64 :=
  Int64.ofInt (max (-9223372036854775808) (min 9223372036854775807 i))

/-- The nearest whole number, a half going away from zero; beyond 64 bits the nearest bound, and
zero for what is no number. -/
def toInt64 : Binary → Int64
  | nan => 0
  | infinite negative => clamp (if negative then -9223372036854775808 else 9223372036854775807)
  | finite negative m e =>
    clamp (if negative then -(roundUp m e : Int) else roundUp m e)

end Binary

end UserRegistry
