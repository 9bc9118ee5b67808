import UserRegistry.Number.Binary

/-!
# Binary floating point in decimal

The fewest decimal digits that read back as a given number of double precision. A finite number is
`m * 2 ^ e`; the numbers that round to it form an interval around it, whose ends belong to it iff
`m` is even. `shortest` takes the coarsest decimal grid with a point in that interval, and there
the point nearest to the number. `text` writes the digits in a style.
-/

namespace UserRegistry.Binary

open UserRegistry.Decimal (pow10)

/-- Digits and a power of ten: `digits * 10 ^ exponent`. -/
structure Scaled where
  digits : Nat
  exponent : Int
deriving DecidableEq, Repr

/-- A closed or open interval of rationals with one denominator, and a point in it. -/
structure Interval where
  low : Nat
  mid : Nat
  high : Nat
  denominator : Nat
  closed : Bool
deriving Repr

/-- The interval of the reals that round to `m * 2 ^ e`. Below a power of two the numbers lie
twice as close. -/
def rounding (m : Nat) (e : Int) : Interval :=
  let low := if m = pow2 52 ∧ e > -1074 then 4 * m - 1 else 4 * m - 2
  if e ≥ 2 then
    let s := pow2 (e - 2).toNat
    ⟨low * s, 4 * m * s, (4 * m + 2) * s, 1, m % 2 = 0⟩
  else ⟨low, 4 * m, 4 * m + 2, pow2 (2 - e).toNat, m % 2 = 0⟩

/-- Whether `n / d` lies in the interval, where `d` scales the denominator by `by`. -/
def Interval.holds (r : Interval) (n scale : Nat) : Bool :=
  if r.closed then r.low * scale ≤ n && n ≤ r.high * scale
  else r.low * scale < n && n < r.high * scale

/-- The greatest `k ≤ limit` with `10 ^ k * denominator ≤ n`, searched downwards. -/
def leadingPower (n denominator : Nat) : Nat → Int
  | 0 => if denominator ≤ n then 0 else -1
  | k + 1 => if pow10 (k + 1) * denominator ≤ n then k + 1 else leadingPower n denominator k

/-- The power of ten of the leading digit of `n / denominator`, for a number above `10 ^ -400`. -/
def leading (n denominator : Nat) : Int :=
  leadingPower (n * pow10 400) denominator 800 - 400

/-- The point of the grid of `10 ^ p` in the interval that is nearest to its point, if any. -/
def onGrid (r : Interval) (p : Int) : Option Nat :=
  let up := if p < 0 then pow10 (-p).toNat else 1
  let unit := (if p < 0 then 1 else pow10 p.toNat) * r.denominator
  let below := r.mid * up / unit
  let hitsBelow := r.holds (below * unit) up
  let hitsAbove := r.holds ((below + 1) * unit) up
  if hitsBelow && hitsAbove then
    if 2 * (r.mid * up - below * unit) ≤ unit then some below else some (below + 1)
  else if hitsBelow then some below
  else if hitsAbove then some (below + 1)
  else none

/-- The first grid with a hit, from the one of the leading digit on to finer ones. -/
def firstHit (r : Interval) (p : Int) : Nat → Scaled
  | 0 => ⟨0, 0⟩
  | n + 1 =>
    match onGrid r p with
    | some d => ⟨d, p⟩
    | none => firstHit r (p - 1) n

def Scaled.stripped (s : Scaled) : Nat → Scaled
  | 0 => s
  | n + 1 => if s.digits ≠ 0 ∧ s.digits % 10 = 0 then
      Scaled.stripped ⟨s.digits / 10, s.exponent + 1⟩ n else s

/-- The fewest digits that read back as `m * 2 ^ e`, for `m` not zero. -/
def shortest (m : Nat) (e : Int) : Scaled :=
  let r := rounding m e
  (firstHit r (leading r.mid r.denominator) 20).stripped 20

/-- How a number of double precision is written. -/
structure Style where
  /-- Least power of ten of the leading digit that is written without an exponent. -/
  least : Int
  /-- Greatest such power. -/
  greatest : Int
  /-- What follows the digits of a whole number. -/
  wholeMark : String
deriving DecidableEq, Repr

/-- Digits without an exponent, with a point where it belongs. -/
def positional (s : Scaled) (wholeMark : String) : List Char :=
  let ds := Decimal.ofNat s.digits
  if 0 ≤ s.exponent then
    ds ++ List.replicate s.exponent.toNat '0' ++ wholeMark.toList
  else
    let places := (-s.exponent).toNat
    if places < ds.length then
      ds.take (ds.length - places) ++ '.' :: ds.drop (ds.length - places)
    else '0' :: '.' :: List.replicate (places - ds.length) '0' ++ ds

/-- Digits with an exponent that has a sign and at least two digits. -/
def scientific (s : Scaled) : List Char :=
  let ds := Decimal.ofNat s.digits
  let power := s.exponent + ds.length - 1
  let fraction := ds.drop 1
  ds.take 1 ++ (if fraction.isEmpty then [] else '.' :: fraction) ++
    ['e', if power < 0 then '-' else '+'] ++ Decimal.padded 2 power.natAbs

def text (style : Style) : Binary → String
  | .nan => "NaN"
  | .infinite negative => if negative then "-inf" else "inf"
  | .finite negative m e =>
    let body :=
      if m = 0 then '0' :: style.wholeMark.toList
      else
        let s := shortest m e
        let power := s.exponent + (Decimal.ofNat s.digits).length - 1
        if style.least ≤ power ∧ power ≤ style.greatest then positional s style.wholeMark
        else scientific s
    String.ofList (if negative then '-' :: body else body)

/-- Without an exponent at any size, a whole number without a point. -/
def Style.plain : Style := ⟨-400, 400, ""⟩

/-- Without an exponent at any size, a whole number with one place. -/
def Style.pointed : Style := ⟨-400, 400, ".0"⟩

/-- Without an exponent up to sixteen digits before the point and five zeros after it. -/
def Style.compact : Style := ⟨-5, 15, ".0"⟩

end UserRegistry.Binary
