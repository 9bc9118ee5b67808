import Mathlib.Data.List.Basic
import UserRegistry.Json.Reader
import UserRegistry.Proofs.Number.Digits

/-!
# Reading back written integers

The digits of a number within 64 bits are counted exactly, so that a written integer is the one
that is read (`readInt64_written`), with anything behind it that a number does not go on with.
-/

namespace UserRegistry.Json

theorem le_valueFrom (n : Nat) (ds : List Char) : n ≤ Decimal.valueFrom n ds := by
  induction ds generalizing n with
  | nil => exact Nat.le_refl n
  | cons c ds ih =>
    have h := ih (10 * n + Decimal.digitValue c)
    rw [Decimal.valueFrom_cons]
    omega

/-- The digits of a number within the limit are all counted. -/
theorem significand_eq {ds : List Char} {n : Nat} (h : Decimal.valueFrom n ds ≤ significandLimit) :
    significand n ds = (Decimal.valueFrom n ds, 0) := by
  induction ds generalizing n with
  | nil => rfl
  | cons c ds ih =>
    rw [Decimal.valueFrom_cons] at h ⊢
    have hle := le_valueFrom (10 * n + Decimal.digitValue c) ds
    rw [← ih h, significand, if_neg (by omega)]

/-- A text that a number does not go on with. -/
def EndsNumber (s : List Char) : Prop :=
  ∀ c cs, s = c :: cs → Text.isDigit c = false ∧ c ≠ '.' ∧ c ≠ 'e' ∧ c ≠ 'E'

theorem EndsNumber.noDigit {s : List Char} (h : EndsNumber s) : Decimal.NoDigit s :=
  fun c cs e => (h c cs e).1

/-- Written digits are read as a numeral, told apart by its sign. -/
theorem numeral_written {n : Nat} {rest : List Char} (hrest : EndsNumber rest)
    (hn : n ≤ significandLimit) (negative : Bool) :
    numeral negative (Decimal.ofNat n ++ rest) =
      if !negative then .ok (.natural n, rest)
      else if n = 0 ∨ 9223372036854775808 < n then .ok (.float (Binary.ofNat n).negated, rest)
      else .ok (.negative n, rest) := by
  obtain ⟨hdigits, hafter⟩ := Decimal.digits_ofNat_append n hrest.noDigit
  obtain ⟨c, ds, hc⟩ := List.exists_cons_of_ne_nil (Decimal.ofNat_ne_nil n)
  have hdigit : Text.isDigit c = true := Decimal.isDigit_of_mem_ofNat (n := n) (by simp [hc])
  have hzero : ¬ (c = '0' ∧ ((ds ++ rest).head?.any Text.isDigit) = true) := by
    rintro ⟨rfl, hany⟩
    rcases Nat.eq_zero_or_pos n with rfl | hpos
    · rw [Decimal.ofNat_zero] at hc
      obtain rfl := (List.cons.inj hc).2
      cases rest with
      | nil => cases hany
      | cons d rest => simp [(hrest d rest rfl).1] at hany
    · exact Decimal.head?_ofNat hpos (by rw [hc]; rfl)
  have hsig : significand 0 (Decimal.ofNat n) = (n, 0) := by
    have hvalue : Decimal.valueFrom 0 (Decimal.ofNat n) = n := Decimal.value_ofNat n
    have h := significand_eq (hvalue.symm ▸ hn)
    rwa [hvalue] at h
  rw [hc, List.cons_append] at hdigits hafter ⊢
  rw [← hc] at hdigits
  simp only [numeral, hdigit, Bool.not_true, Bool.false_eq_true, if_false, if_neg hzero, hdigits,
    hsig, hafter]
  cases rest with
  | nil => simp
  | cons d rest =>
    obtain ⟨-, hpoint, he, hE⟩ := hrest d rest rfl
    split
    · rename_i h
      exact absurd (List.cons.inj h).1 hpoint
    · rename_i h
      exact absurd (List.cons.inj h).1 he
    · rename_i h
      exact absurd (List.cons.inj h).1 hE
    · simp

theorem skipGap_cons {c : Char} (h : isGap c = false) (s : List Char) :
    skipGap (c :: s) = c :: s := by
  rw [skipGap, List.dropWhile_cons_of_neg (by simp [h])]

theorem isGap_digit {c : Char} (h : Text.isDigit c = true) : isGap c = false ∧ c ≠ '-' := by
  constructor
  · cases hc : isGap c with
    | false => rfl
    | true =>
      simp only [isGap, Bool.or_eq_true, beq_iff_eq] at hc
      rcases hc with ((rfl | rfl) | rfl) | rfl <;> revert h <;> decide
  · rintro rfl
    exact absurd h (by decide)

/-- A written 64-bit integer is read back, at both ends of its range too. -/
theorem readInt64_written (i : Int64) {rest : List Char} (hrest : EndsNumber rest) :
    readInt64 ((Decimal.ofInt64 i).toList ++ rest) = .ok (i, rest) := by
  have hle := i.le_toInt
  have hlt := i.toInt_lt
  have hnat : (Decimal.ofInt64 i).toList = Decimal.ofInt i.toInt := String.toList_ofList
  rw [hnat, Decimal.ofInt]
  by_cases hsign : i.toInt < 0
  · have hneg : (-(i.toInt.natAbs : Int)) = i.toInt := by omega
    have hzero : ¬ (i.toInt.natAbs = 0 ∨ 9223372036854775808 < i.toInt.natAbs) := by omega
    rw [if_pos hsign, List.cons_append, readInt64, skipGap_cons (by decide)]
    simp only [if_true]
    rw [numeral_written hrest (by rw [significandLimit]; omega)]
    simp only [Bool.not_true, Bool.false_eq_true, if_false, if_neg hzero, Numeral.int64, hneg,
      Decimal.fit?_toInt]
  · have hpos : (i.toInt.natAbs : Int) = i.toInt := by omega
    have hread := numeral_written (n := i.toInt.natAbs) hrest
      (by rw [significandLimit]; omega) false
    obtain ⟨c, ds, hc⟩ := List.exists_cons_of_ne_nil (Decimal.ofNat_ne_nil i.toInt.natAbs)
    have hdigit : Text.isDigit c = true :=
      Decimal.isDigit_of_mem_ofNat (n := i.toInt.natAbs) (by simp [hc])
    obtain ⟨hgap, hminus⟩ := isGap_digit hdigit
    rw [if_neg hsign]
    rw [hc, List.cons_append] at hread ⊢
    rw [readInt64, skipGap_cons hgap]
    simp only [if_neg hminus, hdigit, if_true, hread, Bool.not_false, Numeral.int64, hpos,
      Decimal.fit?_toInt]

end UserRegistry.Json
