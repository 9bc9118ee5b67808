import Mathlib.Data.List.Induction
import UserRegistry.Number.Decimal

/-!
# Reading back written numbers

The digits of a number write that number (`value_ofNat`), and no other: nothing but digits is
written, and no zero stands before them unless it is the whole number. A reader that takes digits
as far as they go therefore finds exactly the number that was written, whatever follows it that is
no digit.
-/

namespace UserRegistry.Decimal

theorem valueFrom_cons (n : Nat) (c : Char) (cs : List Char) :
    valueFrom n (c :: cs) = valueFrom (10 * n + digitValue c) cs :=
  Eq.refl _

theorem valueFrom_eq (cs : List Char) (acc : Nat) :
    valueFrom acc cs = Nat.ofDigitChars 10 cs acc := by
  induction cs generalizing acc with
  | nil => rfl
  | cons c cs ih =>
    have hzero : '0'.toNat = 48 := rfl
    rw [Nat.ofDigitChars_cons, hzero, valueFrom_cons]
    exact ih _

/-- Written digits are worth what was written. -/
theorem value_ofNat (n : Nat) : value (ofNat n) = n := by
  rw [value, valueFrom_eq, ofNat, Nat.ofDigitChars_ten_toDigits]

theorem isDigit_of_mem_ofNat {n : Nat} {c : Char} (h : c ∈ ofNat n) : Text.isDigit c = true := by
  have hc := Nat.isDigit_of_mem_toDigits (by decide) (by decide) h
  simpa [Char.isDigit, Text.isDigit, Char.le_def] using hc

theorem ofNat_ne_nil (n : Nat) : ofNat n ≠ [] := Nat.toDigits_ne_nil

/-- Only zero starts with a zero. -/
theorem head?_ofNat {n : Nat} (h : 0 < n) : (ofNat n).head? ≠ some '0' := by
  induction n using Nat.base_induction 10 (by decide) with
  | single m hm =>
    rw [ofNat, Nat.toDigits_of_lt_base hm]
    simpa using Nat.ne_of_gt h
  | digit m k hk hm ih =>
    obtain ⟨c, cs, hc⟩ := List.exists_cons_of_ne_nil (ofNat_ne_nil m)
    have ihm := ih hm
    rw [ofNat, ← Nat.toDigits_append_toDigits (by decide) hm hk, ← ofNat]
    rw [hc] at ihm ⊢
    exact ihm

theorem ofNat_zero : ofNat 0 = ['0'] := Nat.toDigits_zero 10

theorem digitChar_digitValue {c : Char} (h : Text.isDigit c = true) :
    digitValue c < 10 ∧ Nat.digitChar (digitValue c) = c := by
  have hchar : ∀ n < 10, Nat.digitChar n = Char.ofNat (n + 48) := by decide
  simp only [Text.isDigit, Bool.and_eq_true, decide_eq_true_eq, Char.le_def,
    UInt32.le_iff_toNat_le] at h
  have hzero : '0'.val.toNat = 48 := rfl
  have hnine : '9'.val.toNat = 57 := rfl
  have hval : c.val.toNat = c.toNat := rfl
  have hlt : digitValue c < 10 := by
    rw [digitValue]
    omega
  have hsum : digitValue c + 48 = c.toNat := by
    rw [digitValue]
    omega
  exact ⟨hlt, by rw [hchar _ hlt, hsum, Char.ofNat_toNat]⟩

theorem value_concat (ds : List Char) (c : Char) :
    value (ds ++ [c]) = 10 * value ds + digitValue c := by
  have h (n : Nat) : valueFrom n (ds ++ [c]) = 10 * valueFrom n ds + digitValue c := by
    induction ds generalizing n with
    | nil => rfl
    | cons d ds ih => exact ih _
  exact h 0

/-- Digits are what the number that they write is written as, if no zero stands before others. -/
theorem ofNat_value {ds : List Char} (hne : ds ≠ []) (hds : ∀ c ∈ ds, Text.isDigit c = true)
    (hzero : ds.head? = some '0' → ds = ['0']) : ofNat (value ds) = ds := by
  induction ds using List.reverseRecOn with
  | nil => exact absurd rfl hne
  | append_singleton ds c ih =>
    obtain ⟨hlt, hchar⟩ := digitChar_digitValue (hds c (by simp))
    have hlast : ofNat (digitValue c) = [c] := by rw [ofNat, Nat.toDigits_of_lt_base hlt, hchar]
    cases ds with
    | nil =>
      rw [value_concat, show value [] = 0 from rfl, Nat.mul_zero, Nat.zero_add, hlast]
      rfl
    | cons d ds =>
      have hd : d ≠ '0' := by
        rintro rfl
        have hone := congrArg List.length (hzero rfl)
        simp at hone
      have hwritten : ofNat (value (d :: ds)) = d :: ds :=
        ih (by simp) (fun e he => hds e (List.mem_append_left [c] he)) (by simp [hd])
      have hpos : 0 < value (d :: ds) := by
        refine Nat.pos_of_ne_zero fun h => hd ?_
        rw [h, ofNat_zero] at hwritten
        exact (List.cons.inj hwritten).1.symm
      have happend := Nat.toDigits_append_toDigits (b := 10) (by decide) hpos hlt
      rw [value_concat, ofNat, ← happend]
      exact congrArg₂ (· ++ ·) hwritten hlast

/-- A text does not start with a digit. -/
def NoDigit (s : List Char) : Prop :=
  ∀ c cs, s = c :: cs → Text.isDigit c = false

theorem digits_eq_nil {s : List Char} (h : NoDigit s) : digits s = [] ∧ afterDigits s = s := by
  cases s with
  | nil => exact ⟨rfl, rfl⟩
  | cons c cs => simp [digits, afterDigits, h c cs rfl]

/-- Digits are taken as far as they go. -/
theorem digits_append {ds rest : List Char} (hds : ∀ c ∈ ds, Text.isDigit c = true)
    (h : NoDigit rest) : digits (ds ++ rest) = ds ∧ afterDigits (ds ++ rest) = rest := by
  obtain ⟨hrest, hafter⟩ := digits_eq_nil h
  unfold digits afterDigits at *
  rw [List.takeWhile_append_of_pos hds, List.dropWhile_append_of_pos hds, hrest, hafter,
    List.append_nil]
  exact ⟨rfl, rfl⟩

theorem digits_ofNat_append (n : Nat) {rest : List Char} (h : NoDigit rest) :
    digits (ofNat n ++ rest) = ofNat n ∧ afterDigits (ofNat n ++ rest) = rest :=
  digits_append (fun _ hc => isDigit_of_mem_ofNat hc) h

theorem fit?_toInt (i : Int64) : fit? i.toInt = some i := by
  have hle := i.le_toInt
  have hlt := i.toInt_lt
  rw [fit?, if_pos (by omega), Int64.ofInt_toInt]

/-- What fits is not changed. -/
theorem toInt_of_fit? {i : Int} {j : Int64} (h : fit? i = some j) : j.toInt = i := by
  unfold fit? at h
  split at h
  · obtain rfl := Option.some.inj h
    exact Int64.toInt_ofInt_of_le (by omega) (by omega)
  · cases h

theorem nat?_ofNat (n : Nat) : nat? (ofNat n) = some n := by
  have hall : (ofNat n).all Text.isDigit = true :=
    List.all_eq_true.2 fun c hc => isDigit_of_mem_ofNat hc
  have hempty : (ofNat n).isEmpty = false := by simp [ofNat_ne_nil]
  rw [nat?, hall, hempty, value_ofNat]
  rfl

theorem ofNat_ne_cons {n : Nat} {c : Char} (hc : Text.isDigit c = false) (cs : List Char) :
    ofNat n ≠ c :: cs := by
  intro h
  have hdigit : Text.isDigit c = true := isDigit_of_mem_ofNat (by rw [h]; simp)
  rw [hc] at hdigit
  cases hdigit

theorem mem_ofInt {i : Int} {c : Char} (h : c ∈ ofInt i) : c = '-' ∨ Text.isDigit c = true := by
  rw [ofInt] at h
  split at h
  · exact (List.mem_cons.1 h).imp id isDigit_of_mem_ofNat
  · exact .inr (isDigit_of_mem_ofNat h)

/-- A written integer is read back if it fits. -/
theorem int64?_ofInt (i : Int) : int64? (ofInt i) = fit? i := by
  rw [ofInt]
  split
  · have hi : -(i.natAbs : Int) = i := by omega
    simp only [int64?, nat?_ofNat, Option.bind_some, hi]
  · have hi : (i.natAbs : Int) = i := by omega
    unfold int64?
    split
    · exact absurd ‹_› (ofNat_ne_cons (by decide) _)
    · exact absurd ‹_› (ofNat_ne_cons (by decide) _)
    · rw [nat?_ofNat, Option.bind_some, hi]

end UserRegistry.Decimal
