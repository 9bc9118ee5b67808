import UserRegistry.Number.Binary

/-!
# Whole numbers beyond 64 bits

A whole number that does not fit 64 bits can be read as floating point only. Rounded to 53 binary
digits it is still beyond 64 bits, on the same side, so as an integer of 64 bits it becomes the
bound of that side: `toInt64_nearest`.
-/

namespace UserRegistry.Binary

theorem toInt_clamp (i : Int) : (clamp i).toInt =
    max (-9223372036854775808) (min 9223372036854775807 i) := by
  unfold clamp
  exact Int64.toInt_ofInt_of_le (by omega) (by omega)

/-- A number of a sign that is no less in size than a bound. -/
def AtLeast (negative : Bool) (bound : Nat) : Binary → Prop
  | nan => False
  | infinite s => s = negative
  | finite s m e => s = negative ∧ bound ≤ roundUp m e

variable {negative : Bool} {n bound : Nat}

theorem pow2_succ (k : Nat) : pow2 (k + 1) = 2 * pow2 k := Nat.pow_succ'

theorem div_le_roundEven (n d : Nat) : n / d ≤ roundEven n d := by
  unfold roundEven
  simp only
  split
  · exact Nat.le_refl _
  · exact Nat.le_succ _

theorem roundUp_of_nonneg {e : Int} (he : 0 ≤ e) (m : Nat) : roundUp m e = m * pow2 e.toNat :=
  if_pos he

/-- A carry into another binary digit does not change a count of whole units. -/
theorem atLeast_ofUnits {m : Nat} {e : Int} (he : 0 ≤ e) (h : bound ≤ m * pow2 e.toNat) :
    (ofUnits negative m e).AtLeast negative bound := by
  have hfinish : ∀ (m : Nat) (e : Int), 0 ≤ e → bound ≤ m * pow2 e.toNat →
      AtLeast negative bound
        (if greatestExponent < e then infinite negative else finite negative m e) := by
    intro m e he h
    split
    · exact rfl
    · exact ⟨rfl, by rwa [roundUp_of_nonneg he]⟩
  unfold ofUnits
  by_cases hm : m = pow2 53
  · have hcarry : pow2 53 * pow2 e.toNat = pow2 52 * pow2 (e + 1).toNat := by
      have hsucc : (e + 1).toNat = e.toNat + 1 := by omega
      rw [hsucc, pow2_succ e.toNat, show pow2 53 = 2 * pow2 52 from pow2_succ 52, Nat.mul_assoc,
        Nat.mul_left_comm]
    rw [if_pos hm]
    exact hfinish _ _ (by omega) (by rwa [← hcarry, ← hm])
  · rw [if_neg hm]
    exact hfinish m e he h

/-- Counted in whole units of a power of two, a number does not fall below another such power. -/
theorem pow2_le_div_mul {k j : Nat} (hk : pow2 k ≤ n) (hj : pow2 j ≤ n) :
    pow2 k ≤ n / pow2 j * pow2 j := by
  have hpos : 0 < pow2 j := Nat.pow_pos (by decide)
  by_cases hjk : j ≤ k
  · have hdvd : pow2 k / pow2 j * pow2 j = pow2 k := Nat.div_mul_cancel (Nat.pow_dvd_pow 2 hjk)
    rw [← hdvd]
    exact Nat.mul_le_mul_right _ (Nat.div_le_div_right hk)
  · calc pow2 k ≤ pow2 j := Nat.pow_le_pow_right (by decide) (by omega)
      _ = 1 * pow2 j := (Nat.one_mul _).symm
      _ ≤ n / pow2 j * pow2 j :=
        Nat.mul_le_mul_right _ ((Nat.le_div_iff_mul_le hpos).2 (by rwa [Nat.one_mul]))

/-- Rounding to 53 binary digits does not take a number below a power of two. -/
theorem atLeast_ofRatio (h : pow2 63 ≤ n) :
    (ofRatio negative n 1).AtLeast negative (pow2 63) := by
  have hn : n ≠ 0 := by
    rintro rfl
    exact absurd h (by decide)
  have hlog : 63 ≤ n.log2 := (Nat.le_log2 hn).2 h
  have hone : Nat.log2 1 = 0 := by decide
  -- The units are one of two sizes, and neither is greater than the number.
  have hunits : ∀ e : Int, 0 ≤ e → e ≤ n.log2 →
      AtLeast negative (pow2 63) (ofUnits negative
        (roundEven (inUnits n 1 e).1 (inUnits n 1 e).2) e) := by
    intro e he hle
    have hpow : pow2 e.toNat ≤ n := Nat.le_trans
      (Nat.pow_le_pow_right (by decide) (by omega)) (Nat.log2_self_le hn)
    rw [inUnits, if_pos he, Nat.one_mul]
    exact atLeast_ofUnits he (Nat.le_trans (pow2_le_div_mul h hpow)
      (Nat.mul_le_mul_right _ (div_le_roundEven n _)))
  have hleast : max leastExponent ((n.log2 : Int) - (Nat.log2 1 : Nat) - 53) = n.log2 - 53 := by
    rw [hone, leastExponent]
    omega
  unfold ofRatio
  rw [if_neg hn]
  simp only [hleast]
  split
  · exact hunits _ (by omega) (by omega)
  · exact hunits _ (by omega) (by omega)

/-- Two numbers beyond 64 bits on one side have the same bound. -/
theorem toInt64_of_atLeast {x : Binary} (hx : x.AtLeast negative (pow2 63)) (h : pow2 63 ≤ n) :
    x.toInt64 = clamp (if negative then -(n : Int) else n) := by
  have hpow : pow2 63 = 9223372036854775808 := by decide
  rw [hpow] at h hx
  cases x with
  | nan => cases hx
  | infinite s =>
    obtain rfl : s = negative := hx
    cases s <;> simp only [toInt64, clamp, Bool.false_eq_true, if_false, if_true] <;> congr 1 <;>
      omega
  | finite s m e =>
    obtain ⟨rfl, hle⟩ := hx
    cases s <;> simp only [toInt64, clamp, Bool.false_eq_true, if_false, if_true] <;> congr 1 <;>
      omega

/-- **A whole number beyond 64 bits, read as floating point, is the bound of its side.** -/
theorem toInt64_nearest (h : pow2 63 ≤ n) :
    (nearest negative n 0).toInt64 = clamp (if negative then -(n : Int) else n) := by
  have hn : n ≠ 0 := by
    rintro rfl
    exact absurd h (by decide)
  refine toInt64_of_atLeast ?_ h
  unfold nearest
  simp only
  rw [if_neg (by omega)]
  split
  · exact rfl
  · have hone : n * Decimal.pow10 (0 : Int).toNat = n := Nat.mul_one n
    rw [if_pos (by omega), hone]
    exact atLeast_ofRatio h

end UserRegistry.Binary
