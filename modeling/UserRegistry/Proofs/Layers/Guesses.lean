import UserRegistry.Layers.Decode
import UserRegistry.Layers.Overrides
import UserRegistry.Proofs.Number.Digits
import UserRegistry.Proofs.Number.Rounding
import UserRegistry.Proofs.Text.Ascii

/-!
# What the text of a variable stands for

The text of a variable is first taken for a truth value or a number if it can be read as one, and
then for what the field holds. A field that holds a text is thus given the normal form of the
guess, `shown`, which need not be the text of the variable. An integer in decimal is guessed right
at any size, but beyond 64 bits as floating point, so that a field that holds an integer is given
the nearest bound (`int64?_scalar_ofInt`).
-/

namespace UserRegistry.Layers.Overrides

open UserRegistry.Text

/-- The text that is given to a field for the text of its variable: the word of a truth value, a
number in its normal form, and any other text as it is. -/
def shown (value : String) : String :=
  match scalar value with
  | .flag b => Json.flagWord b
  | .int i => Decimal.ofInt64 i
  | .float x => x.text .plain
  | _ => value

/-- Whatever the guess, a field that holds a text is given one. -/
theorem text?_scalar (value : String) : Tree.text? (scalar value) = some (shown value) := by
  unfold shown scalar
  simp only
  split
  · rfl
  · split
    · rfl
    · split <;> rfl

/-- A text that reads neither as a truth value nor as a number is given as it is. -/
theorem shown_eq_self {value : String} (htrue : lowercase value ≠ "true")
    (hfalse : lowercase value ≠ "false") (hint : Decimal.int64? value.toList = none)
    (hfloat : float? value.toList = none) : shown value = value := by
  unfold shown scalar
  simp only [if_neg htrue, if_neg hfalse, hint, hfloat]

theorem unsignedFloat?_ofNat (negative : Bool) (n : Nat) :
    unsignedFloat? negative (Decimal.ofNat n) = some (Binary.nearest negative n 0) := by
  have hend : Decimal.NoDigit [] := by
    intro c cs h
    cases h
  obtain ⟨hdigits, hafter⟩ := Decimal.digits_ofNat_append n hend
  rw [List.append_nil] at hdigits hafter
  have hempty : (Decimal.ofNat n).isEmpty = false := by simp [Decimal.ofNat_ne_nil]
  unfold unsignedFloat?
  simp only [hdigits, hafter, hempty, Bool.false_and, Bool.false_eq_true, if_false, Option.map_some,
    List.append_nil, Decimal.value_ofNat]
  rfl

theorem asciiLowercase_ofNat_ne (n : Nat) {w : String} (hw : 'n' ∈ w.toList) :
    asciiLowercase (String.ofList (Decimal.ofNat n)) ≠ w := by
  have hlower : Lower (String.ofList (Decimal.ofNat n)).toList := by
    rw [String.toList_ofList]
    exact lower_of_digits fun c hc => Decimal.isDigit_of_mem_ofNat hc
  rintro rfl
  rw [asciiLowercase_of_lower hlower, String.toList_ofList] at hw
  exact absurd (Decimal.isDigit_of_mem_ofNat hw) (by decide)

theorem float?_ofInt (i : Int) :
    float? (Decimal.ofInt i) = some (Binary.nearest (decide (i < 0)) i.natAbs 0) := by
  have hinf := asciiLowercase_ofNat_ne i.natAbs (w := "inf") (by decide)
  have hinfinity := asciiLowercase_ofNat_ne i.natAbs (w := "infinity") (by decide)
  have hnan := asciiLowercase_ofNat_ne i.natAbs (w := "nan") (by decide)
  rw [Decimal.ofInt]
  split
  · rename_i h
    simp only [float?, hinf, hinfinity, hnan, or_self, if_false, unsignedFloat?_ofNat, h,
      decide_true]
  · rename_i h
    unfold float?
    split
    rename_i heq
    -- Digits do not start with a sign.
    split at heq
    · exact absurd ‹_› (Decimal.ofNat_ne_cons (by decide) _)
    · exact absurd ‹_› (Decimal.ofNat_ne_cons (by decide) _)
    · obtain ⟨rfl, rfl⟩ := Prod.mk.inj heq
      simp only [hinf, hinfinity, hnan, or_self, if_false, unsignedFloat?_ofNat, h, decide_false]

/-- An integer in decimal is in lower case. -/
theorem lowercase_ofInt (i : Int) :
    lowercase (String.ofList (Decimal.ofInt i)) = String.ofList (Decimal.ofInt i) := by
  refine lowercase_of_lower fun c hc => ?_
  rw [String.toList_ofList] at hc
  rcases Decimal.mem_ofInt hc with rfl | hdigit
  · decide
  · have hone : ∀ d ∈ [c], isDigit d = true := by simpa
    exact lower_of_digits hone c (by simp)

/-- An integer in decimal is no word with a letter. -/
theorem ofInt_ne_word {i : Int} {w : String}
    (hw : w.toList.any (fun c => c != '-' && !isDigit c) = true) :
    String.ofList (Decimal.ofInt i) ≠ w := by
  rintro rfl
  obtain ⟨c, hc, hletter⟩ := List.any_eq_true.1 hw
  rw [String.toList_ofList] at hc
  rcases Decimal.mem_ofInt hc with rfl | hdigit
  · cases hletter
  · simp [hdigit] at hletter

/-- An integer in decimal is guessed as an integer if it fits 64 bits, and else as the nearest
floating-point number. -/
theorem scalar_ofInt (i : Int) : scalar (String.ofList (Decimal.ofInt i)) =
    match Decimal.fit? i with
    | some j => .int j
    | none => .float (Binary.nearest (decide (i < 0)) i.natAbs 0) := by
  unfold scalar
  simp only [lowercase_ofInt, String.toList_ofList, Decimal.int64?_ofInt, float?_ofInt]
  rw [if_neg (ofInt_ne_word (by decide)), if_neg (ofInt_ne_word (by decide))]
  cases Decimal.fit? i <;> rfl

/-- A field that holds an integer takes a text in decimal for the integer, if it fits 64 bits. -/
theorem int64?_text_ofInt (i : Int) :
    Tree.int64? (.text (String.ofList (Decimal.ofInt i))) = Decimal.fit? i := by
  have hno (words : List String)
      (h : ∀ w ∈ words, w.toList.any (fun c => c != '-' && !isDigit c) = true) :
      words.contains (String.ofList (Decimal.ofInt i)) = false := by
    rw [List.contains_eq_mem]
    exact decide_eq_false fun hmem => ofInt_ne_word (h _ hmem) rfl
  have htrue := hno ["true", "on", "yes"] (by decide)
  have hfalse := hno ["false", "off", "no"] (by decide)
  simp only [Tree.int64?, lowercase_ofInt, String.toList_ofList, Decimal.int64?_ofInt, htrue,
    hfalse, Bool.false_eq_true, if_false]

/-- **An integer in decimal is taken for the integer, or for the nearest bound of 64 bits.** -/
theorem int64?_scalar_ofInt (i : Int) :
    Tree.int64? (scalar (String.ofList (Decimal.ofInt i))) = some (Binary.clamp i) := by
  rw [scalar_ofInt]
  by_cases h : -9223372036854775808 ≤ i ∧ i ≤ 9223372036854775807
  · have hclamp : Binary.clamp i = Int64.ofInt i := by
      unfold Binary.clamp
      congr 1
      omega
    rw [Decimal.fit?, if_pos h, hclamp]
    rfl
  · have hpow : Binary.pow2 63 = 9223372036854775808 := by decide
    have hlarge : Binary.pow2 63 ≤ i.natAbs := by omega
    -- What does not fit has been guessed as floating point, with its sign beside its digits.
    have hsigned : (if decide (i < 0) = true then -(i.natAbs : Int) else i.natAbs) = i := by
      simp only [decide_eq_true_eq]
      split <;> omega
    rw [Decimal.fit?, if_neg h]
    simp only [Tree.int64?, Binary.toInt64_nearest hlarge, hsigned]

end UserRegistry.Layers.Overrides
