import UserRegistry.Text.Lowercase

/-!
# Lower case in ASCII

Outside ASCII the lower case of a text depends on what stands around a letter. Within ASCII it is
found letter by letter (`lowercaseFrom_ascii`), and a text that is in lower case stays as it is
(`lowercase_of_lower`).
-/

namespace UserRegistry.Text

def asciiLower (c : Char) : Char :=
  if isAsciiCapital c then Char.ofNat (c.toNat + 32) else c

def Ascii (cs : List Char) : Prop :=
  ∀ c ∈ cs, c.toNat < 0x80

/-- All characters are of ASCII, and none is a capital letter. -/
def Lower (cs : List Char) : Prop :=
  ∀ c ∈ cs, c.toNat < 0x80 ∧ isAsciiCapital c = false

theorem lower_of_all {cs : List Char}
    (h : cs.all (fun c => c.toNat < 0x80 && !isAsciiCapital c) = true) : Lower cs := by
  simpa [Lower] using h

theorem Lower.ascii {cs : List Char} (h : Lower cs) : Ascii cs := fun c hc => (h c hc).1

theorem lowercaseFrom_ascii {cs : List Char} (h : Ascii cs) (before : List Char) :
    lowercaseFrom before cs = cs.map asciiLower := by
  induction cs generalizing before with
  | nil => rfl
  | cons c cs ih =>
    have hc : c.toNat < 0x80 := h c (by simp)
    have hsigma : c.toNat ≠ 0x3a3 := by omega
    rw [lowercaseFrom, if_neg hsigma, ih fun d hd => h d (by simp [hd]), lowercaseChar, if_pos hc]
    rfl

theorem toList_lowercase {s : String} (h : Ascii s.toList) :
    (lowercase s).toList = s.toList.map asciiLower := by
  rw [lowercase, String.toList_ofList, lowercaseFrom_ascii h]

theorem map_asciiLower {cs : List Char} (h : Lower cs) : cs.map asciiLower = cs := by
  refine (List.map_congr_left fun c hc => ?_).trans (List.map_id' cs)
  rw [asciiLower, if_neg (by simp [(h c hc).2])]

/-- A text in lower case is its own lower case. -/
theorem lowercase_of_lower {s : String} (h : Lower s.toList) : lowercase s = s := by
  rw [lowercase, lowercaseFrom_ascii h.ascii, map_asciiLower h, String.ofList_toList]

theorem asciiLowercase_of_lower {s : String} (h : Lower s.toList) : asciiLowercase s = s := by
  rw [← String.toList_inj, asciiLowercase, String.toList_map]
  exact map_asciiLower h

theorem lower_of_digits {cs : List Char} (h : ∀ c ∈ cs, isDigit c = true) : Lower cs := by
  intro c hc
  have hdigit := h c hc
  simp only [isDigit, isAsciiCapital, Bool.and_eq_true, decide_eq_true_eq, Bool.and_eq_false_iff,
    decide_eq_false_iff_not, Char.le_def, UInt32.le_iff_toNat_le] at hdigit ⊢
  have h9 : '9'.val.toNat = 57 := rfl
  have hA : 'A'.val.toNat = 65 := rfl
  have hval : c.val.toNat = c.toNat := rfl
  omega

end UserRegistry.Text
