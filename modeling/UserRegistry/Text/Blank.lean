/-!
# Blank characters

The characters that count as white space in any script, and texts without them at their ends.
`isBlank` says which, `trimmed` drops them on both sides, `trimmedEnd` after the text only.
-/

namespace UserRegistry.Text

/-- White space in any script: the ASCII blanks, the next-line control, the no-break and the
typographic spaces, the line and paragraph separators and the ideographic space. -/
def isBlank (c : Char) : Bool :=
  let n := c.toNat
  (0x09 ≤ n && n ≤ 0x0d) || n == 0x20 || n == 0x85 || n == 0xa0 || n == 0x1680 ||
    (0x2000 ≤ n && n ≤ 0x200a) || n == 0x2028 || n == 0x2029 || n == 0x202f || n == 0x205f ||
    n == 0x3000

def trimmedStart (cs : List Char) : List Char :=
  cs.dropWhile isBlank

def trimmedEnd (cs : List Char) : List Char :=
  (cs.reverse.dropWhile isBlank).reverse

def trimmed (cs : List Char) : List Char :=
  trimmedEnd (trimmedStart cs)

def isAllBlank (cs : List Char) : Bool :=
  cs.all isBlank

theorem dropWhile_eq_nil_iff_all {p : Char → Bool} {cs : List Char} :
    cs.dropWhile p = [] ↔ cs.all p = true := by
  induction cs with
  | nil => simp
  | cons c cs ih => by_cases h : p c <;> simp [h, ih]

/-- A text that is trimmed away altogether holds blanks only. -/
theorem trimmed_eq_nil_iff {cs : List Char} : trimmed cs = [] ↔ isAllBlank cs = true := by
  simp only [trimmed, trimmedEnd, trimmedStart, isAllBlank, List.reverse_eq_nil_iff,
    dropWhile_eq_nil_iff_all, List.all_reverse]
  induction cs with
  | nil => simp
  | cons c cs ih =>
    by_cases h : isBlank c
    · simp [h, ih]
    · simp [h]

end UserRegistry.Text
