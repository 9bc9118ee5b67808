import UserRegistry.Proofs.Number.Digits
import UserRegistry.Text.Blank
import UserRegistry.Toml.Parse

/-!
# Integers in documents

A word that is an integer in decimal stands for that integer, if it fits 64 bits
(`wordValue_ofInt`): it has no day, no time and no point in it, and no zero before other digits.
Between quotes it is a text like any other (`quotedText_plain`).
-/

namespace UserRegistry.Toml

open UserRegistry.Text

/-! ## Words of digits -/

section
variable {s : List Char} (h : ∀ c ∈ s, isDigit c = true)
include h

theorem spacedDigits_go (ready : Bool) (hready : s = [] → ready = true) :
    spacedDigits.go isDigit ready s = some s := by
  induction s generalizing ready with
  | nil => simp [spacedDigits.go, hready]
  | cons c cs ih =>
    obtain ⟨hc, hcs⟩ := List.forall_mem_cons.1 h
    have hmark : c ≠ '_' := by
      rintro rfl
      exact absurd hc (by decide)
    rw [spacedDigits.go, if_neg hmark, if_pos hc, ih hcs true fun _ => rfl]
    rfl

theorem spacedDigits_digits (hne : s ≠ []) : spacedDigits isDigit s = some s :=
  spacedDigits_go h false fun e => absurd e hne

/-- Two digits are taken, or the text is too short. -/
theorem twoDigits_digits {n : Nat} {rest : List Char} (hs : twoDigits s = some (n, rest)) :
    ∀ c ∈ rest, isDigit c = true := by
  match s, h with
  | [], _ => cases hs
  | [_], _ => cases hs
  | a :: b :: s, h =>
    simp only [twoDigits] at hs
    split at hs
    · obtain ⟨-, rfl⟩ := Prod.mk.inj (Option.some.inj hs)
      exact fun c hc => h c (by simp [hc])
    · cases hs

theorem mark_digits {m : Char} (hm : isDigit m = false) : mark m s = none := by
  cases s with
  | nil => rfl
  | cons c cs =>
    have hc : c ≠ m := by
      rintro rfl
      rw [h c (by simp)] at hm
      cases hm
    rw [mark, if_neg hc]

theorem date_digits : date s = none := by
  unfold date
  simp only [Option.bind_eq_bind]
  cases hcentury : twoDigits s with
  | none => rfl
  | some p =>
    have hrest := twoDigits_digits h hcentury
    rw [Option.bind_some]
    cases hyears : twoDigits p.2 with
    | none => rfl
    | some q => rw [Option.bind_some, mark_digits (twoDigits_digits hrest hyears) (by decide)]; rfl

theorem clock_digits : clock s = none := by
  unfold clock
  simp only [Option.bind_eq_bind]
  cases hhour : twoDigits s with
  | none => rfl
  | some p => rw [Option.bind_some, mark_digits (twoDigits_digits h hhour) (by decide)]; rfl

end

theorem twoDigits_minus (s : List Char) : twoDigits ('-' :: s) = none := by
  cases s <;> rfl

/-! ## Integers -/

/-- An integer in decimal is digits, with a minus before them or without. -/
theorem ofInt_cases (i : Int) :
    (Decimal.ofInt i = '-' :: Decimal.ofNat i.natAbs ∧ i < 0) ∨
      (Decimal.ofInt i = Decimal.ofNat i.natAbs ∧ 0 ≤ i) := by
  unfold Decimal.ofInt
  split
  · exact .inl ⟨rfl, by assumption⟩
  · exact .inr ⟨rfl, by omega⟩

theorem date_ofInt (i : Int) : date (Decimal.ofInt i) = none := by
  rcases ofInt_cases i with ⟨h, -⟩ | ⟨h, -⟩
  · rw [h, date, twoDigits_minus]
    rfl
  · rw [h, date_digits fun _ hc => Decimal.isDigit_of_mem_ofNat hc]

theorem moment?_ofInt (i : Int) : moment? (Decimal.ofInt i) = none := by
  have hclock : clock (Decimal.ofInt i) = none := by
    rcases ofInt_cases i with ⟨h, -⟩ | ⟨h, -⟩
    · rw [h, clock, twoDigits_minus]
      rfl
    · rw [h, clock_digits fun _ hc => Decimal.isDigit_of_mem_ofNat hc]
  simp only [moment?, date_ofInt, hclock]

/-- The sign of an integer in decimal, and its digits. -/
theorem splitSign_ofInt (i : Int) :
    splitSign (Decimal.ofInt i) = (decide (i < 0), Decimal.ofNat i.natAbs) := by
  rcases ofInt_cases i with ⟨h, hi⟩ | ⟨h, hi⟩
  · rw [h]
    simp [splitSign, hi]
  · rw [h]
    unfold splitSign
    split
    · exact absurd ‹_› (Decimal.ofNat_ne_cons (by decide) _)
    · exact absurd ‹_› (Decimal.ofNat_ne_cons (by decide) _)
    · simp [hi]

theorem float?_ofInt (i : Int) : float? (Decimal.ofInt i) = none := by
  have hdigits : ∀ c ∈ Decimal.ofNat i.natAbs, isDigit c = true :=
    fun _ hc => Decimal.isDigit_of_mem_ofNat hc
  have hword {w : List Char} (hw : 'n' ∈ w) : Decimal.ofNat i.natAbs ≠ w := by
    rintro rfl
    exact absurd (hdigits 'n' hw) (by decide)
  have hrest : (Decimal.ofNat i.natAbs).dropWhile (fun c => isDigit c || c == '_') = [] :=
    dropWhile_eq_nil_iff_all.2 (List.all_eq_true.2 fun c hc => by simp [hdigits c hc])
  simp only [float?, splitSign_ofInt, if_neg (hword (w := "inf".toList) (by decide)),
    if_neg (hword (w := "nan".toList) (by decide)), hrest]

theorem wholeDigits_ofNat (n : Nat) : wholeDigits (Decimal.ofNat n) = some (Decimal.ofNat n) := by
  rw [wholeDigits, spacedDigits_digits (fun _ hc => Decimal.isDigit_of_mem_ofNat hc)
    (Decimal.ofNat_ne_nil n)]
  split
  · rename_i c cs heq
    have heq : Decimal.ofNat n = '0' :: c :: cs := Option.some.inj heq
    by_cases hn : n = 0
    · rw [hn, Decimal.ofNat_zero] at heq
      cases heq
    · exact absurd (by rw [heq]; rfl) (Decimal.head?_ofNat (Nat.pos_of_ne_zero hn))
  · rfl

theorem integer?_ofInt (i : Int) : integer? (Decimal.ofInt i) = Decimal.fit? i := by
  have hbase {mark : Char} (hmark : isDigit mark = false) (s : List Char) :
      Decimal.ofInt i ≠ '0' :: mark :: s := by
    intro heq
    rcases ofInt_cases i with ⟨h, -⟩ | ⟨h, -⟩
    · rw [h] at heq
      cases heq
    · rw [h] at heq
      have hdigit : isDigit mark = true := Decimal.isDigit_of_mem_ofNat (by rw [heq]; simp)
      rw [hmark] at hdigit
      cases hdigit
  have hvalue : (if i < 0 then -(i.natAbs : Int) else i.natAbs) = i := by
    split <;> omega
  unfold integer?
  simp only
  split
  · exact absurd ‹_› (hbase (by decide) _)
  · exact absurd ‹_› (hbase (by decide) _)
  · exact absurd ‹_› (hbase (by decide) _)
  · simp only [splitSign_ofInt, wholeDigits_ofNat, Option.bind_some, Decimal.value_ofNat,
      decide_eq_true_eq, hvalue]

/-- **An integer in decimal is the word for it.** -/
theorem wordValue_ofInt (i : Int) : wordValue (Decimal.ofInt i) = (Decimal.fit? i).map .int := by
  have hword {w : List Char} (hw : 'e' ∈ w) : Decimal.ofInt i ≠ w := by
    rintro rfl
    rcases Decimal.mem_ofInt hw with h | h
    · cases h
    · exact absurd h (by decide)
  rw [wordValue, if_neg (hword (by decide)), if_neg (hword (by decide)), moment?_ofInt,
    float?_ofInt, integer?_ofInt]
  cases Decimal.fit? i <;> rfl

/-! ## Values -/

/-- A text between quotes, all of whose characters stand for themselves. -/
theorem basicFrom_plain {cs : List Char} (h : ∀ c ∈ cs, c ≠ '"' ∧ c ≠ '\\' ∧ isPlain c = true)
    (before rest : List Char) : basicFrom 0 before (cs ++ '"' :: rest) =
      some (String.ofList (before.reverse ++ cs), rest) := by
  induction cs generalizing before with
  | nil => simp [basicFrom]
  | cons c cs ih =>
    obtain ⟨⟨hquote, hslash, hplain⟩, hcs⟩ := List.forall_mem_cons.1 h
    rw [List.cons_append, basicFrom, if_neg hquote, if_neg hslash, if_pos hplain, ih hcs]
    simp

/-- Characters that a value of another kind starts with, and the one that escapes others. -/
def otherMarks : List Char :=
  ['"', '\'', '\\', '[', '\x7b']

/-- The characters of an integer in decimal. -/
theorem char_ofInt {i : Int} {c : Char} (h : c ∈ Decimal.ofInt i) :
    isWordChar c = true ∧ isSpace c = false ∧ isPlain c = true ∧ c ∉ otherMarks := by
  rcases Decimal.mem_ofInt h with rfl | hdigit
  · decide
  · have hdigits : ∀ n < 10, isWordChar (Nat.digitChar n) = true ∧
        isSpace (Nat.digitChar n) = false ∧ isPlain (Nat.digitChar n) = true ∧
        Nat.digitChar n ∉ otherMarks := by decide
    obtain ⟨hlt, hchar⟩ := Decimal.digitChar_digitValue hdigit
    rw [← hchar]
    exact hdigits _ hlt

theorem ofInt_ne_nil (i : Int) : Decimal.ofInt i ≠ [] := by
  rcases ofInt_cases i with ⟨h, -⟩ | ⟨h, -⟩
  · simp [h]
  · rw [h]
    exact Decimal.ofNat_ne_nil _

/-- **An integer of 64 bits in decimal is read as that integer**, up to the end of its line. -/
theorem value_ofInt64 (depth : Nat) (n : Int64) (rest : List Char) :
    value depth (Decimal.ofInt n.toInt ++ '\n' :: rest) = some (.int n, '\n' :: rest) := by
  have hword : ∀ c ∈ Decimal.ofInt n.toInt, isWordChar c = true := fun c hc => (char_ofInt hc).1
  have hbreak : isWordChar '\n' = false := by decide
  have htake : (Decimal.ofInt n.toInt ++ '\n' :: rest).takeWhile isWordChar =
      Decimal.ofInt n.toInt := by
    rw [List.takeWhile_append_of_pos hword, List.takeWhile_cons_of_neg (by simp [hbreak]),
      List.append_nil]
  have hdrop : (Decimal.ofInt n.toInt ++ '\n' :: rest).dropWhile isWordChar = '\n' :: rest := by
    rw [List.dropWhile_append_of_pos hword, List.dropWhile_cons_of_neg (by simp [hbreak])]
  have hunquoted : unquoted (Decimal.ofInt n.toInt ++ '\n' :: rest) =
      some (.int n, '\n' :: rest) := by
    simp only [unquoted, htake, hdrop, date_ofInt, wordValue_ofInt, Decimal.fit?_toInt,
      Option.map_some]
  rw [← hunquoted]
  obtain ⟨c, cs, hcs⟩ := List.exists_cons_of_ne_nil (ofInt_ne_nil n.toInt)
  obtain ⟨-, -, -, hother⟩ := char_ofInt (i := n.toInt) (c := c) (by simp [hcs])
  simp only [otherMarks, List.mem_cons, not_or] at hother
  obtain ⟨hquote, hsingle, -, hbracket, hbrace, -⟩ := hother
  rw [hcs, List.cons_append]
  unfold value
  split
  · exact absurd (List.cons.inj ‹_›).1 hquote
  · exact absurd (List.cons.inj ‹_›).1 hsingle
  · exact absurd (List.cons.inj ‹_›).1 hbracket
  · exact absurd (List.cons.inj ‹_›).1 hbrace
  · rfl

/-- Between quotes an integer in decimal is a text. -/
theorem value_quoted (depth : Nat) (i : Int) (rest : List Char) :
    value depth ('"' :: (Decimal.ofInt i ++ '"' :: rest)) =
      some (.text (String.ofList (Decimal.ofInt i)), rest) := by
  have hplain : ∀ c ∈ Decimal.ofInt i, c ≠ '"' ∧ c ≠ '\\' ∧ isPlain c = true := by
    intro c hc
    obtain ⟨-, -, hplain, hother⟩ := char_ofInt hc
    simp only [otherMarks, List.mem_cons, not_or] at hother
    exact ⟨hother.1, hother.2.2.1, hplain⟩
  have hquoted : quotedText ('"' :: (Decimal.ofInt i ++ '"' :: rest)) =
      basicFrom 0 [] (Decimal.ofInt i ++ '"' :: rest) := by
    obtain ⟨c, cs, hcs⟩ := List.exists_cons_of_ne_nil (ofInt_ne_nil i)
    have hquote : c ≠ '"' := (hplain c (by simp [hcs])).1
    rw [hcs, List.cons_append]
    unfold quotedText
    split <;> simp_all
  unfold value
  simp only
  rw [hquoted, basicFrom_plain hplain]
  rfl

/-! ## Documents -/

/-- A document with one value for the id of the demonstration. -/
def idDocument (written : List Char) : String :=
  String.ofList ("[demo]\nid = ".toList ++ (written ++ ['\n']))

theorem withoutOrderMark_bracket (s : List Char) :
    Text.withoutOrderMark ('[' :: s) = '[' :: s := by
  have hmark : '['.toNat ≠ 0xfeff := by decide
  rw [Text.withoutOrderMark, if_neg hmark]

theorem header_demo (s : List Char) :
    header ("[demo]\n".toList ++ s) = some (.table ["demo"], s) := by
  rfl

theorem assignment_id (item : List Char → Step Value) {s : List Char} (h : skipSpace s = s) :
    assignment item ("id = ".toList ++ s) = (item s).map fun (v, rest) => ((["id"], v), rest) := by
  have hspace : skipSpace (' ' :: s) = s := h
  have hkey : key ("id = ".toList ++ s) = some (["id"], '=' :: ' ' :: s) := by rfl
  rw [assignment, hkey]
  simp only [hspace]

theorem parse_idDocument {written : List Char} {v : Value}
    (hspace : skipSpace (written ++ ['\n']) = written ++ ['\n'])
    (h : value (depthLimit - 1) (written ++ ['\n']) = some (v, ['\n'])) :
    parse (idDocument written) = some (.table [("demo", .table [("id", v)])]) := by
  have hassign : assignment (value (depthLimit - 1)) ("id = ".toList ++ (written ++ ['\n'])) =
      some ((["id"], v), ['\n']) := by
    rw [assignment_id _ hspace, h]
    rfl
  have hid (fuel : Nat) : statements (fuel + 2) ("id = ".toList ++ (written ++ ['\n'])) =
      some [.assign ["id"] v] := by
    have hskip : skipSpace ("id = ".toList ++ (written ++ ['\n'])) =
        'i' :: ("d = ".toList ++ (written ++ ['\n'])) := rfl
    have hcons : 'i' :: ("d = ".toList ++ (written ++ ['\n'])) =
        "id = ".toList ++ (written ++ ['\n']) := rfl
    have hchar : ¬ 'i' = '#' ∧ ¬ ('i' = '\n' ∨ 'i' = '\r') ∧ ¬ 'i' = '[' := by decide
    rw [statements, hskip]
    simp only [if_neg hchar.1, if_neg hchar.2.1, if_neg hchar.2.2]
    rw [hcons, hassign]
    rfl
  have htable (fuel : Nat) : statements (fuel + 3) ("[demo]\nid = ".toList ++
      (written ++ ['\n'])) = some [.table ["demo"], .assign ["id"] v] := by
    have hskip : skipSpace ("[demo]\nid = ".toList ++ (written ++ ['\n'])) =
        '[' :: ("demo]\nid = ".toList ++ (written ++ ['\n'])) := rfl
    have hcons : '[' :: ("demo]\nid = ".toList ++ (written ++ ['\n'])) =
        "[demo]\n".toList ++ ("id = ".toList ++ (written ++ ['\n'])) := rfl
    have hchar : ¬ '[' = '#' ∧ ¬ ('[' = '\n' ∨ '[' = '\r') := by decide
    rw [statements, hskip]
    simp only [if_neg hchar.1, if_neg hchar.2, if_true]
    rw [hcons, header_demo]
    simp only [hid]
    rfl
  have htext : Text.withoutOrderMark (idDocument written).toList =
      "[demo]\nid = ".toList ++ (written ++ ['\n']) := by
    unfold idDocument
    rw [String.toList_ofList]
    exact withoutOrderMark_bracket ("demo]\nid = ".toList ++ (written ++ ['\n']))
  have hlength : ("[demo]\nid = ".toList ++ (written ++ ['\n'])).length + 1 =
      (written.length + 11) + 3 := by
    simp
  unfold parse
  simp only [htext, hlength, htable]
  rfl

/-- How an integer may be written for an id: as it is, or between quotes. -/
def spellings (n : Int64) : List (List Char × Value) :=
  [(Decimal.ofInt n.toInt, .int n),
    ('"' :: (Decimal.ofInt n.toInt ++ ['"']), .text (Decimal.ofInt64 n))]

/-- **A document with an id in either spelling is read as what it says.** -/
theorem parse_spelling {n : Int64} {x : List Char × Value} (hx : x ∈ spellings n) :
    parse (idDocument x.1) = some (.table [("demo", .table [("id", x.2)])]) := by
  rcases List.mem_cons.1 hx with rfl | hx
  · refine parse_idDocument ?_ (value_ofInt64 _ n [])
    obtain ⟨c, cs, hcs⟩ := List.exists_cons_of_ne_nil (ofInt_ne_nil n.toInt)
    obtain ⟨-, hspace, -⟩ := char_ofInt (i := n.toInt) (c := c) (by simp [hcs])
    rw [hcs, List.cons_append, skipSpace, List.dropWhile_cons_of_neg (by simp [hspace])]
  · obtain rfl := List.mem_singleton.1 hx
    refine parse_idDocument rfl ?_
    have hvalue := value_quoted (depthLimit - 1) n.toInt ['\n']
    simpa [Decimal.ofInt64] using hvalue

end UserRegistry.Toml
