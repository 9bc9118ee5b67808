import UserRegistry.Proofs.Json.Integers

/-!
# The texts of a document

`Value` is what a document says, apart from how it is written: blanks, escapes and the order of
reading are gone, the digits of a number are kept. `Spells v t` holds of all texts `t` of `v`: any
blanks between the words, and every character of a text either as itself or as one of its escapes.

The writer's text is one of them (`spells_chars`). What is shown of a reader for all texts of a
value therefore holds of what was written.
-/

namespace UserRegistry.Json

/-- What a document says. A number is kept as it is written. -/
inductive Value where
  | null
  | flag (value : Bool)
  | number (written : List Char)
  | text (value : String)
  | list (items : List Value)
  | object (members : List (String × Value))

/-! ## Blanks and numbers -/

/-- Blanks only, or nothing. -/
def Gap (g : List Char) : Prop :=
  ∀ c ∈ g, isGap c = true

/-- Digits, one at least. -/
def IsDigits (ds : List Char) : Prop :=
  ds ≠ [] ∧ ∀ c ∈ ds, Text.isDigit c = true

/-- The digits before a point: no zero stands before others. -/
def IsWhole (ds : List Char) : Prop :=
  IsDigits ds ∧ (ds.head? = some '0' → ds = ['0'])

/-- A point and digits, or nothing. -/
inductive IsFraction : List Char → Prop
  | none : IsFraction []
  | some {ds : List Char} (h : IsDigits ds) : IsFraction ('.' :: ds)

inductive IsExponent : List Char → Prop
  | none : IsExponent []
  | some {mark : Char} {sign ds : List Char} (hmark : mark ∈ ['e', 'E'])
      (hsign : sign ∈ [[], ['+'], ['-']]) (h : IsDigits ds) : IsExponent (mark :: (sign ++ ds))

inductive IsUnsigned : List Char → Prop
  | mk {whole fraction exponent : List Char} (hwhole : IsWhole whole)
      (hfraction : IsFraction fraction) (hexponent : IsExponent exponent) :
      IsUnsigned (whole ++ (fraction ++ exponent))

inductive IsNumber : List Char → Prop
  | positive {t : List Char} (h : IsUnsigned t) : IsNumber t
  | negative {t : List Char} (h : IsUnsigned t) : IsNumber ('-' :: t)

/-! ## Texts -/

/-- Four hexadecimal digits in any case and the number they write. -/
inductive IsQuad : List Char → Nat → Prop
  | mk {a b c d : Char} {i j k l : Nat} (ha : Text.hexValue? a = some i)
      (hb : Text.hexValue? b = some j) (hc : Text.hexValue? c = some k)
      (hd : Text.hexValue? d = some l) :
      IsQuad [a, b, c, d] (((i * 16 + j) * 16 + k) * 16 + l)

/-- The escapes of one letter and what they stand for. -/
def shortEscapes : List (Char × Char) :=
  [('"', '"'), ('\\', '\\'), ('/', '/'), ('b', Char.ofNat 8), ('f', Char.ofNat 12), ('n', '\n'),
    ('r', '\r'), ('t', '\t')]

/-- The ways to write a character within quotes. Beyond sixteen bits it takes two numbers. -/
inductive SpellsChar (c : Char) : List Char → Prop
  | plain (hquote : c ≠ '"') (hbackslash : c ≠ '\\') (hcontrol : 32 ≤ c.toNat) : SpellsChar c [c]
  | short {d : Char} (h : (d, c) ∈ shortEscapes) : SpellsChar c ['\\', d]
  | quad {ds : List Char} (h : IsQuad ds c.toNat) : SpellsChar c ('\\' :: 'u' :: ds)
  | quads {hs ls : List Char} {high low : Nat} (hhigh : IsQuad hs high) (hlow : IsQuad ls low)
      (hhighs : 0xd800 ≤ high ∧ high ≤ 0xdbff) (hlows : 0xdc00 ≤ low ∧ low ≤ 0xdfff)
      (h : c = Char.ofNat (0x10000 + (high - 0xd800) * 0x400 + (low - 0xdc00))) :
      SpellsChar c ('\\' :: 'u' :: (hs ++ '\\' :: 'u' :: ls))

/-- The ways to write a text within quotes. -/
inductive SpellsText : List Char → List Char → Prop
  | nil : SpellsText [] []
  | cons {c : Char} {cs u t : List Char} (hc : SpellsChar c u) (hcs : SpellsText cs t) :
      SpellsText (c :: cs) (u ++ t)

/-! ## Values -/

/-- What stands before a part of a list or an object: a comma, except before the first. -/
def comma (first : Bool) : List Char :=
  if first then [] else [',']

mutual

inductive Spells : Value → List Char → Prop
  | null : Spells .null "null".toList
  | flag (b : Bool) : Spells (.flag b) (flagWord b).toList
  | number {t : List Char} (h : IsNumber t) : Spells (.number t) t
  | text {s : String} {t : List Char} (h : SpellsText s.toList t) :
      Spells (.text s) ('"' :: (t ++ ['"']))
  | list {vs : List Value} {t : List Char} (h : SpellsItems true vs t) :
      Spells (.list vs) ('[' :: (t ++ [']']))
  | object {ms : List (String × Value)} {t : List Char} (h : SpellsMembers true ms t) :
      Spells (.object ms) ('\x7b' :: (t ++ ['\x7d']))

/-- The ways to write the items of a list up to its closing bracket. -/
inductive SpellsItems : Bool → List Value → List Char → Prop
  | noItem {first : Bool} {g : List Char} (hg : Gap g) : SpellsItems first [] g
  | item {first : Bool} {v : Value} {vs : List Value} {g₁ g₂ t u : List Char} (hg₁ : Gap g₁)
      (hg₂ : Gap g₂) (hv : Spells v t) (hvs : SpellsItems false vs u) :
      SpellsItems first (v :: vs) (g₁ ++ (comma first ++ (g₂ ++ (t ++ u))))

/-- The ways to write the members of an object up to its closing brace. -/
inductive SpellsMembers : Bool → List (String × Value) → List Char → Prop
  | noMember {first : Bool} {g : List Char} (hg : Gap g) : SpellsMembers first [] g
  | member {first : Bool} {k : String} {v : Value} {ms : List (String × Value)}
      {g₁ g₂ key g₃ g₄ t u : List Char} (hg₁ : Gap g₁) (hg₂ : Gap g₂)
      (hkey : SpellsText k.toList key) (hg₃ : Gap g₃) (hg₄ : Gap g₄) (hv : Spells v t)
      (hms : SpellsMembers false ms u) :
      SpellsMembers first ((k, v) :: ms)
        (g₁ ++ (comma first ++ (g₂ ++ ('"' :: (key ++ '"' :: (g₃ ++ ':' :: (g₄ ++ (t ++ u))))))))

end

/-! ## What a written value starts and goes on with -/

theorem Gap.nil : Gap [] := by
  simp [Gap]

theorem skipGap_append {g : List Char} (hg : Gap g) (s : List Char) :
    skipGap (g ++ s) = skipGap s := by
  rw [skipGap, List.dropWhile_append_of_pos hg]
  rfl

theorem skipGap_gap {g : List Char} (hg : Gap g) {c : Char} (hc : isGap c = false)
    (s : List Char) : skipGap (g ++ c :: s) = c :: s := by
  rw [skipGap_append hg, skipGap_cons hc]

/-- A character that starts a value: none that may also stand where a value does not. -/
def Starts (c : Char) : Prop :=
  isGap c = false ∧ c ≠ ',' ∧ c ≠ ']' ∧ c ≠ '\x7d'

theorem starts_digit {c : Char} (h : Text.isDigit c = true) : Starts c := by
  refine ⟨(isGap_digit h).1, ?_, ?_, ?_⟩ <;>
  · rintro rfl
    exact absurd h (by decide)

theorem IsUnsigned.head {t : List Char} (h : IsUnsigned t) :
    ∃ c cs, t = c :: cs ∧ Text.isDigit c = true := by
  obtain ⟨⟨⟨hne, hdigits⟩, -⟩, -, -⟩ := h
  obtain ⟨c, cs, rfl⟩ := List.exists_cons_of_ne_nil hne
  exact ⟨c, _, rfl, hdigits c (by simp)⟩

theorem Spells.head {v : Value} {t : List Char} (h : Spells v t) :
    ∃ c cs, t = c :: cs ∧ Starts c := by
  cases h with
  | null => exact ⟨'n', _, rfl, by simp [Starts, isGap]⟩
  | flag b =>
    cases b
    · exact ⟨'f', _, rfl, by simp [Starts, isGap]⟩
    · exact ⟨'t', _, rfl, by simp [Starts, isGap]⟩
  | number h =>
    cases h with
    | positive h =>
      obtain ⟨c, cs, rfl, hc⟩ := h.head
      exact ⟨c, cs, rfl, starts_digit hc⟩
    | negative h => exact ⟨'-', _, rfl, by simp [Starts, isGap]⟩
  | text h => exact ⟨'"', _, rfl, by simp [Starts, isGap]⟩
  | list h => exact ⟨'[', _, rfl, by simp [Starts, isGap]⟩
  | object h => exact ⟨'\x7b', _, rfl, by simp [Starts, isGap]⟩

theorem Spells.length_pos {v : Value} {t : List Char} (h : Spells v t) : 0 < t.length := by
  obtain ⟨c, cs, rfl, -⟩ := h.head
  simp

/-- A character that a number does not go on with. -/
def Stops (c : Char) : Prop :=
  Text.isDigit c = false ∧ c ≠ '.' ∧ c ≠ 'e' ∧ c ≠ 'E'

theorem EndsNumber.cons {c : Char} (h : Stops c) (s : List Char) : EndsNumber (c :: s) := by
  rintro d ds ⟨⟩
  exact h

theorem EndsNumber.gap {g : List Char} (hg : Gap g) {s : List Char} (hs : EndsNumber s) :
    EndsNumber (g ++ s) := by
  cases g with
  | nil => exact hs
  | cons c cs =>
    have hc := hg c (by simp)
    simp only [isGap, Bool.or_eq_true, beq_iff_eq] at hc
    refine .cons ?_ _
    rcases hc with ((rfl | rfl) | rfl) | rfl <;> (unfold Stops; decide)

theorem Gap.endsNumber {g : List Char} (hg : Gap g) : EndsNumber g := by
  simpa using EndsNumber.gap hg (s := []) (by rintro c cs ⟨⟩)

/-- After an item a number has ended: a blank, a comma or the closing bracket follows. -/
theorem SpellsItems.endsNumber {vs : List Value} {u : List Char} (h : SpellsItems false vs u)
    {c : Char} (hc : Stops c) (s : List Char) : EndsNumber (u ++ c :: s) := by
  cases h with
  | noItem hg => exact .gap hg (.cons hc s)
  | item hg _ _ _ =>
    rw [List.append_assoc]
    exact .gap hg (.cons (by unfold Stops; decide) _)

theorem SpellsMembers.endsNumber {ms : List (String × Value)} {u : List Char}
    (h : SpellsMembers false ms u) {c : Char} (hc : Stops c) (s : List Char) :
    EndsNumber (u ++ c :: s) := by
  cases h with
  | noMember hg => exact .gap hg (.cons hc s)
  | member hg _ _ _ _ _ _ =>
    rw [List.append_assoc]
    exact .gap hg (.cons (by unfold Stops; decide) _)

/-! ## What the writer writes -/

mutual

def value : Json → Value
  | flag b => .flag b
  | int i => .number (Decimal.ofInt64 i).toList
  | text s => .text s
  | list js => .list (itemValues js)
  | object ms => .object (memberValues ms)

def itemValues : List Json → List Value
  | [] => []
  | j :: js => value j :: itemValues js

def memberValues : List (String × Json) → List (String × Value)
  | [] => []
  | (k, j) :: ms => (k, value j) :: memberValues ms

end

theorem isWhole_ofNat (n : Nat) : IsWhole (Decimal.ofNat n) := by
  refine ⟨⟨Decimal.ofNat_ne_nil n, fun c hc => Decimal.isDigit_of_mem_ofNat hc⟩, fun hzero => ?_⟩
  rcases Nat.eq_zero_or_pos n with rfl | hpos
  · exact Decimal.ofNat_zero
  · exact absurd hzero (Decimal.head?_ofNat hpos)

theorem isNumber_ofInt (i : Int) : IsNumber (Decimal.ofInt i) := by
  have hunsigned : IsUnsigned (Decimal.ofNat i.natAbs) := by
    simpa using IsUnsigned.mk (isWhole_ofNat i.natAbs) .none .none
  rw [Decimal.ofInt]
  split
  · exact .negative hunsigned
  · exact .positive hunsigned

theorem spellsChar_escapedChar (c : Char) : SpellsChar c (escapedChar c) := by
  unfold escapedChar
  iterate 7
    split
    · subst c
      exact .short (by decide)
  split
  · rename_i hc
    have hdigits : ∀ m < 16, Text.hexValue? (Nat.digitChar m) = some m := by decide
    have hquad := IsQuad.mk (a := '0') (b := '0') (hdigits 0 (by decide)) (hdigits 0 (by decide))
      (hdigits (c.toNat / 16) (by omega)) (hdigits (c.toNat % 16) (by omega))
    rw [show ((0 * 16 + 0) * 16 + c.toNat / 16) * 16 + c.toNat % 16 = c.toNat by omega] at hquad
    exact .quad hquad
  · rename_i hquote hbackslash _ _ _ _ _ hc
    exact .plain hquote hbackslash (by omega)

theorem spellsText_written (cs : List Char) : SpellsText cs (cs.flatMap escapedChar) := by
  induction cs with
  | nil => exact .nil
  | cons c cs ih => exact .cons (spellsChar_escapedChar c) ih

theorem quote_append (s : String) (rest : List Char) :
    quote s ++ rest = '"' :: (s.toList.flatMap escapedChar ++ '"' :: rest) := by
  simp [quote]

/-- An item without blanks. -/
theorem SpellsItems.close {v : Value} {vs : List Value} {t u : List Char} (hv : Spells v t)
    (hvs : SpellsItems false vs u) (first : Bool) :
    SpellsItems first (v :: vs) (comma first ++ (t ++ u)) :=
  .item .nil .nil hv hvs

/-- A written member. -/
theorem SpellsMembers.close (k : String) {v : Value} {ms : List (String × Value)}
    {t u : List Char} (hv : Spells v t) (hms : SpellsMembers false ms u) (first : Bool) :
    SpellsMembers first ((k, v) :: ms) (comma first ++ (quote k ++ ':' :: (t ++ u))) := by
  rw [quote_append]
  exact .member .nil .nil (spellsText_written k.toList) .nil .nil hv hms

/-- **What the writer writes is a text of what was to be written.** -/
theorem spells_chars (j : Json) : Spells j.value j.chars := by
  induction j using chars.induct
    (motive_2 := fun ms => ∀ first, ms ≠ [] ∨ first = true →
      SpellsMembers first (memberValues ms) (comma first ++ memberChars ms))
    (motive_3 := fun js => ∀ first, js ≠ [] ∨ first = true →
      SpellsItems first (itemValues js) (comma first ++ itemChars js)) with
  | case1 b => exact .flag b
  | case2 i =>
    rw [chars, value, Decimal.ofInt64, String.toList_ofList]
    exact .number (isNumber_ofInt i.toInt)
  | case3 s => exact .text (spellsText_written s.toList)
  | case4 js ih => exact .list (ih true (.inr rfl))
  | case5 ms ih => exact .object (ih true (.inr rfl))
  | case6 first h =>
    obtain h | rfl := h
    · exact absurd rfl h
    · exact SpellsItems.noItem Gap.nil
  | case7 x ih first _ =>
    have h := SpellsItems.close ih (.noItem .nil) first
    rwa [List.append_nil] at h
  | case8 x y xs ihx ihxs first _ =>
    exact .close ihx (ihxs false (.inl (by simp))) first
  | case9 first h =>
    obtain h | rfl := h
    · exact absurd rfl h
    · exact SpellsMembers.noMember Gap.nil
  | case10 k v ih first _ =>
    have h := SpellsMembers.close k ih (.noMember .nil) first
    rwa [List.append_nil] at h
  | case11 k v m ms ihv ihms first _ =>
    have h := SpellsMembers.close k ihv (ihms false (.inl (by simp))) first
    rw [memberChars, List.append_assoc, List.cons_append]
    exact h

end UserRegistry.Json
