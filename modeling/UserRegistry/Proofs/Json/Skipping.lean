import UserRegistry.Proofs.Json.Grammar

/-!
# Passing over well-formed values

A value that nobody asks for is passed over exactly, however it is written and however deep it
goes: `skipValue_spelled`. Passing over works on a stack of open lists and objects, so the step
lemma is about any stack: after the text of a value the reader stands where it would stand had the
value just been closed (`skipIn_spelled`).
-/

namespace UserRegistry.Json

/-! ## Texts -/

theorem hexQuad_quad {ds : List Char} {n : Nat} (h : IsQuad ds n) (rest : List Char) :
    hexQuad (ds ++ rest) = .ok n := by
  obtain ⟨ha, hb, hc, hd⟩ := h
  rename_i a b c d i j k l
  have hbytes : ¬ fewBytes ([a, b, c, d] ++ rest) < 4 := by
    have := a.utf8Size_pos
    have := b.utf8Size_pos
    have := c.utf8Size_pos
    have := d.utf8Size_pos
    simp only [fewBytes, List.cons_append, List.nil_append, List.take_succ_cons, List.take_zero,
      Text.byteCount]
    omega
  rw [hexQuad, if_neg hbytes]
  simp [ha, hb, hc, hd]

theorem IsQuad.length {ds : List Char} {n : Nat} (h : IsQuad ds n) : ds.length = 4 := by
  cases h
  rfl

theorem skipTextFrom_pending (u rest : List Char) :
    skipTextFrom u.length (u ++ rest) = skipTextFrom 0 rest := by
  induction u with
  | nil => rfl
  | cons c u ih => exact ih

theorem skipTextFrom_escape {u rest : List Char} (h : escapeLength (u ++ rest) = .ok u.length) :
    skipTextFrom 0 ('\\' :: (u ++ rest)) = skipTextFrom 0 rest := by
  rw [skipTextFrom, if_neg (by decide), if_pos rfl, h]
  exact skipTextFrom_pending u rest

theorem skipTextFrom_quad {ds : List Char} {n : Nat} (h : IsQuad ds n) (rest : List Char) :
    skipTextFrom 0 ('\\' :: 'u' :: (ds ++ rest)) = skipTextFrom 0 rest := by
  refine skipTextFrom_escape (u := 'u' :: ds) ?_
  simp [escapeLength, hexQuad_quad h, h.length, Except.map]

/-- However a character is written, it is passed over whole. -/
theorem skipTextFrom_spellsChar {c : Char} {u : List Char} (h : SpellsChar c u)
    (rest : List Char) : skipTextFrom 0 (u ++ rest) = skipTextFrom 0 rest := by
  cases h with
  | plain hquote hbackslash hcontrol =>
    have hcontrol : ¬ c.toNat < 32 := by omega
    simp [skipTextFrom, hquote, hbackslash, hcontrol]
  | @short d h =>
    have hletter : ['"', '\\', '/', 'b', 'f', 'n', 'r', 't'].contains d = true :=
      List.contains_iff_mem.2 (List.mem_map_of_mem (f := Prod.fst) h)
    refine skipTextFrom_escape (u := [d]) ?_
    rw [List.singleton_append, escapeLength, if_pos hletter]
    rfl
  | quad h => exact skipTextFrom_quad h rest
  | quads hhigh hlow _ _ _ =>
    simp only [List.cons_append, List.append_assoc]
    rw [skipTextFrom_quad hhigh, skipTextFrom_quad hlow]

theorem skipTextFrom_spelled {cs t : List Char} (h : SpellsText cs t) (rest : List Char) :
    skipTextFrom 0 (t ++ '"' :: rest) = .ok rest := by
  induction h with
  | nil => rfl
  | cons hc _ ih => rw [List.append_assoc, skipTextFrom_spellsChar hc, ih]

/-! ## Numbers -/

theorem IsDigits.head {ds : List Char} (h : IsDigits ds) :
    ∃ c cs, ds = c :: cs ∧ Text.isDigit c = true := by
  obtain ⟨c, cs, rfl⟩ := List.exists_cons_of_ne_nil h.1
  exact ⟨c, cs, rfl, h.2 c (by simp)⟩

theorem skipExponent_spelled {sign ds rest : List Char} (hsign : sign ∈ [[], ['+'], ['-']])
    (hds : IsDigits ds) (hrest : Decimal.NoDigit rest) :
    skipExponent (sign ++ (ds ++ rest)) = .ok rest := by
  obtain ⟨-, hafter⟩ := Decimal.digits_append hds.2 hrest
  obtain ⟨c, cs, rfl, hc⟩ := hds.head
  have hminus := (isGap_digit hc).2
  have hplus : c ≠ '+' := by
    rintro rfl
    exact absurd hc (by decide)
  simp only [List.mem_cons, List.not_mem_nil, or_false] at hsign
  rcases hsign with rfl | rfl | rfl <;> simp_all [skipExponent]

/-- A number's exponent, or what follows the number where it has none, does not start with a digit
or a point. -/
theorem IsExponent.append {t rest : List Char} (h : IsExponent t) (hrest : EndsNumber rest) :
    Decimal.NoDigit (t ++ rest) ∧ ∀ cs, t ++ rest ≠ '.' :: cs := by
  cases h with
  | none => exact ⟨hrest.noDigit, fun cs h => (hrest _ _ h).2.1 rfl⟩
  | some hmark _ _ =>
    simp only [List.mem_cons, List.not_mem_nil, or_false] at hmark
    constructor
    · rintro c cs h
      obtain rfl := (List.cons.inj h).1
      rcases hmark with rfl | rfl <;> decide
    · rintro cs h
      obtain rfl := (List.cons.inj h).1
      simp at hmark

/-- Nor does a number's fraction start with a digit. -/
theorem IsFraction.append {t rest : List Char} (h : IsFraction t) (hrest : Decimal.NoDigit rest) :
    Decimal.NoDigit (t ++ rest) := by
  cases h with
  | none => exact hrest
  | some _ =>
    rintro c cs h
    obtain rfl := (List.cons.inj h).1
    decide

/-- What follows the digits before the point is what follows the whole part. -/
theorem IsWhole.append {ds rest : List Char} (h : IsWhole ds) (hrest : Decimal.NoDigit rest) :
    ∃ c cs, ds ++ rest = c :: cs ∧ Text.isDigit c = true ∧
      ¬ (c = '0' ∧ (cs.head?.any Text.isDigit) = true) ∧
      (if c = '0' then cs else Decimal.afterDigits (c :: cs)) = rest := by
  obtain ⟨hdigits, hzero⟩ := h
  obtain ⟨-, hafter⟩ := Decimal.digits_append hdigits.2 hrest
  obtain ⟨c, cs, rfl, hc⟩ := hdigits.head
  refine ⟨c, cs ++ rest, rfl, hc, ?_⟩
  by_cases h0 : c = '0'
  · subst h0
    obtain rfl : cs = [] := (List.cons.inj (hzero rfl)).2
    refine ⟨fun h => ?_, rfl⟩
    cases rest with
    | nil => exact absurd h.2 (by simp)
    | cons d rest => exact absurd h.2 (by simp [hrest d rest rfl])
  · exact ⟨fun h => h0 h.1, by rw [if_neg h0]; exact hafter⟩

/-- After the digits a number goes on with its exponent or ends. -/
theorem IsExponent.skip {t rest : List Char} (h : IsExponent t) (hrest : EndsNumber rest) :
    (match t ++ rest with
      | 'e' :: cs | 'E' :: cs => skipExponent cs
      | after => .ok after) = .ok rest := by
  cases h with
  | none =>
    rw [List.nil_append]
    split
    · exact absurd rfl (hrest _ _ rfl).2.2.1
    · exact absurd rfl (hrest _ _ rfl).2.2.2
    · rfl
  | some hmark hsign hds =>
    have hskip := skipExponent_spelled hsign hds hrest.noDigit
    simp only [List.mem_cons, List.not_mem_nil, or_false] at hmark
    rcases hmark with rfl | rfl <;> simpa using hskip

theorem skipNumeral_unsigned {t rest : List Char} (h : IsUnsigned t) (hrest : EndsNumber rest) :
    skipNumeral (t ++ rest) = .ok rest := by
  obtain ⟨hwhole, hfraction, hexponent⟩ := h
  rename_i whole fraction exponent
  obtain ⟨hnoDigit, hnoPoint⟩ := hexponent.append hrest
  obtain ⟨c, cs, hcs, hc, hzero, htail⟩ := hwhole.append (hfraction.append hnoDigit)
  rw [List.append_assoc, List.append_assoc, hcs, skipNumeral]
  simp only [hc, Bool.not_true, Bool.false_eq_true, if_false, if_neg hzero, htail]
  have hskip := hexponent.skip hrest
  cases hfraction with
  | none =>
    rw [List.nil_append]
    -- without a point the two ways to go on are the same
    split
    · exact absurd ‹_› (hnoPoint _)
    · rw [‹exponent ++ rest = _›] at hskip
      exact hskip
    · rw [‹exponent ++ rest = _›] at hskip
      exact hskip
    · rw [← hskip]
      split <;> simp_all
  | some hds =>
    obtain ⟨hdigits, hafter⟩ := Decimal.digits_append hds.2 hnoDigit
    simp only [List.cons_append, hdigits, hafter, List.isEmpty_iff, hds.1, if_false]
    exact hskip

/-! ## Values -/

theorem word_append (w rest : List Char) : word w (w ++ rest) = .ok rest := by
  induction w with
  | nil => rfl
  | cons c w ih =>
    rw [List.cons_append, word, if_pos rfl]
    exact ih

theorem skipStart_gap {g : List Char} (hg : Gap g) (s : List Char) :
    skipStart (g ++ s) = skipStart s := by
  rw [skipStart, skipStart, skipGap_append hg]

theorem skipStart_null (rest : List Char) :
    skipStart ("null".toList ++ rest) = .ok (none, rest) :=
  congrArg (Except.map (none, ·)) (word_append "ull".toList rest)

theorem skipStart_flag (b : Bool) (rest : List Char) :
    skipStart ((flagWord b).toList ++ rest) = .ok (none, rest) := by
  cases b
  · exact congrArg (Except.map (none, ·)) (word_append "alse".toList rest)
  · exact congrArg (Except.map (none, ·)) (word_append "rue".toList rest)

theorem skipStart_number {t rest : List Char} (h : IsNumber t) (hrest : EndsNumber rest) :
    skipStart (t ++ rest) = .ok (none, rest) := by
  cases h with
  | positive h =>
    have hskip := skipNumeral_unsigned h hrest
    obtain ⟨c, cs, rfl, hc⟩ := h.head
    have hword : c ≠ 'n' ∧ c ≠ 't' ∧ c ≠ 'f' := by
      refine ⟨?_, ?_, ?_⟩ <;>
      · rintro rfl
        exact absurd hc (by decide)
    obtain ⟨hgap, hminus⟩ := isGap_digit hc
    rw [List.cons_append] at hskip ⊢
    rw [skipStart, skipGap_cons hgap]
    simp only [hword, hminus, hc, if_true, if_false, hskip]
    rfl
  | negative h => exact congrArg (Except.map (none, ·)) (skipNumeral_unsigned h hrest)

theorem skipStart_text {cs t : List Char} (h : SpellsText cs t) (rest : List Char) :
    skipStart ('"' :: (t ++ '"' :: rest)) = .ok (none, rest) :=
  congrArg (Except.map (none, ·)) (skipTextFrom_spelled h rest)

theorem skipKey_spelled {g key g' rest : List Char} {k : String} (hg : Gap g)
    (hkey : SpellsText k.toList key) (hg' : Gap g') :
    skipKey (g ++ '"' :: (key ++ '"' :: (g' ++ ':' :: rest))) = .ok rest := by
  rw [skipKey, skipGap_gap hg (by decide)]
  simp [skipTextFrom_spelled hkey, skipGap_gap hg' (c := ':') (by decide)]

/-- How passing over goes on once frames were closed. -/
def goOn (fuel : Nat) : Step (List Frame) → Except Fault (List Char)
  | .error e => .error e
  | .ok ([], rest) => .ok rest
  | .ok (.list :: fs, rest) => skipIn fuel (.list :: fs) rest
  | .ok (.object :: fs, rest) => (skipKey rest).bind (skipIn fuel (.object :: fs))

theorem skipIn_succ {s rest : List Char} {opened : Option Frame}
    (h : skipStart s = .ok (opened, rest)) (fuel : Nat) (frames : List Frame) :
    skipIn (fuel + 1) frames s =
      goOn fuel (closeFrames opened.isNone (opened.toList ++ frames) rest) := by
  rw [skipIn, h]
  dsimp only
  cases closeFrames opened.isNone (opened.toList ++ frames) rest with
  | error e => rfl
  | ok r =>
    obtain ⟨_ | ⟨_ | _, fs⟩, rest⟩ := r
    · rfl
    · rfl
    · cases hkey : skipKey rest <;> simp [goOn, hkey, Except.bind]

theorem closeFrames_closer {g : List Char} (hg : Gap g) (afterValue : Bool) (f : Frame)
    (fs : List Frame) (rest : List Char) :
    closeFrames afterValue (f :: fs) (g ++ f.closer :: rest) = closeFrames true fs rest := by
  have hgap : isGap f.closer = false := by cases f <;> rfl
  have hcomma : f.closer ≠ ',' := by cases f <;> simp [Frame.closer]
  rw [closeFrames, skipGap_gap hg hgap]
  simp [hcomma]

/-- Before a part nothing is closed, and only blanks are left before it. -/
theorem closeFrames_part {g g' : List Char} (hg : Gap g) (hg' : Gap g') (first : Bool) (f : Frame)
    (fs : List Frame) {c : Char} (hc : Starts c) (s : List Char) :
    ∃ g'', Gap g'' ∧ closeFrames (!first) (f :: fs) (g ++ (comma first ++ (g' ++ c :: s))) =
      .ok (f :: fs, g'' ++ c :: s) := by
  obtain ⟨hgap, hcomma, hbracket, hbrace⟩ := hc
  cases first with
  | true =>
    have hcloser : c ≠ f.closer := by cases f <;> assumption
    refine ⟨[], .nil, ?_⟩
    rw [closeFrames, skipGap_append hg]
    simp only [comma, if_true, List.nil_append, skipGap_gap hg' hgap]
    simp [hcloser]
  | false =>
    refine ⟨g', hg', ?_⟩
    simp only [comma, Bool.false_eq_true, if_false, List.singleton_append]
    rw [closeFrames, skipGap_gap hg (by decide)]
    simp

/-- The text of a value is passed over in any frames, within as many steps as it has characters. -/
theorem skipIn_spelled {v : Value} {t : List Char} (h : Spells v t) :
    ∃ k ≤ t.length, ∀ {g rest : List Char}, Gap g → EndsNumber rest → ∀ fuel frames,
      skipIn (fuel + k) frames (g ++ (t ++ rest)) = goOn fuel (closeFrames true frames rest) := by
  induction h using Spells.rec
    (motive_2 := fun first _ u _ => ∃ k ≤ u.length, ∀ fuel frames rest,
      goOn (fuel + k) (closeFrames (!first) (.list :: frames) (u ++ ']' :: rest)) =
        goOn fuel (closeFrames true frames rest))
    (motive_3 := fun first _ u _ => ∃ k ≤ u.length, ∀ fuel frames rest,
      goOn (fuel + k) (closeFrames (!first) (.object :: frames) (u ++ '\x7d' :: rest)) =
        goOn fuel (closeFrames true frames rest)) with
  | null =>
    exact ⟨1, by simp, fun hg _ => skipIn_succ ((skipStart_gap hg _).trans (skipStart_null _))⟩
  | flag b =>
    exact ⟨1, (Spells.flag b).length_pos, fun hg _ =>
      skipIn_succ ((skipStart_gap hg _).trans (skipStart_flag b _))⟩
  | number h =>
    exact ⟨1, (Spells.number h).length_pos, fun hg hrest =>
      skipIn_succ ((skipStart_gap hg _).trans (skipStart_number h hrest))⟩
  | @text s t h =>
    refine ⟨1, by simp, fun {g rest} hg _ => ?_⟩
    rw [List.cons_append, List.append_assoc]
    exact skipIn_succ ((skipStart_gap hg _).trans (skipStart_text h rest))
  | @list vs t h ih =>
    obtain ⟨k, hk, ih⟩ := ih
    refine ⟨k + 1, by simp; omega, fun {g rest} hg _ fuel frames => ?_⟩
    have hstart : skipStart ('[' :: (t ++ ']' :: rest)) = .ok (some .list, t ++ ']' :: rest) := rfl
    rw [List.cons_append, List.append_assoc]
    exact (skipIn_succ ((skipStart_gap hg _).trans hstart) _ _).trans (ih fuel frames rest)
  | @object ms t h ih =>
    obtain ⟨k, hk, ih⟩ := ih
    refine ⟨k + 1, by simp; omega, fun {g rest} hg _ fuel frames => ?_⟩
    have hstart : skipStart ('\x7b' :: (t ++ '\x7d' :: rest)) =
        .ok (some .object, t ++ '\x7d' :: rest) := rfl
    rw [List.cons_append, List.append_assoc]
    exact (skipIn_succ ((skipStart_gap hg _).trans hstart) _ _).trans (ih fuel frames rest)
  | noItem hg =>
    exact ⟨0, Nat.zero_le _, fun fuel frames rest =>
      congrArg (goOn fuel) (closeFrames_closer hg _ .list frames rest)⟩
  | @item first v vs g₁ g₂ t u hg₁ hg₂ hv hvs ihv ihvs =>
    obtain ⟨k, hk, ihv⟩ := ihv
    obtain ⟨l, hl, ihvs⟩ := ihvs
    obtain ⟨c, cs, rfl, hc⟩ := hv.head
    refine ⟨l + k, by simp at hk ⊢; omega, fun fuel frames rest => ?_⟩
    obtain ⟨g, hg, hpart⟩ :=
      closeFrames_part hg₁ hg₂ first .list frames hc (cs ++ (u ++ ']' :: rest))
    have hends := hvs.endsNumber (c := ']') (by unfold Stops; decide) rest
    simp only [List.append_assoc, List.cons_append] at hpart ⊢
    rw [hpart, ← Nat.add_assoc]
    exact (ihv hg hends (fuel + l) (.list :: frames)).trans (ihvs fuel frames rest)
  | noMember hg =>
    exact ⟨0, Nat.zero_le _, fun fuel frames rest =>
      congrArg (goOn fuel) (closeFrames_closer hg _ .object frames rest)⟩
  | @member first k v ms g₁ g₂ key g₃ g₄ t u hg₁ hg₂ hkey hg₃ hg₄ hv hms ihv ihms =>
    obtain ⟨k, hk, ihv⟩ := ihv
    obtain ⟨l, hl, ihms⟩ := ihms
    refine ⟨l + k, by simp; omega, fun fuel frames rest => ?_⟩
    have hquote : Starts '"' := by simp [Starts, isGap]
    have hends := hms.endsNumber (c := '\x7d') (by unfold Stops; decide) rest
    obtain ⟨g, hg, hpart⟩ := closeFrames_part hg₁ hg₂ first .object frames hquote
      (key ++ '"' :: (g₃ ++ ':' :: (g₄ ++ (t ++ (u ++ '\x7d' :: rest)))))
    simp only [List.append_assoc, List.cons_append] at hpart ⊢
    rw [hpart, ← Nat.add_assoc, goOn, skipKey_spelled hg hkey hg₃]
    exact (ihv hg₄ hends (fuel + l) (.object :: frames)).trans (ihms fuel frames rest)

/-- **A well-formed value is passed over**, and reading goes on right after it. -/
theorem skipValue_spelled {v : Value} {g t rest : List Char} (hg : Gap g) (h : Spells v t)
    (hrest : EndsNumber rest) : skipValue (g ++ (t ++ rest)) = .ok rest := by
  obtain ⟨k, hk, hskip⟩ := skipIn_spelled h
  obtain ⟨fuel, hfuel⟩ : ∃ fuel, (g ++ (t ++ rest)).length + 1 = fuel + k :=
    ⟨(g ++ (t ++ rest)).length + 1 - k, by simp; omega⟩
  rw [skipValue, hfuel, hskip hg hrest]
  rfl

end UserRegistry.Json
