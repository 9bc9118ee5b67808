import UserRegistry.Proofs.Json.Accepting

/-!
# A text says one thing

No text spells two values (`Spells.unique`), so what a line of text says does not depend on who
reads it. The step is about texts with something after them, as they stand inside a longer text: two
of them that go on to the same whole are of the same value and end at the same place
(`Spells.append_inj`). The readers of words, keys and gaps serve as decoders: each gives one answer
on either side of the equation.
-/

namespace UserRegistry.Json

/-! ## Words -/

/-- The words that are neither numbers nor texts differ in their first character. -/
theorem Value.Opens.word {v : Value} {c : Char} (h : v.Opens c) :
    (c = 'n' → v = .null) ∧ (c = 't' → v = .flag true) ∧ (c = 'f' → v = .flag false) := by
  have hnumber : ∀ d ∈ ['n', 't', 'f'], ¬ (d = '-' ∨ Text.isDigit d = true) := by
    simp [Text.isDigit]
  cases v with
  | number w =>
    have hne : ∀ d ∈ ['n', 't', 'f'], c ≠ d := by
      rintro d hd rfl
      exact hnumber c hd h
    simp [hne]
  | flag b =>
    cases b
    all_goals
      obtain rfl := h
      simp
  | _ =>
    obtain rfl := h
    simp

/-- Texts that go on to the same whole start alike. -/
theorem Spells.common_start {v v' : Value} {t t' rest rest' : List Char} (h : Spells v t)
    (h' : Spells v' t') (heq : t ++ rest = t' ++ rest') : ∃ c, v.Opens c ∧ v'.Opens c := by
  obtain ⟨c, cs, rfl, -, hc⟩ := h.opens
  obtain ⟨c', cs', rfl, -, hc'⟩ := h'.opens
  obtain rfl : c = c' := (List.cons.inj heq).1
  exact ⟨c, hc, hc'⟩

theorem SpellsText.append_inj {s s' : String} {t t' rest rest' : List Char}
    (h : SpellsText s.toList t) (h' : SpellsText s'.toList t')
    (heq : t ++ '"' :: rest = t' ++ '"' :: rest') : s = s' ∧ rest = rest' := by
  have hread := textAfterQuote_spelled h rest
  rw [heq, textAfterQuote_spelled h' rest'] at hread
  obtain ⟨rfl, rfl⟩ := Prod.mk.inj (Except.ok.inj hread)
  exact ⟨rfl, rfl⟩

theorem IsNumber.append_inj {t t' rest rest' : List Char} (h : IsNumber t) (h' : IsNumber t')
    (hrest : EndsNumber rest) (hrest' : EndsNumber rest') (heq : t ++ rest = t' ++ rest') :
    t = t' ∧ rest = rest' := by
  have hskip := skipStart_number h hrest
  rw [heq, skipStart_number h' hrest'] at hskip
  obtain rfl := (Prod.mk.inj (Except.ok.inj hskip)).2
  exact ⟨List.append_cancel_right heq, rfl⟩

/-- Blanks before a value end where the value starts. -/
theorem Spells.gap_inj {v v' : Value} {g g' t t' rest rest' : List Char} (h : Spells v t)
    (hg : Gap g) (hg' : Gap g') (h' : Spells v' t')
    (heq : g ++ (t ++ rest) = g' ++ (t' ++ rest')) : t ++ rest = t' ++ rest' := by
  obtain ⟨c, cs, rfl, hc, -⟩ := h.head
  obtain ⟨c', cs', rfl, hc', -⟩ := h'.head
  have hskip := congrArg skipGap heq
  rwa [List.cons_append, List.cons_append, skipGap_gap hg hc, skipGap_gap hg' hc'] at hskip

/-! ## Items and members -/

section
variable {first : Bool} {g g₁ g₂ t u u' rest rest' : List Char} {v : Value} {vs' : List Value}

/-- Items that go on like none are none. -/
theorem SpellsItems.eq_nil (hg : Gap g) (h' : SpellsItems first vs' u')
    (heq : g ++ ']' :: rest = u' ++ ']' :: rest') : vs' = [] ∧ rest = rest' := by
  have hnext := nextItem_end hg first rest
  rw [heq] at hnext
  cases h' with
  | noItem hg' =>
    rw [nextItem_end hg'] at hnext
    exact ⟨rfl, (List.cons.inj (Prod.mk.inj (Except.ok.inj hnext)).2).2.symm⟩
  | item hg₁ hg₂ hv _ =>
    obtain ⟨c, cs, rfl, hc⟩ := hv.head
    simp only [List.append_assoc, List.cons_append] at hnext
    rw [nextItem_spelled hg₁ hg₂ hc] at hnext
    cases hnext

/-- Items that go on like one with others after it are so, too. -/
theorem SpellsItems.eq_cons (hg₁ : Gap g₁) (hg₂ : Gap g₂) (hv : Spells v t)
    (h' : SpellsItems first vs' u')
    (heq : g₁ ++ (comma first ++ (g₂ ++ (t ++ u))) ++ ']' :: rest = u' ++ ']' :: rest') :
    ∃ v' ws t' w, vs' = v' :: ws ∧ Spells v' t' ∧ SpellsItems false ws w ∧
      t ++ (u ++ ']' :: rest) = t' ++ (w ++ ']' :: rest') := by
  obtain ⟨c, cs, ht, hc⟩ := hv.head
  have hnext := nextItem_spelled hg₁ hg₂ hc first (cs ++ (u ++ ']' :: rest))
  rw [← List.cons_append, ← ht] at hnext
  simp only [List.append_assoc] at heq
  rw [heq] at hnext
  cases h' with
  | noItem hg' =>
    rw [nextItem_end hg'] at hnext
    cases hnext
  | @item _ v' ws g₁' g₂' t' w hg₁' hg₂' hv' hws =>
    obtain ⟨c', cs', ht', hc'⟩ := hv'.head
    have hnext' := nextItem_spelled hg₁' hg₂' hc' first (cs' ++ (w ++ ']' :: rest'))
    rw [← List.cons_append, ← ht'] at hnext'
    simp only [List.append_assoc] at hnext
    rw [hnext'] at hnext
    exact ⟨v', ws, t', w, rfl, hv', hws, (Prod.mk.inj (Except.ok.inj hnext)).2.symm⟩

end

section
variable {first : Bool} {g g₁ g₂ g₃ g₄ key t u u' rest rest' : List Char} {k : String} {v : Value}
  {ms' : List (String × Value)}

/-- Members that go on like none are none. -/
theorem SpellsMembers.eq_nil (hg : Gap g) (h' : SpellsMembers first ms' u')
    (heq : g ++ '\x7d' :: rest = u' ++ '\x7d' :: rest') : ms' = [] ∧ rest = rest' := by
  have hnext := nextKey_end hg first rest
  rw [heq] at hnext
  cases h' with
  | noMember hg' =>
    rw [nextKey_end hg'] at hnext
    exact ⟨rfl, (List.cons.inj (Prod.mk.inj (Except.ok.inj hnext)).2).2.symm⟩
  | member hg₁ hg₂ hkey _ _ _ _ =>
    simp only [List.append_assoc, List.cons_append] at hnext
    rw [nextKey_spelled hg₁ hg₂ hkey] at hnext
    cases hnext

/-- Members that go on like one with others after it are so, too, and the first has the same
key. -/
theorem SpellsMembers.eq_cons (hg₁ : Gap g₁) (hg₂ : Gap g₂) (hkey : SpellsText k.toList key)
    (hg₃ : Gap g₃) (hg₄ : Gap g₄) (hv : Spells v t) (h' : SpellsMembers first ms' u')
    (heq : g₁ ++ (comma first ++ (g₂ ++ ('"' :: (key ++ '"' :: (g₃ ++ ':' :: (g₄ ++ (t ++ u)))))))
      ++ '\x7d' :: rest = u' ++ '\x7d' :: rest') :
    ∃ v' ws t' w, ms' = (k, v') :: ws ∧ Spells v' t' ∧ SpellsMembers false ws w ∧
      t ++ (u ++ '\x7d' :: rest) = t' ++ (w ++ '\x7d' :: rest') := by
  have hnext := nextKey_spelled hg₁ hg₂ hkey first
    (g₃ ++ ':' :: (g₄ ++ (t ++ (u ++ '\x7d' :: rest))))
  simp only [List.append_assoc, List.cons_append] at heq
  rw [heq] at hnext
  cases h' with
  | noMember hg' =>
    rw [nextKey_end hg'] at hnext
    cases hnext
  | @member _ k' v' ws g₁' g₂' key' g₃' g₄' t' w hg₁' hg₂' hkey' hg₃' hg₄' hv' hws =>
    simp only [List.append_assoc, List.cons_append] at hnext
    rw [nextKey_spelled hg₁' hg₂' hkey'] at hnext
    obtain ⟨hkeys, hafterKey⟩ := Prod.mk.inj (Except.ok.inj hnext)
    obtain rfl := Option.some.inj hkeys
    have hcolon := colon_spelled hg₃' (g₄' ++ (t' ++ (w ++ '\x7d' :: rest')))
    rw [hafterKey, colon_spelled hg₃] at hcolon
    exact ⟨v', ws, t', w, rfl, hv', hws, hv.gap_inj hg₄ hg₄' hv' (Except.ok.inj hcolon)⟩

end

/-! ## Values -/

/-- **A text of a value tells where it ends**, and of which value it is, whatever follows it. -/
theorem Spells.append_inj {v : Value} {t : List Char} (h : Spells v t) :
    ∀ ⦃v' : Value⦄ ⦃t' rest rest' : List Char⦄, Spells v' t' → EndsNumber rest →
      EndsNumber rest' → t ++ rest = t' ++ rest' → v = v' ∧ rest = rest' := by
  induction h using Spells.rec
    (motive_2 := fun first vs u _ => ∀ vs' u' rest rest', SpellsItems first vs' u' →
      u ++ ']' :: rest = u' ++ ']' :: rest' → vs = vs' ∧ rest = rest')
    (motive_3 := fun first ms u _ => ∀ ms' u' rest rest', SpellsMembers first ms' u' →
      u ++ '\x7d' :: rest = u' ++ '\x7d' :: rest' → ms = ms' ∧ rest = rest') with
  | null =>
    intro v' t' rest rest' h' _ _ heq
    obtain ⟨c, rfl, hc⟩ := Spells.null.common_start h' heq
    obtain rfl := hc.word.1 rfl
    cases h'
    exact ⟨rfl, List.append_cancel_left heq⟩
  | flag b =>
    intro v' t' rest rest' h' _ _ heq
    obtain ⟨c, hb, hc⟩ := (Spells.flag b).common_start h' heq
    obtain rfl : v' = .flag b := by
      cases b
      · exact hc.word.2.2 hb
      · exact hc.word.2.1 hb
    cases h'
    exact ⟨rfl, List.append_cancel_left heq⟩
  | number h =>
    intro v' t' rest rest' h' hrest hrest' heq
    obtain ⟨c, hnumber, hc⟩ := (Spells.number h).common_start h' heq
    obtain ⟨w, rfl⟩ := hc.kind.1 hnumber
    cases h' with
    | number h' =>
      obtain ⟨rfl, hrests⟩ := h.append_inj h' hrest hrest' heq
      exact ⟨rfl, hrests⟩
  | text h =>
    intro v' t' rest rest' h' _ _ heq
    obtain ⟨c, rfl, hc⟩ := (Spells.text h).common_start h' heq
    obtain ⟨s', rfl⟩ := hc.kind.2.1 rfl
    cases h' with
    | text h' =>
      simp only [List.cons_append, List.append_assoc, List.nil_append, List.cons.injEq, true_and]
        at heq
      obtain ⟨rfl, hrests⟩ := h.append_inj h' heq
      exact ⟨rfl, hrests⟩
  | list h ih =>
    intro v' t' rest rest' h' _ _ heq
    obtain ⟨c, rfl, hc⟩ := (Spells.list h).common_start h' heq
    obtain ⟨vs', rfl⟩ := hc.kind.2.2.1 rfl
    cases h' with
    | list h' =>
      simp only [List.cons_append, List.append_assoc, List.nil_append, List.cons.injEq, true_and]
        at heq
      obtain ⟨rfl, hrests⟩ := ih _ _ _ _ h' heq
      exact ⟨rfl, hrests⟩
  | object h ih =>
    intro v' t' rest rest' h' _ _ heq
    obtain ⟨c, rfl, hc⟩ := (Spells.object h).common_start h' heq
    obtain ⟨ms', rfl⟩ := hc.kind.2.2.2 rfl
    cases h' with
    | object h' =>
      simp only [List.cons_append, List.append_assoc, List.nil_append, List.cons.injEq, true_and]
        at heq
      obtain ⟨rfl, hrests⟩ := ih _ _ _ _ h' heq
      exact ⟨rfl, hrests⟩
  | noItem hg vs' u' rest rest' h' heq =>
    obtain ⟨rfl, hrests⟩ := h'.eq_nil hg heq
    exact ⟨rfl, hrests⟩
  | item hg₁ hg₂ hv hvs ihv ihvs vs' u' rest rest' h' heq =>
    obtain ⟨v', ws, t', w, rfl, hv', hws, hitem⟩ := h'.eq_cons hg₁ hg₂ hv heq
    have hstops : Stops ']' := by unfold Stops; decide
    obtain ⟨rfl, hafter⟩ :=
      ihv hv' (hvs.endsNumber hstops rest) (hws.endsNumber hstops rest') hitem
    obtain ⟨rfl, hrests⟩ := ihvs _ _ _ _ hws hafter
    exact ⟨rfl, hrests⟩
  | noMember hg ms' u' rest rest' h' heq =>
    obtain ⟨rfl, hrests⟩ := h'.eq_nil hg heq
    exact ⟨rfl, hrests⟩
  | member hg₁ hg₂ hkey hg₃ hg₄ hv hms ihv ihms ms' u' rest rest' h' heq =>
    obtain ⟨v', ws, t', w, rfl, hv', hws, hmember⟩ := h'.eq_cons hg₁ hg₂ hkey hg₃ hg₄ hv heq
    have hstops : Stops '\x7d' := by unfold Stops; decide
    obtain ⟨rfl, hafter⟩ :=
      ihv hv' (hms.endsNumber hstops rest) (hws.endsNumber hstops rest') hmember
    obtain ⟨rfl, hrests⟩ := ihms _ _ _ _ hws hafter
    exact ⟨rfl, hrests⟩

/-- **A text spells at most one value.** -/
theorem Spells.unique {v v' : Value} {t : List Char} (h : Spells v t) (h' : Spells v' t) :
    v = v' := by
  have hends : EndsNumber [] := Gap.nil.endsNumber
  exact (h.append_inj h' hends hends rfl).1

/-- What the writer writes says what was to be written, and nothing else. -/
theorem spells_chars_iff (j : Json) (v : Value) : Spells v j.chars ↔ v = j.value := by
  constructor
  · intro h
    exact h.unique (spells_chars j)
  · rintro rfl
    exact spells_chars j

end UserRegistry.Json
