import Mathlib.Data.List.Nodup
import UserRegistry.Proofs.Json.Reading

/-!
# What a reader accepts

`Takes` says that a reader takes a value in all of its texts. Here is the way back: for what a
reader reads in one text of a value (`Reads`), it takes the value in all of them (`Uniform`), and
only values of the right kind are read at all. A number is read as an integer only if it is written
as the writer writes that integer (`reads_int`); one with a point or a power of ten is refused,
whatever it is worth.

A record is read from an object only if each field is given once, with a value that is read for it
(`readMembers_settles`), and from a list only if there is one such value for each field
(`readItems_given`).
-/

namespace UserRegistry.Json

open Keyed (under)

/-- In one of the texts of a value, with something after it, a reader reads `a`. -/
def Reads (r : Reader α) (v : Value) (a : α) : Prop :=
  ∃ g t rest rest', Gap g ∧ Spells v t ∧ EndsNumber rest ∧ r (g ++ (t ++ rest)) = .ok (a, rest')

/-- How a value is written does not matter to a reader. -/
def Uniform (r : Reader α) : Prop :=
  ∀ ⦃v : Value⦄ ⦃a : α⦄, Reads r v a → Takes r v a

theorem Takes.eq_of_reads {r : Reader α} {v : Value} {a b : α} (h : Takes r v a)
    (hb : Reads r v b) : a = b := by
  obtain ⟨g, t, rest, rest', hg, ht, hrest, hread⟩ := hb
  rw [h hg ht hrest] at hread
  exact (Prod.mk.inj (Except.ok.inj hread)).1

theorem Reads.of_map {f : α → β} {r : Reader α} {v : Value} {b : β}
    (h : Reads (Format.map f r) v b) : ∃ a, Reads r v a ∧ f a = b := by
  obtain ⟨g, t, rest, rest', hg, ht, hrest, hread⟩ := h
  simp only [Format.map] at hread
  cases hr : r (g ++ (t ++ rest)) with
  | error e =>
    rw [hr] at hread
    cases hread
  | ok p =>
    obtain ⟨a, left⟩ := p
    rw [hr] at hread
    exact ⟨a, ⟨g, t, rest, left, hg, ht, hrest, hr⟩, (Prod.mk.inj (Except.ok.inj hread)).1⟩

theorem Uniform.map (f : α → β) {r : Reader α} (h : Uniform r) : Uniform (Format.map f r) := by
  intro v b hb
  obtain ⟨a, ha, rfl⟩ := hb.of_map
  exact (h ha).map f

/-! ## How the texts of a value start -/

/-- Whether the texts of a value may start with a character. -/
def Value.Opens : Value → Char → Prop
  | .null, c => c = 'n'
  | .flag true, c => c = 't'
  | .flag false, c => c = 'f'
  | .number _, c => c = '-' ∨ Text.isDigit c = true
  | .text _, c => c = '"'
  | .list _, c => c = '['
  | .object _, c => c = '\x7b'

theorem Spells.opens {v : Value} {t : List Char} (h : Spells v t) :
    ∃ c cs, t = c :: cs ∧ isGap c = false ∧ v.Opens c := by
  obtain ⟨c, cs, rfl, hgap, -⟩ := h.head
  refine ⟨c, cs, rfl, hgap, ?_⟩
  generalize ht : c :: cs = t at h
  cases h with
  | null => exact (List.cons.inj ht).1
  | flag b => cases b <;> exact (List.cons.inj ht).1
  | number h =>
    cases h with
    | positive h =>
      obtain ⟨d, ds, rfl, hd⟩ := h.head
      obtain rfl := (List.cons.inj ht).1
      exact .inr hd
    | negative h => exact .inl (List.cons.inj ht).1
  | text h => exact (List.cons.inj ht).1
  | list h => exact (List.cons.inj ht).1
  | object h => exact (List.cons.inj ht).1

/-- The first character tells what kind of value is written. -/
theorem Value.Opens.kind {v : Value} {c : Char} (h : v.Opens c) :
    (c = '-' ∨ Text.isDigit c = true → ∃ w, v = .number w) ∧ (c = '"' → ∃ s, v = .text s) ∧
      (c = '[' → ∃ vs, v = .list vs) ∧ (c = '\x7b' → ∃ ms, v = .object ms) := by
  have hdigit : ∀ d ∈ ['n', 't', 'f', '"', '[', '\x7b'], Text.isDigit d = false := by
    simp [Text.isDigit]
  cases v with
  | number w =>
    have hne : ∀ d ∈ ['"', '[', '\x7b'], c ≠ d := by
      have hother : ∀ d ∈ ['"', '[', '\x7b'], ¬ (d = '-' ∨ Text.isDigit d = true) := by
        simp [Text.isDigit]
      rintro d hd rfl
      exact hother c hd h
    simp [hne]
  | flag b =>
    cases b
    all_goals
      obtain rfl := h
      simp [hdigit]
  | _ =>
    obtain rfl := h
    simp [hdigit]

/-! ## Integers -/

/-- The integer that a number was read as, unless it was read as floating point. -/
def Numeral.integer? : Numeral → Option Int
  | natural n => some n
  | negative n => some (-n)
  | float _ => none

theorem Numeral.integer?_int64 {n : Numeral} {rest rest' : List Char} {i : Int64}
    (h : n.int64 rest = .ok (i, rest')) : n.integer? = some i.toInt := by
  cases n with
  | natural k | negative k =>
    simp only [int64] at h
    split at h
    · obtain ⟨rfl, -⟩ := Prod.mk.inj (Except.ok.inj h)
      exact congrArg some (Decimal.toInt_of_fit? ‹_›).symm
    · cases h
  | float x => cases h

theorem integer?_float {negative : Bool} {n : Nat} {e : Int} {s rest : List Char} {m : Numeral}
    (h : float negative n e s = .ok (m, rest)) : m.integer? = none := by
  unfold float at h
  split at h
  · cases h
  · cases h
    rfl

theorem integer?_exponent {negative : Bool} {n : Nat} {e : Int} {s rest : List Char} {m : Numeral}
    (h : exponent negative n e s = .ok (m, rest)) : m.integer? = none := by
  unfold exponent at h
  -- The sign and what is left of the text come first.
  split at h
  split at h
  · cases h
  · split at h
    · cases h
    · split at h
      · split at h
        · cases h
        · cases h
          rfl
      · exact integer?_float h

theorem integer?_fraction {negative : Bool} {n : Nat} {e : Int} {s rest : List Char} {m : Numeral}
    (h : fraction negative n e s = .ok (m, rest)) : m.integer? = none := by
  unfold fraction at h
  simp only at h
  split at h
  · split at h <;> cases h
  · split at h
    · exact integer?_exponent h
    · exact integer?_exponent h
    · exact integer?_float h

/-- Digits that are all counted write the number that they are counted as. -/
theorem valueFrom_of_significand {ds : List Char} {n m : Nat} (h : significand n ds = (m, 0)) :
    Decimal.valueFrom n ds = m := by
  induction ds generalizing n with
  | nil => exact (Prod.mk.inj h).1
  | cons c ds ih =>
    rw [significand] at h
    split at h
    · cases h
    · exact ih h

/-- What is read as an integer has neither a point nor a power of ten. -/
theorem numeral_pure {whole tail rest' : List Char} {n : Numeral} {j : Int} {negative : Bool}
    (hwhole : IsWhole whole) (htail : Decimal.NoDigit tail)
    (hread : numeral negative (whole ++ tail) = .ok (n, rest')) (hj : n.integer? = some j) :
    (∀ cs, tail ≠ '.' :: cs ∧ tail ≠ 'e' :: cs ∧ tail ≠ 'E' :: cs) ∧
      (if negative then '-' :: whole else whole) = Decimal.ofInt j := by
  obtain ⟨hdigits, hafter⟩ := Decimal.digits_append hwhole.1.2 htail
  obtain ⟨c, cs, hcs, hc, hzero, -⟩ := hwhole.append htail
  rw [hcs] at hread hdigits hafter
  simp only [numeral, hc, Bool.not_true, Bool.false_eq_true, if_false, if_neg hzero, hdigits,
    hafter] at hread
  split at hread
  · rw [integer?_fraction hread] at hj
    cases hj
  · rw [integer?_exponent hread] at hj
    cases hj
  · rw [integer?_exponent hread] at hj
    cases hj
  · rename_i hpoint he hE
    refine ⟨fun cs => ⟨hpoint cs, he cs, hE cs⟩, ?_⟩
    split at hread
    · rw [integer?_float hread] at hj
      cases hj
    · rename_i hall
      have hvalue : Decimal.value whole = (significand 0 whole).1 :=
        valueFrom_of_significand (Prod.ext rfl (not_not.1 hall))
      have hwritten := Decimal.ofNat_value hwhole.1.1 hwhole.1.2 hwhole.2
      rw [← hvalue] at hread
      cases negative with
      | false =>
        obtain ⟨rfl, -⟩ := Prod.mk.inj (Except.ok.inj hread)
        obtain rfl := Option.some.inj hj
        exact hwritten.symm
      | true =>
        simp only [Bool.not_true, Bool.false_eq_true, if_false] at hread
        split at hread
        · obtain ⟨rfl, -⟩ := Prod.mk.inj (Except.ok.inj hread)
          cases hj
        · obtain ⟨rfl, -⟩ := Prod.mk.inj (Except.ok.inj hread)
          obtain rfl := Option.some.inj hj
          have hneg : -(Decimal.value whole : Int) < 0 := by omega
          rw [Decimal.ofInt, if_pos hneg, Int.natAbs_neg, Int.natAbs_natCast, hwritten]
          rfl

/-- **A number that is read as an integer is written as the writer writes that integer.** -/
theorem numeral_integer {w rest rest' : List Char} {n : Numeral} {j : Int} {negative : Bool}
    (hw : IsUnsigned w) (hrest : EndsNumber rest)
    (hread : numeral negative (w ++ rest) = .ok (n, rest')) (hj : n.integer? = some j) :
    (if negative then '-' :: w else w) = Decimal.ofInt j := by
  obtain ⟨hwhole, hfraction, hexponent⟩ := hw
  have htail := hfraction.append (hexponent.append hrest).1
  rw [List.append_assoc, List.append_assoc] at hread
  obtain ⟨hpure, hwritten⟩ := numeral_pure hwhole htail hread hj
  cases hfraction with
  | some h => exact absurd rfl (hpure _).1
  | none =>
    cases hexponent with
    | none => simpa using hwritten
    | some hmark hsign h =>
      simp only [List.mem_cons, List.not_mem_nil, or_false] at hmark
      rcases hmark with rfl | rfl
      · exact absurd rfl (hpure _).2.1
      · exact absurd rfl (hpure _).2.2

/-- **Only an integer is read as one**, and only as the writer writes it. -/
theorem reads_int {v : Value} {i : Int64} (h : Reads Format.int64 v i) :
    v = .number (Decimal.ofInt64 i).toList := by
  obtain ⟨g, t, rest, rest', hg, ht, hrest, hread⟩ := h
  obtain ⟨c, cs, rfl, hgap, hopens⟩ := ht.opens
  rw [List.cons_append] at hread
  simp only [Format.int64, readInt64, skipGap_gap hg hgap] at hread
  by_cases hnumber : c = '-' ∨ Text.isDigit c = true
  · obtain ⟨w, rfl⟩ := hopens.kind.1 hnumber
    have hinteger (negative : Bool) {u left : List Char} {n : Numeral} (hu : IsUnsigned u)
        (hn : numeral negative (u ++ rest) = .ok (n, left)) (hi : n.int64 left = .ok (i, rest')) :
        (if negative then '-' :: u else u) = (Decimal.ofInt64 i).toList := by
      rw [Decimal.ofInt64, String.toList_ofList]
      exact numeral_integer hu hrest hn (Numeral.integer?_int64 hi)
    cases ht with
    | number h =>
      cases h with
      | positive h =>
        obtain ⟨d, ds, hd, hdigit⟩ := h.head
        obtain ⟨rfl, rfl⟩ := List.cons.inj hd
        simp only [(isGap_digit hdigit).2, hdigit, if_true, if_false] at hread
        split at hread
        · cases hread
        · exact congrArg Value.number (hinteger false h ‹_› hread)
      | negative h =>
        simp only [if_true] at hread
        split at hread
        · cases hread
        · exact congrArg Value.number (hinteger true h ‹_› hread)
  · rw [not_or] at hnumber
    simp only [hnumber, if_false] at hread
    cases hread

theorem uniform_int : Uniform Format.int64 := by
  intro v i h
  obtain rfl := reads_int h
  exact takes_int i

/-! ## Texts -/

theorem reads_text {v : Value} {s : String} (h : Reads Format.text v s) : v = .text s := by
  obtain ⟨g, t, rest, rest', hg, ht, hrest, hread⟩ := h
  obtain ⟨c, cs, rfl, hgap, hopens⟩ := ht.opens
  by_cases hquote : c = '"'
  · obtain ⟨s', rfl⟩ := hopens.kind.2.1 hquote
    rw [takes_text s' hg ht hrest] at hread
    rw [(Prod.mk.inj (Except.ok.inj hread)).1]
  · rw [List.cons_append] at hread
    simp only [Format.text, readText, readTextAs, skipGap_gap hg hgap, hquote, if_false] at hread
    cases hread

theorem uniform_text : Uniform Format.text := by
  intro v s h
  obtain rfl := reads_text h
  exact takes_text s

/-! ## Records in objects -/

/-- What the members that are still to come say for each field: nothing more if it is seen, else
what a change is read from. -/
def Settles (fields : List (Field Reader α)) (seen : List String) (ms : List (String × Value)) :
    Prop :=
  ∀ f ∈ fields, (f.name ∈ seen → under f.name ms = []) ∧
    (f.name ∉ seen → ∃ change, Changes Reads ms (f, change))

theorem Settles.skip {fields : List (Field Reader α)} {seen : List String} {k : String} {v : Value}
    {ms : List (String × Value)} (h : Settles fields seen ms) (hother : ∀ f ∈ fields, f.name ≠ k) :
    Settles fields seen ((k, v) :: ms) := by
  intro f hf
  have hf' := h f hf
  simpa only [Changes, Keyed.under_cons, if_neg (hother f hf).symm] using hf'

theorem Settles.given {fields : List (Field Reader α)} {seen : List String} {v : Value}
    {ms : List (String × Value)} {f : Field Reader α} {change : α → α}
    (h : Settles fields (f.name :: seen) ms) (hnew : f.name ∉ seen)
    (hunique : ∀ e ∈ fields, e.name = f.name → e = f) (hv : Reads f.change v change) :
    Settles fields seen ((f.name, v) :: ms) := by
  intro e he
  obtain ⟨hseen, hunseen⟩ := h e he
  by_cases hname : e.name = f.name
  · obtain rfl := hunique e he hname
    have hunder : under e.name ((e.name, v) :: ms) = [v] := by
      rw [Keyed.under_cons, if_pos rfl, hseen (List.mem_cons_self ..)]
    exact ⟨fun hold => absurd hold hnew, fun _ => ⟨change, .inr ⟨v, hunder, hv⟩⟩⟩
  · simp only [List.mem_cons, hname, false_or] at hseen hunseen
    simpa only [Changes, Keyed.under_cons, if_neg (Ne.symm hname)] using ⟨hseen, hunseen⟩

/-- **An object is read as a record only if its members settle every field.** -/
theorem readMembers_settles {fields : List (Field Reader α)}
    (hdistinct : (fields.map Field.name).Nodup) (huniform : ∀ f ∈ fields, Uniform f.change)
    {ms : List (String × Value)} {first : Bool} {u : List Char} (h : SpellsMembers first ms u)
    {fuel : Nat} {seen : List String} {a b : α} {rest rest' : List Char}
    (hread : readMembers fields fuel first a seen (u ++ '\x7d' :: rest) = .ok (b, rest')) :
    Settles fields seen ms := by
  induction ms generalizing first u fuel seen a with
  | nil =>
    cases h with
    | noMember hg =>
      cases fuel with
      | zero => cases hread
      | succ fuel =>
        rw [readMembers, nextKey_end hg] at hread
        simp only at hread
        split at hread
        · cases hread
        · rename_i hnone
          have hgiven : ∀ f ∈ fields, f.required = true → f.name ∈ seen := by simpa using hnone
          intro f hf
          refine ⟨fun _ => rfl, fun hnew => ⟨id, .inl ⟨rfl, ?_, rfl⟩⟩⟩
          exact Bool.eq_false_iff.2 fun hrequired => hnew (hgiven f hf hrequired)
  | cons m ms ih =>
    cases h with
    | @member _ k v _ g₁ g₂ key g₃ g₄ t u hg₁ hg₂ hkey hg₃ hg₄ hv hms =>
      cases fuel with
      | zero => cases hread
      | succ fuel =>
        have hends := hms.endsNumber (c := '\x7d') (by unfold Stops; decide) rest
        have hafterKey := nextKey_spelled hg₁ hg₂ hkey first
          (g₃ ++ ':' :: (g₄ ++ (t ++ (u ++ '\x7d' :: rest))))
        simp only [List.append_assoc, List.cons_append] at hread
        cases hfind : fields.find? fun f => f.name == k with
        | none =>
          have hskip := skipValue_spelled hg₄ hv hends
          rw [readMembers_unknown hafterKey (colon_spelled hg₃ _) hfind hskip] at hread
          exact (ih hms hread).skip (by simpa using hfind)
        | some f =>
          have hf := List.mem_of_find?_eq_some hfind
          obtain rfl : f.name = k := by simpa using List.find?_some hfind
          rw [readMembers, hafterKey] at hread
          simp only [hfind] at hread
          split at hread
          · cases hread
          · rename_i hnew
            simp only [colon_spelled hg₃, Except.bind] at hread
            split at hread
            · cases hread
            · rename_i change left hvalue
              have hreads : Reads f.change v change := ⟨g₄, t, _, left, hg₄, hv, hends, hvalue⟩
              -- What the field leaves of the text is the rest of the object.
              rw [huniform f hf hreads hg₄ hv hends] at hvalue
              obtain ⟨-, rfl⟩ := Prod.mk.inj (Except.ok.inj hvalue)
              have hunique : ∀ e ∈ fields, e.name = f.name → e = f := fun e he hname =>
                List.inj_on_of_nodup_map hdistinct he hf hname
              exact (ih hms hread).given (by simpa using hnew) hunique hreads

/-! ## Records in lists -/

theorem nextItem_spelled {g g' : List Char} {c : Char} (hg : Gap g) (hg' : Gap g')
    (hc : Starts c) (first : Bool) (s : List Char) :
    nextItem first (g ++ (comma first ++ (g' ++ c :: s))) = .ok (true, c :: s) := by
  obtain ⟨hgap, -, hbracket, -⟩ := hc
  cases first with
  | true =>
    simp only [comma, if_true, List.nil_append]
    rw [nextItem, skipGap_append hg, skipGap_gap hg' hgap]
    simp [hbracket]
  | false =>
    simp only [comma, Bool.false_eq_true, if_false, List.singleton_append]
    rw [nextItem, skipGap_gap hg (by decide)]
    simp [skipGap_gap hg' hgap, hbracket]

theorem nextItem_end {g : List Char} (hg : Gap g) (first : Bool) (rest : List Char) :
    nextItem first (g ++ ']' :: rest) = .ok (false, ']' :: rest) := by
  rw [nextItem, skipGap_gap hg (by decide)]
  rfl

theorem closeList_end {g : List Char} (hg : Gap g) (rest : List Char) :
    closeList (g ++ ']' :: rest) = .ok rest := by
  rw [closeList, skipGap_gap hg (by decide)]
  rfl

/-- A list does not end before an item. -/
theorem closeList_item {g g' : List Char} {c : Char} (hg : Gap g) (hg' : Gap g') (hc : Starts c)
    (first : Bool) (s rest : List Char) :
    closeList (g ++ (comma first ++ (g' ++ c :: s))) ≠ .ok rest := by
  obtain ⟨hgap, hcomma, hbracket, -⟩ := hc
  cases first with
  | true =>
    simp only [comma, if_true, List.nil_append]
    rw [closeList, skipGap_append hg, skipGap_gap hg' hgap]
    simp [hcomma, hbracket, faultOn]
  | false =>
    simp only [comma, Bool.false_eq_true, if_false, List.singleton_append]
    rw [closeList, skipGap_gap hg (by decide)]
    simp only [skipGap_gap hg' hgap]
    simp [hbracket, faultOn]

/-- **A list with a value for each field changes a record as its fields say.** -/
theorem readItems_spelled {cs : List (Change Reader α)} {vs : List Value}
    (hvs : List.Forall₂ (fun c v => Takes c.1.change v c.2) cs vs) (position : Nat)
    {u : List Char} (h : SpellsItems (position == 0) vs u) (expected : String) (a : α)
    (rest : List Char) :
    readItems expected (cs.map Prod.fst) position a (u ++ ']' :: rest) =
      .ok (changed cs a, rest) := by
  induction hvs generalizing position u a with
  | nil =>
    cases h with
    | noItem hg =>
      rw [List.map_nil, readItems, closeList_end hg]
      rfl
  | @cons c v cs vs hv _ ih =>
    cases h with
    | @item _ _ _ g₁ g₂ t u hg₁ hg₂ hspells hrest =>
      obtain ⟨d, ds, rfl, hd⟩ := hspells.head
      have hends := hrest.endsNumber (c := ']') (by unfold Stops; decide) rest
      have hvalue := hv .nil hspells hends
      rw [List.nil_append, List.cons_append] at hvalue
      have hlater : SpellsItems (position + 1 == 0) vs u := hrest
      simp only [List.map_cons, readItems, List.append_assoc, List.cons_append,
        nextItem_spelled hg₁ hg₂ hd, hvalue]
      exact ih (position + 1) hlater (c.2 a)

/-- **A list is read as a record only if it has a value for each field.** -/
theorem readItems_given {fields : List (Field Reader α)} (huniform : ∀ f ∈ fields, Uniform f.change)
    (hrequired : ∀ f ∈ fields, f.required = true) {vs : List Value} (position : Nat)
    {u : List Char} (h : SpellsItems (position == 0) vs u) {expected : String} {a b : α}
    {rest rest' : List Char}
    (hread : readItems expected fields position a (u ++ ']' :: rest) = .ok (b, rest')) :
    List.Forall₂ (fun f v => ∃ change, Reads f.change v change) fields vs := by
  induction fields generalizing vs position u a with
  | nil =>
    cases h with
    | noItem hg => exact .nil
    | @item _ v vs g₁ g₂ t u hg₁ hg₂ hspells hrest =>
      obtain ⟨d, ds, rfl, hd⟩ := hspells.head
      have hopen := closeList_item hg₁ hg₂ hd (position == 0) (ds ++ (u ++ ']' :: rest))
      simp only [readItems, List.append_assoc, List.cons_append] at hread
      cases hclose : closeList _ with
      | error e =>
        rw [hclose] at hread
        cases hread
      | ok left => exact absurd hclose (hopen left)
  | cons f fields ih =>
    cases h with
    | noItem hg => 
      simp [readItems, nextItem_end hg, hrequired, faultAt] at hread
    | @item _ v vs g₁ g₂ t u hg₁ hg₂ hspells hrest =>
      obtain ⟨d, ds, rfl, hd⟩ := hspells.head
      have hends := hrest.endsNumber (c := ']') (by unfold Stops; decide) rest
      simp only [readItems, List.append_assoc, List.cons_append, nextItem_spelled hg₁ hg₂ hd]
        at hread
      split at hread
      · cases hread
      · rename_i change left hvalue
        have hreads : Reads f.change v change :=
          ⟨[], d :: ds, u ++ ']' :: rest, left, .nil, hspells, hends, hvalue⟩
        have htakes := huniform f (by simp) hreads .nil hspells hends
        rw [List.nil_append, List.cons_append, hvalue] at htakes
        obtain ⟨-, rfl⟩ := Prod.mk.inj (Except.ok.inj htakes)
        have hlater : SpellsItems (position + 1 == 0) vs u := hrest
        exact .cons ⟨change, hreads⟩ (ih (fun e he => huniform e (by simp [he]))
          (fun e he => hrequired e (by simp [he])) (position + 1) hlater hread)

theorem takes_items (title : String) (blank : α) {cs : List (Change Reader α)} {vs : List Value}
    (hvs : List.Forall₂ (fun c v => Takes c.1.change v c.2) cs vs) :
    Takes (Format.record ⟨title, blank, cs.map Prod.fst⟩) (.list vs) (changed cs blank) := by
  intro g t rest hg ht hrest
  cases ht with
  | list hu =>
    rw [List.cons_append, List.append_assoc, List.singleton_append]
    simp only [Format.record, readRecord, skipGap_gap hg (c := '[') (by decide)]
    exact readItems_spelled hvs 0 hu _ blank rest

/-- **What a record is read from**: an object that says each field once, or a list of all fields. -/
theorem reads_record {r : Record Reader α} (hdistinct : (r.fields.map Field.name).Nodup)
    (huniform : ∀ f ∈ r.fields, Uniform f.change) (hrequired : ∀ f ∈ r.fields, f.required = true)
    {v : Value} {a : α} (h : Reads (Format.record r) v a) :
    (∃ ms, v = .object ms ∧ ∀ f ∈ r.fields, ∃ change, Changes Reads ms (f, change)) ∨
      ∃ vs, v = .list vs ∧
        List.Forall₂ (fun f v => ∃ change, Reads f.change v change) r.fields vs := by
  obtain ⟨g, t, rest, rest', hg, ht, hrest, hread⟩ := h
  obtain ⟨c, cs, rfl, hgap, hopens⟩ := ht.opens
  rw [List.cons_append] at hread
  simp only [Format.record, readRecord, skipGap_gap hg hgap] at hread
  by_cases hobject : c = '\x7b'
  · obtain ⟨ms, rfl⟩ := hopens.kind.2.2.2 hobject
    generalize ht' : c :: cs = t at ht
    cases ht with
    | @object _ u hu =>
      obtain ⟨rfl, rfl⟩ := List.cons.inj ht'
      rw [if_pos rfl, List.append_assoc, List.singleton_append] at hread
      have hsettles := readMembers_settles hdistinct huniform hu hread
      exact .inl ⟨ms, rfl, fun f hf => (hsettles f hf).2 (by simp)⟩
  · rw [if_neg hobject] at hread
    by_cases hlist : c = '['
    · obtain ⟨vs, rfl⟩ := hopens.kind.2.2.1 hlist
      generalize ht' : c :: cs = t at ht
      cases ht with
      | @list _ u hu =>
        obtain ⟨rfl, rfl⟩ := List.cons.inj ht'
        rw [if_pos rfl, List.append_assoc, List.singleton_append] at hread
        exact .inr ⟨vs, rfl, readItems_given huniform hrequired 0 hu hread⟩
    · rw [if_neg hlist] at hread
      cases hread

/-! ## Whole texts -/

/-- Whatever is wrong with a text, the failure is of one kind. -/
theorem code_of_read {r : Reader α} {text : String} {f : Failure} (h : read r text = .error f) :
    f.code = "INTERNAL_ERROR" := by
  rw [read] at h
  cases hall : readAll r text.toList with
  | error e =>
    rw [hall] at h
    cases h
    rfl
  | ok a =>
    rw [hall] at h
    cases h

/-- What is read from a whole text of a value is read from the value. -/
theorem reads_of_read {r : Reader α} {v : Value} {g t g' : List Char} (hg : Gap g)
    (ht : Spells v t) (hg' : Gap g') {a : α}
    (h : read r (String.ofList (g ++ (t ++ g'))) = .ok a) : Reads r v a := by
  rw [read, String.toList_ofList, readAll] at h
  cases hread : r (g ++ (t ++ g')) with
  | error e =>
    rw [hread] at h
    cases h
  | ok p =>
    obtain ⟨b, rest⟩ := p
    refine ⟨g, t, g', rest, hg, ht, hg'.endsNumber, hread.trans ?_⟩
    rw [hread] at h
    simp only at h
    split at h <;> cases h
    rfl

end UserRegistry.Json
