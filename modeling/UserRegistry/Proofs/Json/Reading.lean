import UserRegistry.Proofs.Document.Records
import UserRegistry.Proofs.Json.Skipping

/-!
# Reading well-formed values

A reader takes a value (`Takes`) if it gives the same for every text of the value, with any blanks
before it, and stops right after it. The readers of single words take the leaves of a document, and
`takes_record` composes them along the members of an object: members of other names are passed
over, the fields may stand in any order, and each change is made once. These are the laws of the
format (`laws`).
-/

namespace UserRegistry.Json

open Keyed (under)

/-! ## Texts -/

theorem textFrom_pending (u before rest : List Char) :
    textFrom u.length before (u ++ rest) = textFrom 0 before rest := by
  induction u with
  | nil => rfl
  | cons c u ih => exact ih

theorem textFrom_escape {c : Char} {u rest : List Char}
    (h : escape (u ++ rest) = .ok (c, u.length)) (before : List Char) :
    textFrom 0 before ('\\' :: (u ++ rest)) = textFrom 0 (c :: before) rest := by
  rw [textFrom, if_neg (by decide), if_pos rfl, h]
  exact textFrom_pending u (c :: before) rest

theorem escape_short {c d : Char} (h : (d, c) ∈ shortEscapes) (rest : List Char) :
    escape (d :: rest) = .ok (c, 1) := by
  have hall : ∀ p ∈ shortEscapes, escape (p.1 :: rest) = .ok (p.2, 1) := by
    simp [shortEscapes, escape]
  exact hall (d, c) h

theorem escape_quad {c : Char} {ds : List Char} (h : IsQuad ds c.toNat) (rest : List Char) :
    escape ('u' :: (ds ++ rest)) = .ok (c, 5) := by
  -- no character is itself a half of one
  have hvalid : c.toNat < 0xd800 ∨ (0xdfff < c.toNat ∧ c.toNat < 0x110000) := c.valid
  have hlow : ¬ (0xdc00 ≤ c.toNat ∧ c.toNat ≤ 0xdfff) := by omega
  have hhigh : ¬ (0xd800 ≤ c.toNat ∧ c.toNat ≤ 0xdbff) := by omega
  simp [escape, hexQuad_quad h, hlow, hhigh]

/-- Two halves make one character. -/
theorem escape_quads {hs ls : List Char} {high low : Nat} (hhigh : IsQuad hs high)
    (hlow : IsQuad ls low) (hhighs : 0xd800 ≤ high ∧ high ≤ 0xdbff)
    (hlows : 0xdc00 ≤ low ∧ low ≤ 0xdfff) (rest : List Char) :
    escape ('u' :: (hs ++ '\\' :: 'u' :: (ls ++ rest))) =
      .ok (Char.ofNat (0x10000 + (high - 0xd800) * 0x400 + (low - 0xdc00)), 11) := by
  have hdrop : (hs ++ '\\' :: 'u' :: (ls ++ rest)).drop 4 = '\\' :: 'u' :: (ls ++ rest) := by
    rw [← hhigh.length, List.drop_left]
  have hnotLow : ¬ (0xdc00 ≤ high ∧ high ≤ 0xdfff) := by omega
  have hbad : ¬ (low < 0xdc00 ∨ 0xdfff < low) := by omega
  simp [escape, hexQuad_quad hhigh, hnotLow, hhighs, hdrop, lowHalf, hexQuad_quad hlow, hbad,
    Except.map]

/-- However a character is written, it is read as what it is. -/
theorem textFrom_spellsChar {c : Char} {u : List Char} (h : SpellsChar c u)
    (before rest : List Char) : textFrom 0 before (u ++ rest) = textFrom 0 (c :: before) rest := by
  cases h with
  | plain hquote hbackslash hcontrol =>
    have hcontrol : ¬ c.toNat < 32 := by omega
    simp [textFrom, hquote, hbackslash, hcontrol]
  | @short d h =>
    have hescape : escape ([d] ++ rest) = .ok (c, 1) := escape_short h rest
    exact textFrom_escape hescape before
  | @quad ds h =>
    have hescape : escape ('u' :: ds ++ rest) = .ok (c, ('u' :: ds).length) := by
      rw [List.length_cons, h.length]
      exact escape_quad h rest
    exact textFrom_escape hescape before
  | @quads hs ls high low hhigh hlow hhighs hlows h =>
    have hescape : escape ('u' :: (hs ++ '\\' :: 'u' :: ls) ++ rest) =
        .ok (c, ('u' :: (hs ++ '\\' :: 'u' :: ls)).length) := by
      simp only [List.length_cons, List.length_append, hhigh.length, hlow.length,
        List.cons_append, List.append_assoc, h]
      exact escape_quads hhigh hlow hhighs hlows rest
    exact textFrom_escape hescape before

theorem textFrom_spelled {cs t : List Char} (h : SpellsText cs t) (before rest : List Char) :
    textFrom 0 before (t ++ '"' :: rest) = .ok (String.ofList (before.reverse ++ cs), rest) := by
  induction h generalizing before with
  | nil => simp [textFrom]
  | cons hc _ ih =>
    rw [List.append_assoc, textFrom_spellsChar hc, ih, List.reverse_cons, List.append_assoc,
      List.singleton_append]

theorem textAfterQuote_spelled {s : String} {t : List Char} (h : SpellsText s.toList t)
    (rest : List Char) : textAfterQuote (t ++ '"' :: rest) = .ok (s, rest) := by
  rw [textAfterQuote, textFrom_spelled h, List.reverse_nil, List.nil_append, String.ofList_toList]

/-! ## Leaves -/

/-- A reader takes a value for `a`, however the value is written and whatever follows it. -/
def Takes (r : Reader α) (v : Value) (a : α) : Prop :=
  ∀ ⦃g t rest : List Char⦄, Gap g → Spells v t → EndsNumber rest →
    r (g ++ (t ++ rest)) = .ok (a, rest)

theorem Takes.map (f : α → β) {r : Reader α} {v : Value} {a : α} (h : Takes r v a) :
    Takes (Format.map f r) v (f a) := by
  intro g t rest hg ht hrest
  have hread := h hg ht hrest
  simp only [Format.map, hread]
  rfl

theorem takes_int (i : Int64) :
    Takes Format.int64 (.number (Decimal.ofInt64 i).toList) i := by
  intro g t rest hg ht hrest
  cases ht
  have hread := readInt64_written i hrest
  rw [← hread]
  simp only [Format.int64, readInt64, skipGap_append hg]

theorem readTextAs_spelled {s : String} {g t : List Char} (hg : Gap g)
    (h : SpellsText s.toList t) (expected : String) (rest : List Char) :
    readTextAs expected (g ++ '"' :: (t ++ '"' :: rest)) = .ok (s, rest) := by
  rw [readTextAs, skipGap_gap hg (by decide)]
  exact textAfterQuote_spelled h rest

theorem takes_text (s : String) : Takes Format.text (.text s) s := by
  intro g t rest hg ht hrest
  cases ht with
  | text h =>
    rw [List.cons_append, List.append_assoc]
    exact readTextAs_spelled hg h "a string" rest

theorem takes_flag (b : Bool) : Takes Format.flag (.flag b) b := by
  intro g t rest hg ht hrest
  cases ht
  have hread : readFlag ((flagWord b).toList ++ rest) = .ok (b, rest) := by
    cases b
    · exact congrArg (Except.map (false, ·)) (word_append "alse".toList rest)
    · exact congrArg (Except.map (true, ·)) (word_append "rue".toList rest)
  rw [← hread]
  simp only [Format.flag, readFlag, skipGap_append hg]

theorem takes_oneOf {names : List (String × α)} {s : String} {a : α} (title : String)
    (h : names.lookup s = some a) : Takes (Format.oneOf title names) (.text s) a := by
  intro g t rest hg ht hrest
  cases ht with
  | @text _ t ht =>
    have hread := readTextAs_spelled .nil ht "variant identifier" rest
    rw [List.nil_append] at hread
    rw [List.cons_append, List.append_assoc]
    simp only [Format.oneOf, readOneOf, skipGap_gap hg (c := '"') (by decide), if_true, readName,
      List.singleton_append, hread, h]

/-! ## Records -/

theorem nextKey_spelled {g g' key : List Char} {k : String} (hg : Gap g) (hg' : Gap g')
    (hkey : SpellsText k.toList key) (first : Bool) (rest : List Char) :
    nextKey first (g ++ (comma first ++ (g' ++ '"' :: (key ++ '"' :: rest)))) =
      .ok (some k, rest) := by
  cases first with
  | true =>
    simp only [comma, if_true, List.nil_append]
    rw [nextKey, skipGap_append hg, skipGap_gap hg' (by decide)]
    simp [textAfterQuote_spelled hkey, Except.map]
  | false =>
    simp only [comma, Bool.false_eq_true, if_false, List.singleton_append]
    rw [nextKey, skipGap_gap hg (by decide)]
    simp [skipGap_gap hg' (c := '"') (by decide), textAfterQuote_spelled hkey, Except.map]

theorem nextKey_end {g : List Char} (hg : Gap g) (first : Bool) (rest : List Char) :
    nextKey first (g ++ '\x7d' :: rest) = .ok (none, '\x7d' :: rest) := by
  rw [nextKey, skipGap_gap hg (by decide)]
  rfl

theorem colon_spelled {g : List Char} (hg : Gap g) (rest : List Char) :
    colon (g ++ ':' :: rest) = .ok rest := by
  rw [colon, skipGap_gap hg (by decide)]
  rfl

/-- The members that are still to come change a record through the fields that are not seen yet. -/
def Remaining (cs : List (Change Reader α)) (seen : List String) (ms : List (String × Value)) :
    Prop :=
  ∀ c ∈ cs, (c.1.name ∈ seen → under c.1.name ms = []) ∧
    (c.1.name ∉ seen → Changes Takes ms c)

theorem Remaining.cons {cs : List (Change Reader α)} {seen : List String} {k : String} {v : Value}
    {ms : List (String × Value)} (h : Remaining cs seen ((k, v) :: ms)) :
    Remaining cs (k :: seen) ms := by
  intro c hc
  obtain ⟨hseen, hunseen⟩ := h c hc
  by_cases hk : k = c.1.name
  · subst hk
    refine ⟨fun _ => ?_, fun hnot => absurd (List.mem_cons_self ..) hnot⟩
    by_cases hold : c.1.name ∈ seen
    · have hunder := hseen hold
      rw [Keyed.under_cons, if_pos rfl] at hunder
      cases hunder
    · rcases hunseen hold with ⟨hunder, -⟩ | ⟨w, hunder, -⟩
      · rw [Keyed.under_cons, if_pos rfl] at hunder
        cases hunder
      · rw [Keyed.under_cons, if_pos rfl] at hunder
        exact (List.cons.inj hunder).2
  · simp only [Changes, Keyed.under_cons, if_neg hk] at hseen hunseen
    simp only [List.mem_cons, Ne.symm hk, false_or]
    exact ⟨hseen, hunseen⟩

/-- A member that comes next is the only one for its field, and its value is taken. -/
theorem Remaining.head {cs : List (Change Reader α)} {seen : List String} {v : Value}
    {ms : List (String × Value)} {c : Change Reader α} (hc : c ∈ cs)
    (h : Remaining cs seen ((c.1.name, v) :: ms)) :
    c.1.name ∉ seen ∧ Takes c.1.change v c.2 := by
  obtain ⟨hseen, hunseen⟩ := h c hc
  simp only [Changes, Keyed.under_cons, if_true] at hseen hunseen
  have hnew : c.1.name ∉ seen := fun hold => absurd (hseen hold) (by simp)
  refine ⟨hnew, ?_⟩
  rcases hunseen hnew with ⟨hunder, -⟩ | ⟨w, hunder, hw⟩
  · cases hunder
  · obtain rfl := (List.cons.inj hunder).1
    exact hw

theorem Remaining.skip {cs : List (Change Reader α)} {seen : List String} {k : String} {v : Value}
    {ms : List (String × Value)} (h : Remaining cs seen ((k, v) :: ms))
    (hother : ∀ c ∈ cs, c.1.name ≠ k) : Remaining cs seen ms := by
  intro c hc
  have hc' := h c hc
  simpa only [Changes, Keyed.under_cons, if_neg (hother c hc).symm] using hc'

theorem readMembers_known {fields : List (Field Reader α)} {f : Field Reader α} {k : String}
    {change : α → α} {seen : List String} {first : Bool} {s afterKey afterColon rest : List Char}
    (hkey : nextKey first s = .ok (some k, afterKey)) (hcolon : colon afterKey = .ok afterColon)
    (hfield : fields.find? (fun f => f.name == k) = some f) (hnew : k ∉ seen)
    (hvalue : f.change afterColon = .ok (change, rest)) (fuel : Nat) (a : α) :
    readMembers fields (fuel + 1) first a seen s =
      readMembers fields fuel false (change a) (k :: seen) rest := by
  have hnew : seen.contains k = false := by simpa using hnew
  rw [readMembers, hkey]
  simp only [hfield, hnew, Bool.false_eq_true, if_false, hcolon, Except.bind, hvalue]

theorem readMembers_unknown {fields : List (Field Reader α)} {k : String} {seen : List String}
    {first : Bool} {s afterKey afterColon rest : List Char}
    (hkey : nextKey first s = .ok (some k, afterKey)) (hcolon : colon afterKey = .ok afterColon)
    (hfield : fields.find? (fun f => f.name == k) = none)
    (hvalue : skipValue afterColon = .ok rest) (fuel : Nat) (a : α) :
    readMembers fields (fuel + 1) first a seen s = readMembers fields fuel false a seen rest := by
  rw [readMembers, hkey]
  simp only [hfield, hcolon, Except.bind, hvalue]

theorem readMembers_end {fields : List (Field Reader α)} {seen : List String} {first : Bool}
    {s rest : List Char} (hkey : nextKey first s = .ok (none, '\x7d' :: rest))
    (hgiven : ∀ f ∈ fields, f.required = true → f.name ∈ seen) (fuel : Nat) (a : α) :
    readMembers fields (fuel + 1) first a seen s = .ok (a, rest) := by
  have hgiven : fields.find? (fun f => f.required && !seen.contains f.name) = none := by
    simpa using hgiven
  have hafter : afterObject ('\x7d' :: rest) = rest := by
    rw [afterObject, skipGap_cons (by decide)]
    rfl
  rw [readMembers, hkey]
  simp only [hgiven, hafter]

/-- **The members of an object change a record as its fields say**, whatever other members there
are and in whatever order they stand. -/
theorem readMembers_spelled {cs : List (Change Reader α)} (hind : Independent cs)
    {ms : List (String × Value)} {first : Bool} {u : List Char} (h : SpellsMembers first ms u)
    {seen : List String} (hms : Remaining cs seen ms) (fuel : Nat) (a : α) (rest : List Char) :
    readMembers (cs.map Prod.fst) (fuel + ms.length + 1) first a seen (u ++ '\x7d' :: rest) =
      .ok (changed (unseen seen cs) a, rest) := by
  induction ms generalizing first u seen a with
  | nil =>
    cases h with
    | noMember hg =>
      have hmissing : ∀ c ∈ cs, c.1.name ∉ seen → c.1.required = false ∧ c.2 = id := by
        intro c hc hseen
        rcases (hms c hc).2 hseen with ⟨-, h⟩ | ⟨v, hv, -⟩
        · exact h
        · cases hv
      have hgiven : ∀ f ∈ cs.map Prod.fst, f.required = true → f.name ∈ seen := by
        intro f hf hrequired
        obtain ⟨c, hc, rfl⟩ := List.mem_map.1 hf
        by_contra hseen
        rw [(hmissing c hc hseen).1] at hrequired
        cases hrequired
      have hid : ∀ c ∈ unseen seen cs, c.2 = id := fun c hc =>
        (hmissing c (mem_unseen.1 hc).1 (mem_unseen.1 hc).2).2
      rw [changed_id hid]
      exact readMembers_end (nextKey_end hg first rest) hgiven fuel a
  | cons m ms ih =>
    cases h with
    | @member _ k v _ g₁ g₂ key g₃ g₄ t u hg₁ hg₂ hkey hg₃ hg₄ hv hms' =>
      have hends := hms'.endsNumber (c := '\x7d') (by unfold Stops; decide) rest
      have hafterKey := nextKey_spelled hg₁ hg₂ hkey first
        (g₃ ++ ':' :: (g₄ ++ (t ++ (u ++ '\x7d' :: rest))))
      simp only [List.append_assoc, List.cons_append, List.length_cons]
      cases hfind : (cs.map Prod.fst).find? fun f => f.name == k with
      | none =>
        have hother : ∀ c ∈ cs, c.1.name ≠ k := by
          simpa using hfind
        have hskip : skipValue (g₄ ++ (t ++ (u ++ '\x7d' :: rest))) = _ :=
          skipValue_spelled hg₄ hv hends
        exact (readMembers_unknown hafterKey (colon_spelled hg₃ _) hfind hskip _ a).trans
          (ih hms' (hms.skip hother) a)
      | some f =>
        obtain ⟨c, hc, rfl⟩ := List.mem_map.1 (List.mem_of_find?_eq_some hfind)
        obtain rfl : c.1.name = k := by simpa using List.find?_some hfind
        obtain ⟨hnew, htakes⟩ := hms.head hc
        rw [← changed_of_given hind hc hnew]
        exact (readMembers_known hafterKey (colon_spelled hg₃ _) hfind hnew
          (htakes hg₄ hv hends) _ a).trans (ih hms' hms.cons (c.2 a))

theorem SpellsMembers.length_le {first : Bool} {ms : List (String × Value)} {u : List Char}
    (h : SpellsMembers first ms u) : ms.length ≤ u.length := by
  induction ms generalizing first u with
  | nil => exact Nat.zero_le _
  | cons m ms ih =>
    cases h with
    | member _ _ _ _ _ _ hms =>
      have hle := ih hms
      simp only [List.length_cons, List.length_append]
      omega

theorem takes_record (title : String) (blank : α) (cs : List (Change Reader α))
    {ms : List (String × Value)} (hind : Independent cs) (hms : ∀ c ∈ cs, Changes Takes ms c) :
    Takes (Format.record ⟨title, blank, cs.map Prod.fst⟩) (.object ms) (changed cs blank) := by
  intro g t rest hg ht hrest
  cases ht with
  | @object _ u hu =>
    have hle := hu.length_le
    obtain ⟨fuel, hfuel⟩ : ∃ fuel, (u ++ '\x7d' :: rest).length + 1 = fuel + ms.length + 1 :=
      ⟨(u ++ '\x7d' :: rest).length - ms.length, by simp; omega⟩
    have hremaining : Remaining cs [] ms := fun c hc => ⟨by simp, fun _ => hms c hc⟩
    have hunseen : unseen [] cs = cs := by simp [unseen]
    have hread := readMembers_spelled hind hu hremaining fuel blank rest
    rw [hunseen] at hread
    rw [List.cons_append, List.append_assoc, List.singleton_append]
    simp only [Format.record, readRecord, skipGap_gap hg (c := '\x7b') (by decide), if_true, hfuel,
      hread]

/-- The values of a document in text. An integer is written in decimal. -/
def form : Form Value where
  int i := .number (Decimal.ofInt64 i).toList
  text := .text
  flag := .flag
  table := .object

def laws : Format.Laws Reader form where
  Takes := Takes
  map f _ _ _ h := h.map f
  takes_int := takes_int
  takes_text := takes_text
  takes_flag := takes_flag
  takes_oneOf := takes_oneOf
  takes_record := takes_record

/-- **A whole text of a value is read as what its value is taken for.** -/
theorem read_spelled {r : Reader α} {v : Value} {a : α} (h : Takes r v a) {g t g' : List Char}
    (hg : Gap g) (ht : Spells v t) (hg' : Gap g') :
    read r (String.ofList (g ++ (t ++ g'))) = .ok a := by
  have hgap : skipGap (g' ++ []) = [] := skipGap_append hg' []
  rw [List.append_nil] at hgap
  rw [read, String.toList_ofList, readAll, h hg ht hg'.endsNumber]
  simp only [hgap]
  rfl

end UserRegistry.Json
