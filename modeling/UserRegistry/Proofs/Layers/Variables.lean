import UserRegistry.Layers.Overrides
import UserRegistry.Proofs.Layers.Merging

/-!
# Fields in environment variables

The variable for a field is the one whose name is `ROSTER__SECTION__FIELD` in letters of any case.
Where the variables are `Tame`, the layer that they are decides on every field by that one variable
alone (`Tame.at?_putLayer`). For one field it is enough that no other variable addresses it
(`Sets.at?_putLayer`).

Reading two low lines as a point loses nothing as long as there are no points (`lowLines_points`),
so the key of a variable tells its name.
-/

namespace UserRegistry.Layers.Overrides

open UserRegistry.Text

/-! ## Keys -/

/-- A text with two low lines for every point. -/
def lowLines (cs : List Char) : List Char :=
  cs.flatMap fun c => if c = '.' then ['_', '_'] else [c]

theorem lowLines_points {cs : List Char} (h : '.' ∉ cs) : lowLines (points cs) = cs := by
  induction cs using points.induct with
  | case1 cs ih =>
    rw [points, lowLines, List.flatMap_cons, ← lowLines, ih fun hm => h (by simp [hm])]
    rfl
  | case2 c cs hne ih =>
    have hc : c ≠ '.' := fun e => h (by simp [e])
    rw [points, lowLines, List.flatMap_cons, ← lowLines, ih fun hm => h (by simp [hm]), if_neg hc]
    · rfl
    · exact hne
  | case3 => rfl

theorem lowLines_append (cs ds : List Char) : lowLines (cs ++ ds) = lowLines cs ++ lowLines ds := by
  simp [lowLines]

theorem lowLines_eq_nil {cs : List Char} (h : lowLines cs = []) : cs = [] := by
  cases cs with
  | nil => rfl
  | cons c cs =>
    have hc : (if c = '.' then ['_', '_'] else [c]) = [] := (List.append_eq_nil_iff.1 h).1
    split at hc <;> cases hc

/-- The name, in lower case, of the variable with a key. -/
def nameOf (key : String) : List Char :=
  nameStart ++ lowLines key.toList

theorem key?_eq_some {name k : String} (h : key? name = some k)
    (hpoint : '.' ∉ (lowercase name).toList) : (lowercase name).toList = nameOf k := by
  simp only [key?] at h
  split at h
  · rename_i hprefix
    obtain ⟨rest, hrest⟩ := List.isPrefixOf_iff_prefix.1 hprefix
    obtain rfl := Option.some.inj h
    have hdrop : (lowercase name).toList.drop nameStart.length = rest := by
      rw [← hrest, List.drop_left]
    have hrestPoint : '.' ∉ rest := fun hm => hpoint (by rw [← hrest]; simp [hm])
    rw [nameOf, String.toList_ofList, hdrop, lowLines_points hrestPoint, hrest]
  · cases h

/-! ## The variable of a field -/

/-- The name, in lower case, of the variable for a field. -/
def variableOf (s f : String) : String :=
  "roster__" ++ s ++ "__" ++ f

/-- The text of the variable for a field, if it is set. -/
def variableText? (vs : Variables) (s f : String) : Option String :=
  (vs.entries.find? fun e => lowercase e.1 = variableOf s f).map Prod.snd

/-- Whether the name of a variable starts like one that holds a setting. -/
def holdsSetting (name : String) : Bool :=
  nameStart.isPrefixOf (lowercase name).toList

/-- Variables that hold settings have names of letters and digits of ASCII and low lines, each in
one spelling only; none is for a section as a whole, and none for something below a field. -/
structure Tame (vs : Variables) : Prop where
  letters : ∀ e ∈ vs.entries, holdsSetting e.1 = true →
    e.1.toList.all (fun c => isAsciiLetterOrDigit c || c == '_') = true
  distinct : ∀ e ∈ vs.entries, ∀ e' ∈ vs.entries, holdsSetting e.1 = true →
    lowercase e.1 = lowercase e'.1 → e.1 = e'.1
  noSection : ∀ e ∈ vs.entries, ∀ s ∈ sections, lowercase e.1 ≠ "roster__" ++ s
  noneBelow : ∀ e ∈ vs.entries, ∀ p ∈ fields,
    (variableOf p.1 p.2 ++ "__").toList.isPrefixOf (lowercase e.1).toList = true →
      lowercase e.1 = variableOf p.1 p.2 ++ "__"

instance (vs : Variables) : Decidable (Tame vs) :=
  decidable_of_iff ((∀ e ∈ vs.entries, holdsSetting e.1 = true →
      e.1.toList.all (fun c => isAsciiLetterOrDigit c || c == '_') = true) ∧
      (∀ e ∈ vs.entries, ∀ e' ∈ vs.entries, holdsSetting e.1 = true →
        lowercase e.1 = lowercase e'.1 → e.1 = e'.1) ∧
      (∀ e ∈ vs.entries, ∀ s ∈ sections, lowercase e.1 ≠ "roster__" ++ s) ∧
      ∀ e ∈ vs.entries, ∀ p ∈ fields,
        (variableOf p.1 p.2 ++ "__").toList.isPrefixOf (lowercase e.1).toList = true →
          lowercase e.1 = variableOf p.1 p.2 ++ "__")
    ⟨fun ⟨a, b, c, d⟩ => ⟨a, b, c, d⟩, fun ⟨a, b, c, d⟩ => ⟨a, b, c, d⟩⟩

/-- The lower case of a letter or digit of ASCII, or of a low line. -/
theorem asciiLower_of_letter {c : Char} (h : isAsciiLetterOrDigit c = true ∨ c = '_') :
    c.toNat < 0x80 ∧ (asciiLower c).toNat < 0x80 ∧ isAsciiCapital (asciiLower c) = false ∧
      asciiLower c ≠ '.' ∧ asciiLower c ≠ '[' := by
  have hall : ∀ n < 0x80, isAsciiLetterOrDigit (Char.ofNat n) = true ∨ Char.ofNat n = '_' →
      (asciiLower (Char.ofNat n)).toNat < 0x80 ∧
        isAsciiCapital (asciiLower (Char.ofNat n)) = false ∧
        asciiLower (Char.ofNat n) ≠ '.' ∧ asciiLower (Char.ofNat n) ≠ '[' := by decide +kernel
  have hc : c.toNat < 0x80 := by
    rcases h with h | rfl
    · simp only [isAsciiLetterOrDigit, isAsciiLetter, isDigit, Bool.or_eq_true, Bool.and_eq_true,
        decide_eq_true_eq, Char.le_def, UInt32.le_iff_toNat_le] at h
      have hz : 'z'.val.toNat = 122 := rfl
      have hZ : 'Z'.val.toNat = 90 := rfl
      have h9 : '9'.val.toNat = 57 := rfl
      have hval : c.val.toNat = c.toNat := rfl
      omega
    · decide
  have h' := hall c.toNat hc
  rw [Char.ofNat_toNat] at h'
  exact ⟨hc, h' h⟩

/-- A variable that holds a setting, with what its key is made of. -/
theorem Tame.setting {vs : Variables} (h : Tame vs) {e : String × String} (he : e ∈ vs.entries)
    {k : String} {v : Tree} (hk : setting? e = some (k, v)) :
    v = .scalar (some origin) (scalar e.2) ∧ (lowercase e.1).toList = nameOf k ∧
      Lower k.toList ∧ '[' ∉ k.toList := by
  obtain ⟨k', hkey, hpair⟩ := Option.map_eq_some_iff.1 hk
  obtain ⟨rfl, rfl⟩ := Prod.mk.inj hpair
  have hholds : holdsSetting e.1 = true := by
    simp only [key?] at hkey
    split at hkey
    · assumption
    · cases hkey
  have hletters : ∀ c ∈ e.1.toList, isAsciiLetterOrDigit c = true ∨ c = '_' := by
    simpa using h.letters e he hholds
  have hlower : (lowercase e.1).toList = e.1.toList.map asciiLower :=
    toList_lowercase fun c hc => (asciiLower_of_letter (hletters c hc)).1
  have hchars : ∀ d ∈ (lowercase e.1).toList,
      d.toNat < 0x80 ∧ isAsciiCapital d = false ∧ d ≠ '.' ∧ d ≠ '[' := by
    intro d hd
    rw [hlower] at hd
    obtain ⟨c, hc, rfl⟩ := List.mem_map.1 hd
    exact (asciiLower_of_letter (hletters c hc)).2
  have hname := key?_eq_some hkey fun hm => (hchars _ hm).2.2.1 rfl
  have hmem : ∀ d ∈ k'.toList, d ≠ '.' → d ∈ (lowercase e.1).toList := by
    intro d hd hne
    rw [hname, nameOf, lowLines]
    exact List.mem_append_right _ (List.mem_flatMap.2 ⟨d, hd, by simp [hne]⟩)
  refine ⟨rfl, hname, fun d hd => ?_, fun hm => ?_⟩
  · by_cases hne : d = '.'
    · subst hne
      decide
    · have hd := hchars d (hmem d hd hne)
      exact ⟨hd.1, hd.2.1⟩
  · exact (hchars _ (hmem _ hm (by decide))).2.2.2 rfl

theorem names_of_fields : ∀ p ∈ fields,
    Step.ofText (p.1 ++ "." ++ p.2) = [.name p.1, .name p.2] ∧
      nameOf (p.1 ++ "." ++ p.2) = (variableOf p.1 p.2).toList ∧
      nameOf (p.1 ++ "." ++ p.2 ++ ".") = (variableOf p.1 p.2 ++ "__").toList ∧
      nameStart.isPrefixOf (variableOf p.1 p.2).toList = true ∧
      String.ofList (points ((variableOf p.1 p.2).toList.drop nameStart.length)) =
        p.1 ++ "." ++ p.2 := by
  decide +kernel

theorem reaches_of_fields : ∀ p ∈ fields,
    Tree.reaches p.1 p.2 (Step.ofText (p.1 ++ "." ++ p.2)) = true := by
  decide +kernel

theorem names_of_sections : ∀ s ∈ sections, nameOf s = ("roster__" ++ s).toList := by
  decide

/-- A variable has the key of a field exactly when it is the variable of that field. -/
theorem Tame.key_eq_iff {vs : Variables} (h : Tame vs) {e : String × String} (he : e ∈ vs.entries)
    {k : String} {v : Tree} (hk : setting? e = some (k, v)) {p : String × String}
    (hp : p ∈ fields) : k = p.1 ++ "." ++ p.2 ↔ lowercase e.1 = variableOf p.1 p.2 := by
  obtain ⟨-, hname, -, hstart, hpoints⟩ := names_of_fields p hp
  obtain ⟨-, hkey, -, -⟩ := h.setting he hk
  constructor
  · rintro rfl
    exact String.toList_inj.1 (hkey.trans hname)
  · intro hlower
    obtain ⟨k', hk', hpair⟩ := Option.map_eq_some_iff.1 hk
    obtain ⟨rfl, -⟩ := Prod.mk.inj hpair
    simp only [key?, hlower, hstart, if_true, hpoints] at hk'
    exact (Option.some.inj hk').symm

theorem Tame.not_section {vs : Variables} (h : Tame vs) {e : String × String} (he : e ∈ vs.entries)
    {k : String} {v : Tree} (hk : setting? e = some (k, v)) : k ∉ sections := by
  intro hs
  obtain ⟨-, hkey, -, -⟩ := h.setting he hk
  rw [names_of_sections k hs] at hkey
  exact h.noSection e he k hs (String.toList_inj.1 hkey)

theorem Tame.not_below {vs : Variables} (h : Tame vs) {e : String × String} (he : e ∈ vs.entries)
    {k : String} {v : Tree} (hk : setting? e = some (k, v)) {p : String × String}
    (hp : p ∈ fields) {rest : List Char}
    (hrest : k.toList = (p.1 ++ "." ++ p.2 ++ ".").toList ++ rest) : rest = [] := by
  obtain ⟨-, hkey, -, -⟩ := h.setting he hk
  obtain ⟨-, -, hname, -, -⟩ := names_of_fields p hp
  have happend : (lowercase e.1).toList = (variableOf p.1 p.2 ++ "__").toList ++ lowLines rest := by
    rw [← hname, hkey, nameOf, nameOf, hrest, lowLines_append, List.append_assoc]
  have hprefix : (variableOf p.1 p.2 ++ "__").toList <+: (lowercase e.1).toList :=
    ⟨lowLines rest, happend.symm⟩
  have hequal := h.noneBelow e he p hp (List.isPrefixOf_iff_prefix.2 hprefix)
  rw [hequal] at happend
  exact lowLines_eq_nil (List.append_right_eq_self.1 happend.symm)

/-- No two tame variables have one key. -/
theorem Tame.layer_eq {vs : Variables} (h : Tame vs) :
    layer vs = vs.entries.filterMap setting? := by
  refine Keyed.ofList_of_nodup ?_
  unfold List.Nodup
  rw [List.pairwise_map, List.pairwise_filterMap]
  have hentries := List.pairwise_map.1 vs.distinct
  refine hentries.imp_of_mem fun {a b} ha hb hne x hx y hy e => ?_
  obtain ⟨k, v⟩ := x
  obtain ⟨k', v'⟩ := y
  obtain rfl : k = k' := e
  obtain ⟨-, hka, -, -⟩ := h.setting ha hx
  obtain ⟨-, hkb, -, -⟩ := h.setting hb hy
  have hholds : holdsSetting a.1 = true := by
    rw [holdsSetting, hka, nameOf]
    exact List.isPrefixOf_iff_prefix.2 (List.prefix_append ..)
  exact hne (h.distinct a ha b hb hholds (String.toList_inj.1 (hka.trans hkb.symm)))

/-! ## The layer -/

/-- What the variable for a field says of it, if it is set. -/
def override? (vs : Variables) (s f : String) : Option Tree :=
  (variableText? vs s f).map fun text => .scalar (some origin) (scalar text)

/-- Variables of other names are no settings. -/
theorem layer_eq_nil {vs : Variables} (h : ∀ e ∈ vs.entries, holdsSetting e.1 = false) :
    layer vs = [] := by
  have hnone : vs.entries.filterMap setting? = [] := by
    refine List.filterMap_eq_nil_iff.2 fun e he => ?_
    have hname := h e he
    rw [holdsSetting] at hname
    simp only [setting?, key?, hname, Bool.false_eq_true, if_false, Option.map_none]
  rw [layer, hnone]
  rfl

theorem setting?_of_variable {e : String × String} {p : String × String} (hp : p ∈ fields)
    (h : lowercase e.1 = variableOf p.1 p.2) :
    setting? e = some (p.1 ++ "." ++ p.2, .scalar (some origin) (scalar e.2)) := by
  obtain ⟨-, -, -, hstart, hpoints⟩ := names_of_fields p hp
  simp only [setting?, key?, h, hstart, if_true, hpoints, Option.map_some]

theorem Tame.lookup_layer {vs : Variables} (h : Tame vs) {p : String × String} (hp : p ∈ fields) :
    (layer vs).lookup (p.1 ++ "." ++ p.2) = override? vs p.1 p.2 := by
  have hall : ∀ es : List (String × String), (∀ e ∈ es, e ∈ vs.entries) →
      (es.filterMap setting?).lookup (p.1 ++ "." ++ p.2) =
        ((es.find? fun e => lowercase e.1 = variableOf p.1 p.2).map Prod.snd).map
          fun text => .scalar (some origin) (scalar text) := by
    intro es hes
    induction es with
    | nil => rfl
    | cons e es ih =>
      have he := hes e (by simp)
      have ih := ih fun e' he' => hes e' (by simp [he'])
      by_cases hvar : lowercase e.1 = variableOf p.1 p.2
      · rw [List.filterMap_cons, setting?_of_variable hp hvar, Keyed.lookup_cons, if_pos rfl,
          List.find?_cons_of_pos (by simpa using hvar)]
        rfl
      · rw [List.find?_cons_of_neg (by simpa using hvar), ← ih, List.filterMap_cons]
        cases hsetting : setting? e with
        | none => rfl
        | some m =>
          obtain ⟨k, v⟩ := m
          have hk : k ≠ p.1 ++ "." ++ p.2 := fun hk => hvar ((h.key_eq_iff he hsetting hp).1 hk)
          rw [Keyed.lookup_cons, if_neg (Ne.symm hk)]
  rw [h.layer_eq]
  exact hall vs.entries fun e he => he

section
variable {vs : Variables} (h : Tame vs) {layer' : List (String × Tree)}
  (hperm : layer'.Perm (layer vs))
include h hperm

/-- **The variable for a field decides on it**, whatever was there and in whatever order the
variables come, and no other variable does. -/
theorem Tame.at?_putLayer {p : String × String} (hp : p ∈ fields) (t : Tree) :
    (t.putLayer layer').at? p.1 p.2 = (override? vs p.1 p.2).or (t.at? p.1 p.2) := by
  obtain ⟨hpath, -, -, -, -⟩ := names_of_fields p hp
  have hstep : ∀ m ∈ layer', ∀ t, (Tree.putAtText m.1 m.2 t).at? p.1 p.2 =
      if m.1 = p.1 ++ "." ++ p.2 then some m.2 else t.at? p.1 p.2 := by
    rintro ⟨k, v⟩ hm t
    obtain ⟨e, he, hk⟩ := exists_of_mem_layer (hperm.mem_iff.1 hm)
    obtain ⟨rfl, -, hlower, hbracket⟩ := h.setting he hk
    have hsection : k ≠ p.1 := fun e' =>
      h.not_section he hk (e' ▸ section_mem_of_field p hp)
    exact Tree.at?_putAtText hlower hbracket rfl hpath hsection (fun rest => h.not_below he hk hp) t
  have hnodup := (hperm.map Prod.fst).nodup_iff.2 (nodup_layer vs)
  rw [Tree.at?_putLayer (fun x _ => some x) hnodup hstep, Keyed.lookup_perm hperm hnodup,
    h.lookup_layer hp]
  cases override? vs p.1 p.2 <;> rfl

theorem Tame.sectioned {t : Tree} (ht : t.Sectioned) : (t.putLayer layer').Sectioned := by
  refine Tree.Sectioned.putLayer ?_ ht
  rintro ⟨k, v⟩ hm t ht
  obtain ⟨e, he, hk⟩ := exists_of_mem_layer (hperm.mem_iff.1 hm)
  obtain ⟨-, -, hlower, hbracket⟩ := h.setting he hk
  exact ht.putAtText hlower hbracket (h.not_section he hk) v

/-- Tame variables ask for no position in a list. -/
theorem Tame.layerPanics (t : Tree) : t.layerPanics layer' = false := by
  refine Tree.layerPanics_names (fun n hn => ?_) t
  obtain ⟨⟨k, v⟩, hm, rfl⟩ := List.mem_map.1 hn
  obtain ⟨e, he, hk⟩ := exists_of_mem_layer (hperm.mem_iff.1 hm)
  obtain ⟨-, -, -, hbracket⟩ := h.setting he hk
  exact hbracket

end

/-! ## One variable by itself -/

/-- Whether a variable may change a field: its key leads to the field, below it, or to the section
as a whole. -/
def addresses (s f name : String) : Bool :=
  match key? name with
  | some k => Tree.reaches s f (Step.ofText k)
  | none => false

/-- The variable for a field has a text, and no other variable changes the field. -/
def Sets (vs : Variables) (s f value : String) : Prop :=
  ∃ e ∈ vs.entries, lowercase e.1 = variableOf s f ∧ e.2 = value ∧
    ∀ e' ∈ vs.entries, e'.1 ≠ e.1 → addresses s f e'.1 = false

instance (vs : Variables) (s f value : String) : Decidable (Sets vs s f value) :=
  inferInstanceAs (Decidable (∃ e ∈ vs.entries, _))

theorem not_reaches_of_not_addresses {s f : String} {e : String × String}
    (h : addresses s f e.1 = false) {k : String} {v : Tree} (hk : setting? e = some (k, v)) :
    Tree.reaches s f (Step.ofText k) = false := by
  obtain ⟨k', hkey, hpair⟩ := Option.map_eq_some_iff.1 hk
  obtain ⟨rfl, -⟩ := Prod.mk.inj hpair
  simpa only [addresses, hkey] using h

/-- The setting of a variable that is alone is there, and no other one changes its field. -/
theorem Sets.mem_layer {vs : Variables} {p : String × String} (hp : p ∈ fields) {value : String}
    (h : Sets vs p.1 p.2 value) :
    (p.1 ++ "." ++ p.2, .scalar (some origin) (scalar value)) ∈ layer vs ∧
      ∀ m ∈ layer vs, m.1 ≠ p.1 ++ "." ++ p.2 →
        Tree.reaches p.1 p.2 (Step.ofText m.1) = false := by
  obtain ⟨e, he, hname, rfl, hothers⟩ := h
  have hsetting := setting?_of_variable hp hname
  have hother : ∀ e' ∈ vs.entries, ∀ m, setting? e' = some m →
      m = (p.1 ++ "." ++ p.2, .scalar (some origin) (scalar e.2)) ∨
        Tree.reaches p.1 p.2 (Step.ofText m.1) = false := by
    intro e' he' m hm
    by_cases hne : e'.1 = e.1
    · have hvalue : e'.2 = e.2 := by
        have hlookup := Keyed.lookup_of_mem vs.distinct he'
        rw [hne, Keyed.lookup_of_mem vs.distinct he] at hlookup
        exact (Option.some.inj hlookup).symm
      have hsame : e' = e := Prod.ext hne hvalue
      rw [hsame, hsetting] at hm
      exact .inl (Option.some.inj hm).symm
    · exact .inr (not_reaches_of_not_addresses (hothers e' he' hne) hm)
  have hself : Tree.reaches p.1 p.2 (Step.ofText (p.1 ++ "." ++ p.2)) = true :=
    reaches_of_fields p hp
  constructor
  · refine Keyed.mem_ofList_of_alone (List.mem_filterMap.2 ⟨e, he, hsetting⟩) fun m hm hkey => ?_
    obtain ⟨e', he', hm⟩ := List.mem_filterMap.1 hm
    refine (hother e' he' m hm).resolve_right fun hreach => ?_
    rw [hkey, hself] at hreach
    cases hreach
  · intro m hm hkey
    obtain ⟨e', he', hm⟩ := exists_of_mem_layer hm
    exact (hother e' he' m hm).resolve_left fun heq => hkey (congrArg Prod.fst heq)

/-- **A variable that is alone decides on its field**, whatever all other variables are and in
whatever order they come. -/
theorem Sets.at?_putLayer {vs : Variables} {p : String × String} (hp : p ∈ fields) {value : String}
    (h : Sets vs p.1 p.2 value) {layer' : List (String × Tree)} (hperm : layer'.Perm (layer vs))
    (t : Tree) : (t.putLayer layer').at? p.1 p.2 = some (.scalar (some origin) (scalar value)) := by
  obtain ⟨hmem, hothers⟩ := h.mem_layer hp
  obtain ⟨hpath, -⟩ := names_of_fields p hp
  have hlower : ∀ p ∈ fields, lowercase p.1 = p.1 ∧ lowercase p.2 = p.2 := by decide
  obtain ⟨before, after, rfl⟩ := List.append_of_mem (hperm.mem_iff.2 hmem)
  have hkeys := (hperm.map Prod.fst).nodup_iff.2 (nodup_layer vs)
  rw [List.map_append, List.map_cons] at hkeys
  have hafter : ∀ m ∈ after, Tree.reaches p.1 p.2 (Step.ofText m.1) = false := by
    intro m hm
    refine hothers m (hperm.mem_iff.1 (by simp [hm])) fun hkey => ?_
    exact (List.nodup_cons.1 (List.nodup_append.1 hkeys).2.1).1 (List.mem_map.2 ⟨m, hm, hkey⟩)
  -- Whatever the variables before it did, it sets the field anew, and those after it pass by.
  rw [Tree.putLayer, List.foldl_append, List.foldl_cons]
  refine (Tree.at?_putLayer_of_not_reaches hafter _).trans ?_
  rw [Tree.putAtText, hpath]
  exact Tree.at?_putAt_self (hlower p hp).1 (hlower p hp).2 rfl _

end UserRegistry.Layers.Overrides
