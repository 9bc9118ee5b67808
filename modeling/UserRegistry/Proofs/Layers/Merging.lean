import UserRegistry.Layers.Path
import UserRegistry.Proofs.Text.Ascii

/-!
# What merging does to one field

The settings are two names deep: a section and a field in it. `Tree.at?` looks there, and each
lemma says what one way of growing the tree does to what is found. A layer of values decides on a
field by what it holds for that field alone: `at?_putLayer`.

Sections stay tables all the while (`Sectioned`), which is what reading them needs.
-/

namespace UserRegistry.Layers

def sections : List String := ["app", "service", "demo", "observability"]

def fields : List (String × String) :=
  [("app", "name"), ("app", "version"), ("app", "environment"), ("service", "backend"),
    ("demo", "id"), ("demo", "name"), ("demo", "email"), ("observability", "log_filter"),
    ("observability", "json_logs")]

theorem section_mem_of_field : ∀ p ∈ fields, p.1 ∈ sections := by decide

namespace Tree

def member? (t : Tree) (name : String) : Option Tree :=
  t.members.lookup name

def at? (t : Tree) (s f : String) : Option Tree :=
  (t.member? s).bind fun x => x.member? f

def isTable : Tree → Bool
  | table _ _ => true
  | _ => false

/-! ## One name -/

theorem member?_changeMember (name : String) (start : Tree) (change : Tree → Tree) (t : Tree)
    (k : String) : (changeMember name start change t).member? k =
      if k = name then some (change ((t.member? name).getD start)) else t.member? k := by
  cases t with
  | scalar o v => exact Keyed.lookup_put ..
  | list o ts => exact Keyed.lookup_put ..
  | table o ms => exact Keyed.lookup_put ..

theorem isTable_changeMember (name : String) (start : Tree) (change : Tree → Tree) (t : Tree) :
    (changeMember name start change t).isTable = true := by
  cases t <;> rfl

/-- What comes of a value that is put where something may be already: a table is merged into it,
anything else takes its place. -/
def onto : Tree → Option Tree → Tree
  | table _ ms, old => putAll ms (old.getD empty)
  | v, _ => v

theorem onto_of_not_table {v : Tree} (h : v.isTable = false) (old : Option Tree) :
    v.onto old = v := by
  cases v with
  | scalar o x => rfl
  | list o ts => rfl
  | table o ms => cases h

theorem member?_put (n : String) (v t : Tree) (k : String) : (put n v t).member? k =
    if k = Text.lowercase n then some (v.onto (t.member? k)) else t.member? k := by
  by_cases h : k = Text.lowercase n
  · subst h
    rw [if_pos rfl]
    cases v with
    | scalar o x =>
      rw [put, member?_changeMember, if_pos rfl]
      rfl
    | list o ts =>
      rw [put, member?_changeMember, if_pos rfl]
      rfl
    | table o ms =>
      rw [put, member?_changeMember, if_pos rfl]
      rfl
  · rw [if_neg h]
    cases v with
    | scalar o x => rw [put, member?_changeMember, if_neg h]
    | list o ts => rw [put, member?_changeMember, if_neg h]
    | table o ms => rw [put, member?_changeMember, if_neg h]

theorem member?_put_of_ne {n k : String} (h : k ≠ Text.lowercase n) (v t : Tree) :
    (put n v t).member? k = t.member? k := by
  rw [member?_put, if_neg h]

/-- What is no table takes the place of what was there. -/
theorem member?_put_self {n : String} {v : Tree} (h : v.isTable = false) (t : Tree) :
    (put n v t).member? (Text.lowercase n) = some v := by
  rw [member?_put, if_pos rfl, onto_of_not_table h]

theorem isTable_put (n : String) (v t : Tree) : (put n v t).isTable = true := by
  cases v with
  | scalar o x => rw [put, isTable_changeMember]
  | list o ts => rw [put, isTable_changeMember]
  | table o ms => rw [put, isTable_changeMember]

theorem isTable_putAll {ms : List (String × Tree)} {t : Tree} (h : t.isTable = true) :
    (putAll ms t).isTable = true := by
  induction ms generalizing t with
  | nil => exact h
  | cons m ms ih => exact ih (isTable_put ..)

/-- Of several values with distinct names, the one of a name decides on it. -/
theorem member?_putAll {ms : List (String × Tree)} (hnames : (ms.map Prod.fst).Nodup)
    (hlower : ∀ m ∈ ms, Text.lowercase m.1 = m.1) (t : Tree) (k : String) :
    (putAll ms t).member? k =
      ((ms.lookup k).map fun v => v.onto (t.member? k)).or (t.member? k) := by
  induction ms generalizing t with
  | nil => rfl
  | cons m ms ih =>
    obtain ⟨n, v⟩ := m
    obtain ⟨hn, hnames⟩ := List.nodup_cons.1 hnames
    have hnl : Text.lowercase n = n := hlower (n, v) (by simp)
    rw [putAll, ih hnames (fun m hm => hlower m (by simp [hm])), Keyed.lookup_cons, member?_put,
      hnl]
    by_cases hkn : k = n
    · subst hkn
      rw [Keyed.lookup_eq_none_iff.2 hn, if_pos rfl, if_pos rfl]
      rfl
    · rw [if_neg hkn, if_neg hkn]

/-! ## Paths -/

/-- A text without brackets is names with points between them, as a path too. -/
theorem stepsFrom_names {fuel : Nat} {s : List Char} {steps : List Step} (hbracket : '[' ∉ s)
    (h : Step.stepsFrom fuel s = some steps) :
    ∃ names : List String, steps = names.map .name ∧ s = names.flatMap ('.' :: ·.toList) ∧
      "" ∉ names := by
  induction fuel generalizing s steps with
  | zero => simp [Step.stepsFrom] at h
  | succ fuel ih =>
    unfold Step.stepsFrom at h
    split at h
    · cases h
    · obtain rfl := Option.some.inj h
      exact ⟨[], rfl, rfl, by simp⟩
    · rename_i fuel' rest heq
      obtain rfl := Nat.succ.inj heq
      simp only at h
      split at h
      · cases h
      · rename_i hempty
        obtain ⟨more, hmore, rfl⟩ := Option.map_eq_some_iff.1 h
        have hsplit := List.takeWhile_append_dropWhile (p := Step.isNameChar) (l := rest)
        have hrest : '[' ∉ rest.dropWhile Step.isNameChar := fun hm =>
          hbracket (List.mem_cons_of_mem _ ((List.dropWhile_sublist _).subset hm))
        obtain ⟨names, rfl, hnames, hne⟩ := ih hrest hmore
        have hfirst : "" ≠ String.ofList (rest.takeWhile Step.isNameChar) := by
          intro e
          have hnil := (congrArg String.toList e).trans String.toList_ofList
          exact hempty (List.isEmpty_iff.2 hnil.symm)
        refine ⟨String.ofList (rest.takeWhile Step.isNameChar) :: names, rfl, ?_, ?_⟩
        · rw [List.flatMap_cons, ← hnames, String.toList_ofList, List.cons_append, hsplit]
        · simp [hfirst, hne]
    · exact absurd (by simp) hbracket
    · cases h

theorem ofText_names {text : String} (hbracket : '[' ∉ text.toList) :
    ∃ (n : String) (ns : List String), Step.ofText text = .name n :: ns.map .name ∧
      text.toList = n.toList ++ ns.flatMap ('.' :: ·.toList) ∧ "" ∉ ns := by
  have hplain : text.toList = text.toList ++ ([] : List String).flatMap ('.' :: ·.toList) := by simp
  unfold Step.ofText
  simp only
  split
  · exact ⟨text, [], rfl, hplain, by simp⟩
  cases h : Step.stepsFrom (text.toList.length + 1) (text.toList.dropWhile Step.isNameChar) with
  | none => exact ⟨text, [], rfl, hplain, by simp⟩
  | some steps =>
    have hsplit := List.takeWhile_append_dropWhile (p := Step.isNameChar) (l := text.toList)
    have hrest : '[' ∉ text.toList.dropWhile Step.isNameChar := fun hm =>
      hbracket ((List.dropWhile_sublist _).subset hm)
    obtain ⟨names, rfl, hnames, hne⟩ := stepsFrom_names hrest h
    refine ⟨String.ofList (text.toList.takeWhile Step.isNameChar), names, rfl, ?_, hne⟩
    rw [← hnames, String.toList_ofList, hsplit]

/-- A text without points or brackets is one name. -/
theorem ofText_plain {text : String} (hpoint : '.' ∉ text.toList) (hbracket : '[' ∉ text.toList) :
    Step.ofText text = [.name text] := by
  obtain ⟨n, ns, hsteps, htext, -⟩ := ofText_names hbracket
  cases ns with
  | nil =>
    obtain rfl : text = n := String.toList_inj.1 (by simpa using htext)
    exact hsteps
  | cons m ms => exact absurd (by simp [htext]) hpoint

/-- A path of names asks for no position in a list. -/
theorem panicsAt_names (ns : List String) (t : Tree) : panicsAt (ns.map .name) t = false := by
  induction ns generalizing t with
  | nil => rfl
  | cons n ns ih => exact ih _

theorem layerPanics_names {layer : List (String × Tree)}
    (h : ∀ n ∈ layer.map Prod.fst, '[' ∉ n.toList) (t : Tree) : t.layerPanics layer = false := by
  induction layer generalizing t with
  | nil => rfl
  | cons m layer ih =>
    obtain ⟨hm, hlayer⟩ := List.forall_mem_cons.1 h
    obtain ⟨n, ns, hsteps, -⟩ := ofText_names hm
    have hpath : panicsAt (Step.ofText m.1) t = false := by
      rw [hsteps, ← List.map_cons]
      exact panicsAt_names (n :: ns) t
    rw [layerPanics, hpath, ih hlayer]
    rfl

theorem member?_putAt_of_ne {n k : String} (h : k ≠ Text.lowercase n) (v : Tree)
    (steps : List Step) (t : Tree) : (putAt v (.name n :: steps) t).member? k = t.member? k := by
  cases steps with
  | nil => exact member?_put_of_ne h v t
  | cons s steps => rw [putAt, member?_changeMember, if_neg h]

theorem isTable_putAt (v : Tree) (n : String) (steps : List Step) (t : Tree) :
    (putAt v (.name n :: steps) t).isTable = true := by
  cases steps with
  | nil => exact isTable_put ..
  | cons s steps => exact isTable_changeMember ..

/-! ## One field -/

/-- Whether what is put at a path may change a field: the path leads to the field or below it, to
its section as a whole, or to an item in the place of the section. -/
def reaches (s f : String) : List Step → Bool
  | [] => false
  | .name n :: .name m :: _ => Text.lowercase n = s && Text.lowercase m = f
  | .name n :: _ => Text.lowercase n = s
  | .position _ _ :: _ => true

variable {s f : String} {v : Tree}

/-- A field that a path does not reach stays as it is. -/
theorem at?_putAt_of_not_reaches {steps : List Step} (h : reaches s f steps = false) (v t : Tree) :
    (putAt v steps t).at? s f = t.at? s f := by
  have hpast {n : String} {rest : List Step} (hn : Text.lowercase n ≠ s) :
      (putAt v (.name n :: rest) t).at? s f = t.at? s f := by
    rw [at?, at?, member?_putAt_of_ne (Ne.symm hn)]
  match steps with
  | [] => rfl
  | .position _ _ :: _ => cases h
  | [.name n] => exact hpast (by simpa [reaches] using h)
  | .name n :: .position _ _ :: _ => exact hpast (by simpa [reaches] using h)
  | .name n :: .name m :: rest =>
    by_cases hn : Text.lowercase n = s
    · have hm : f ≠ Text.lowercase m := fun e => by simp [reaches, hn, e] at h
      have hold : ((t.member? s).getD void).member? f =
          (t.member? s).bind fun x => x.member? f := by
        cases t.member? s <;> rfl
      rw [putAt, at?, at?, member?_changeMember, hn, if_pos rfl, Option.bind_some,
        member?_putAt_of_ne hm, hold]
    · exact hpast hn

/-- A value without parts is found at the place that it was put at, whatever was there. -/
theorem at?_putAt_self (hs : Text.lowercase s = s) (hf : Text.lowercase f = f)
    (hv : v.isTable = false) (t : Tree) : (putAt v [.name s, .name f] t).at? s f = some v := by
  have hself := member?_put_self (n := f) hv ((t.member? s).getD void)
  rw [hf] at hself
  rw [putAt, at?, hs, member?_changeMember, if_pos rfl, Option.bind_some, putAt, hself]

/-- A value without parts, put at a path, decides on the field of that path and on no other. The
path must neither end at the section nor go on below the field. -/
theorem at?_putAtText {k : String} (hlower : Text.Lower k.toList) (hbracket : '[' ∉ k.toList)
    (hv : v.isTable = false) (hpath : Step.ofText (s ++ "." ++ f) = [.name s, .name f])
    (hsection : k ≠ s)
    (hbelow : ∀ rest, k.toList = (s ++ "." ++ f ++ ".").toList ++ rest → rest = []) (t : Tree) :
    (putAtText k v t).at? s f = if k = s ++ "." ++ f then some v else t.at? s f := by
  have hdot : ".".toList = ['.'] := rfl
  by_cases hk : k = s ++ "." ++ f
  · subst hk
    have hs : Text.lowercase s = s := Text.lowercase_of_lower fun c hc => hlower c (by simp [hc])
    have hf : Text.lowercase f = f := Text.lowercase_of_lower fun c hc => hlower c (by simp [hc])
    rw [if_pos rfl, putAtText, hpath, at?_putAt_self hs hf hv]
  · obtain ⟨n, ns, hsteps, htext, hne⟩ := ofText_names hbracket
    have hn : Text.lowercase n = n :=
      Text.lowercase_of_lower fun c hc => hlower c (by simp [htext, hc])
    rw [if_neg hk, putAtText, hsteps]
    refine at?_putAt_of_not_reaches ?_ v t
    cases ns with
    | nil =>
      obtain rfl : k = n := String.toList_inj.1 (by simpa using htext)
      simpa [reaches, hn] using hsection
    | cons m ms =>
      have hm : Text.lowercase m = m :=
        Text.lowercase_of_lower fun c hc => hlower c (by simp [htext, hc])
      simp only [List.map_cons, reaches, hn, hm, Bool.and_eq_false_imp, decide_eq_true_eq,
        decide_eq_false_iff_not]
      rintro rfl rfl
      cases ms with
      | nil => exact hk (String.toList_inj.1 (by simp [htext, hdot]))
      | cons m' ms =>
        have hrest := hbelow (m'.toList ++ ms.flatMap ('.' :: ·.toList)) (by simp [htext, hdot])
        have hm' : m' = "" := String.toList_eq_nil_iff.1 (List.append_eq_nil_iff.1 hrest).1
        exact hne (by simp [hm'])

/-- A member of a document decides on a field only if it is the section of that field. A table is
then merged, and the fields it does not have stay. -/
theorem at?_put {n : String} (hn : Text.lowercase n = n)
    (hsection : n = s → v.isTable = true ∧ (v.members.map Prod.fst).Nodup ∧
      ∀ m ∈ v.members, Text.lowercase m.1 = m.1) (t : Tree) :
    (put n v t).at? s f =
      if n = s then ((v.member? f).map fun x => x.onto (t.at? s f)).or (t.at? s f)
      else t.at? s f := by
  by_cases hs : n = s
  · subst hs
    obtain ⟨htable, hnames, hlower⟩ := hsection rfl
    cases v with
    | scalar o x => cases htable
    | list o ts => cases htable
    | table o ms =>
      have hold : ((t.member? n).getD empty).member? f =
          (t.member? n).bind fun x => x.member? f := by
        cases t.member? n <;> rfl
      rw [at?, member?_put, hn, if_pos rfl, if_pos rfl, Option.bind_some]
      refine (member?_putAll hnames hlower ((t.member? n).getD empty) f).trans ?_
      rw [hold]
      rfl
  · rw [if_neg hs, at?, member?_put_of_ne (by rw [hn]; exact fun e => hs e.symm)]
    rfl

/-- A layer decides on a field by the one member that speaks of it, if there is one: the member of
the name `key`, which makes `value` of what there was. -/
theorem at?_putLayer {layer : List (String × Tree)} {key : String}
    (value : Tree → Option Tree → Option Tree) (hnames : (layer.map Prod.fst).Nodup)
    (hstep : ∀ m ∈ layer, ∀ t, (putAtText m.1 m.2 t).at? s f =
      if m.1 = key then value m.2 (t.at? s f) else t.at? s f) (t : Tree) :
    (putLayer layer t).at? s f =
      match layer.lookup key with
      | some x => value x (t.at? s f)
      | none => t.at? s f := by
  induction layer generalizing t with
  | nil => rfl
  | cons m layer ih =>
    obtain ⟨n, v⟩ := m
    obtain ⟨hn, hnames⟩ := List.nodup_cons.1 hnames
    have ih := ih hnames fun m hm => hstep m (List.mem_cons_of_mem _ hm)
    have hfirst := hstep (n, v) (by simp) t
    change (putLayer layer (putAtText n v t)).at? s f = _
    rw [ih, hfirst, Keyed.lookup_cons]
    by_cases hkey : n = key
    · subst hkey
      rw [Keyed.lookup_eq_none_iff.2 hn, if_pos rfl, if_pos rfl]
    · rw [if_neg hkey, if_neg (Ne.symm hkey)]

/-- A layer none of whose paths reaches a field leaves the field as it is. -/
theorem at?_putLayer_of_not_reaches {layer : List (String × Tree)}
    (h : ∀ m ∈ layer, reaches s f (Step.ofText m.1) = false) (t : Tree) :
    (putLayer layer t).at? s f = t.at? s f := by
  induction layer generalizing t with
  | nil => rfl
  | cons m layer ih =>
    exact (ih (fun m' hm => h m' (List.mem_cons_of_mem _ hm)) (putAtText m.1 m.2 t)).trans
      (at?_putAt_of_not_reaches (h m (by simp)) m.2 t)

/-! ## Sections -/

/-- The tree is a table, and so is every section in it. -/
structure Sectioned (t : Tree) : Prop where
  root : t.isTable = true
  sections : ∀ s ∈ Layers.sections, ∀ x, t.member? s = some x → x.isTable = true

/-- Sections stay tables where a value is put at a path that does not end at one. -/
theorem Sectioned.putAtText {t : Tree} (h : Sectioned t) {k : String}
    (hlower : Text.Lower k.toList) (hbracket : '[' ∉ k.toList) (hk : k ∉ Layers.sections)
    (v : Tree) : Sectioned (putAtText k v t) := by
  obtain ⟨n, ns, hsteps, htext, -⟩ := ofText_names hbracket
  have hn : Text.lowercase n = n :=
    Text.lowercase_of_lower fun c hc => hlower c (by simp [htext, hc])
  rw [Tree.putAtText, hsteps]
  refine ⟨isTable_putAt .., fun s hs x hx => ?_⟩
  by_cases hsn : s = Text.lowercase n
  · cases ns with
    | nil =>
      obtain rfl : k = n := String.toList_inj.1 (by simpa using htext)
      exact absurd (by rw [← hn, ← hsn]; exact hs) hk
    | cons m ms =>
      rw [List.map_cons, putAt, member?_changeMember, if_pos hsn] at hx
      obtain rfl := Option.some.inj hx
      exact isTable_putAt ..
  · rw [member?_putAt_of_ne hsn] at hx
    exact h.sections s hs x hx

/-- Sections stay tables where a table is put under the name of one. -/
theorem Sectioned.put {t : Tree} (h : Sectioned t) {n : String} (hn : Text.lowercase n = n)
    {v : Tree} (hv : n ∈ Layers.sections → v.isTable = true) : Sectioned (put n v t) := by
  refine ⟨isTable_put .., fun s hs x hx => ?_⟩
  by_cases hsn : s = n
  · subst hsn
    cases v with
    | scalar o x => cases hv hs
    | list o ts => cases hv hs
    | table o ms =>
      rw [Tree.put, hn, member?_changeMember, if_pos rfl] at hx
      obtain rfl := Option.some.inj hx
      refine isTable_putAll ?_
      cases hold : t.member? s with
      | none => rfl
      | some y => exact h.sections s hs y hold
  · rw [member?_put_of_ne (by rw [hn]; exact hsn)] at hx
    exact h.sections s hs x hx

theorem Sectioned.putLayer {layer : List (String × Tree)}
    (hstep : ∀ m ∈ layer, ∀ t, Sectioned t → Sectioned (Tree.putAtText m.1 m.2 t)) {t : Tree}
    (h : Sectioned t) : Sectioned (putLayer layer t) := by
  induction layer generalizing t with
  | nil => exact h
  | cons m layer ih =>
    exact ih (fun m hm => hstep m (List.mem_cons_of_mem _ hm)) (hstep m (by simp) t h)

end Tree

end UserRegistry.Layers
