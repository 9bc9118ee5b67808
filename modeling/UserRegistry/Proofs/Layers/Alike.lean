import UserRegistry.Layers.Decode
import UserRegistry.Proofs.Layers.Merging

/-!
# Trees that cannot be told apart

Two trees are `Alike` if looking down any path finds the same in both: values with their origins,
lists with their length, tables with the number of their members. That leaves out the order of
the names in a table. Nothing that reading settings gives depends on it, neither what is read nor
what is told of a misfit (`respects_settings`), and changing a part keeps trees alike.
-/

namespace UserRegistry.Layers.Tree

/-! ## Looking down a path -/

/-- What a tree is, apart from its parts. -/
inductive Shape where
  | scalar (origin : Option String) (value : Scalar)
  | list (origin : Option String) (length : Nat)
  | table (origin : Option String) (size : Nat)

def shape : Tree → Shape
  | scalar o v => .scalar o v
  | list o ts => .list o ts.length
  | table o ms => .table o ms.length

/-- An item of a list; beyond its end nothing is yet. -/
def item (t : Tree) (i : Nat) : Tree :=
  t.items[i]?.getD void

/-- What is found down a path, from somewhere or nowhere. -/
def view : List Step → Option Tree → Option Shape
  | [], o => o.map shape
  | .name n :: p, o => view p (o.bind fun t => t.member? n)
  | .position _ i :: p, o => view p (o.map fun t => t.item i)

/-- Down every path the same is found. -/
def Alike (o o' : Option Tree) : Prop :=
  ∀ p, view p o = view p o'

theorem Alike.refl (o : Option Tree) : Alike o o := fun _ => rfl

theorem Alike.symm {o o' : Option Tree} (h : Alike o o') : Alike o' o := fun p => (h p).symm

theorem Alike.trans {o o' o'' : Option Tree} (h : Alike o o') (h' : Alike o' o'') : Alike o o'' :=
  fun p => (h p).trans (h' p)

section
variable {t t' : Tree}

theorem Alike.shape (h : Alike (some t) (some t')) : t.shape = t'.shape :=
  Option.some.inj (h [])

theorem Alike.member? (h : Alike (some t) (some t')) (n : String) :
    Alike (t.member? n) (t'.member? n) :=
  fun p => h (.name n :: p)

theorem Alike.item (h : Alike (some t) (some t')) (i : Nat) :
    Alike (some (t.item i)) (some (t'.item i)) :=
  fun p => h (.position false i :: p)

/-- Trees of the same shape with parts that are alike are alike. -/
theorem Alike.of_parts (hshape : t.shape = t'.shape)
    (hmember : ∀ n, Alike (t.member? n) (t'.member? n))
    (hitem : ∀ i, Alike (some (t.item i)) (some (t'.item i))) : Alike (some t) (some t') := by
  intro p
  cases p with
  | nil => exact congrArg some hshape
  | cons s p =>
    cases s with
    | name n => exact hmember n p
    | position b i => exact hitem i p

end

theorem Alike.isSome_eq {o o' : Option Tree} (h : Alike o o') : o.isSome = o'.isSome := by
  have h := congrArg Option.isSome (h [])
  simpa [view] using h

theorem Alike.getD {o o' : Option Tree} (h : Alike o o') (t : Tree) :
    Alike (some (o.getD t)) (some (o'.getD t)) := by
  have hsome := h.isSome_eq
  cases o <;> cases o'
  · exact .refl _
  · cases hsome
  · cases hsome
  · exact h

/-! ## Changing a part -/

theorem item_changeMember (n : String) (start : Tree) (change : Tree → Tree) (t : Tree) (i : Nat) :
    (changeMember n start change t).item i = void := by
  cases t <;> rfl

theorem member?_changeItem (b : Bool) (n : Nat) (change : Tree → Tree) (t : Tree) (k : String) :
    (changeItem b n change t).member? k = none := by
  cases t <;> rfl

theorem length_put {α : Type} (k : String) (a : α) (ms : List (String × α)) :
    (Keyed.put k a ms).length = ms.length + if (ms.lookup k).isSome then 0 else 1 := by
  induction ms with
  | nil => rfl
  | cons m ms ih =>
    rw [Keyed.lookup_cons, Keyed.put]
    by_cases h : m.1 = k
    · simp [h]
    · rw [if_neg h, if_neg (Ne.symm h), List.length_cons, ih, List.length_cons]
      omega

theorem shape_changeMember (n : String) (start : Tree) (change : Tree → Tree) (t : Tree) :
    (changeMember n start change t).shape =
      .table t.asTable.origin (t.members.length + if (t.member? n).isSome then 0 else 1) := by
  cases t with
  | scalar o v => rfl
  | list o ts => rfl
  | table o ms => exact congrArg (Shape.table o) (length_put ..)

/-- Growing a list changes none of its items. -/
theorem getD_grown (ts : List Tree) (m i : Nat) :
    (ts ++ List.replicate m void)[i]?.getD void = ts[i]?.getD void := by
  rw [List.getElem?_append]
  split
  · rfl
  · rename_i hi
    rw [List.getElem?_replicate, List.getElem?_eq_none (by omega)]
    split <;> rfl

theorem item_changeItem (b : Bool) (n : Nat) (change : Tree → Tree) (t : Tree) (i : Nat) :
    (changeItem b n change t).item i =
      if i = Step.index b n t.items.length then change (t.item i) else t.item i := by
  have hlist : ∀ (o : Option String) (ts : List Tree) (k : Nat),
      (list o ((ts ++ List.replicate (k + 1 - ts.length) void).modify k change)).item i =
        if i = k then change (ts[i]?.getD void) else ts[i]?.getD void := by
    intro o ts k
    rw [item, items, List.getElem?_modify, ← getD_grown ts (k + 1 - ts.length)]
    by_cases hi : i = k
    · subst hi
      have hlt : i < (ts ++ List.replicate (i + 1 - ts.length) void).length := by
        rw [List.length_append, List.length_replicate]
        omega
      simp [List.getElem?_eq_getElem hlt]
    · simp [hi, Ne.symm hi]
  cases t with
  | scalar o v => exact hlist none [] _
  | list o ts => exact hlist o ts _
  | table o ms => exact hlist none [] _

theorem shape_changeItem (b : Bool) (n : Nat) (change : Tree → Tree) (t : Tree) :
    (changeItem b n change t).shape =
      .list t.asList.origin (max t.items.length (Step.index b n t.items.length + 1)) := by
  have hlist : ∀ (o : Option String) (ts : List Tree) (k : Nat),
      (list o ((ts ++ List.replicate (k + 1 - ts.length) void).modify k change)).shape =
        .list o (max ts.length (k + 1)) := by
    intro o ts k
    simp only [shape, List.length_modify, List.length_append, List.length_replicate]
    congr 1
    omega
  cases t with
  | scalar o v => exact hlist none [] _
  | list o ts => exact hlist o ts _
  | table o ms => exact hlist none [] _

/-- Two trees of the same shape are of the same kind. -/
theorem cases_of_shape {t t' : Tree} (h : t.shape = t'.shape) :
    (∃ o v, t = scalar o v ∧ t' = scalar o v) ∨
      (∃ o ts ts', t = list o ts ∧ t' = list o ts' ∧ ts.length = ts'.length) ∨
        ∃ o ms ms', t = table o ms ∧ t' = table o ms' ∧ ms.length = ms'.length := by
  cases t with
  | scalar o v =>
    cases t' with
    | scalar o' v' =>
      cases h
      exact .inl ⟨o, v, rfl, rfl⟩
    | list o' ts => cases h
    | table o' ms => cases h
  | list o ts =>
    cases t' with
    | scalar o' v => cases h
    | list o' ts' =>
      obtain ⟨rfl, hlength⟩ := Shape.list.inj h
      exact .inr (.inl ⟨o, ts, ts', rfl, rfl, hlength⟩)
    | table o' ms => cases h
  | table o ms =>
    cases t' with
    | scalar o' v => cases h
    | list o' ts => cases h
    | table o' ms' =>
      obtain ⟨rfl, hsize⟩ := Shape.table.inj h
      exact .inr (.inr ⟨o, ms, ms', rfl, rfl, hsize⟩)

/-- What a change of a part needs to know of a tree is in its shape. -/
theorem parts_of_shape {t t' : Tree} (h : t.shape = t'.shape) :
    t.asTable.origin = t'.asTable.origin ∧ t.members.length = t'.members.length ∧
      t.asList.origin = t'.asList.origin ∧ t.items.length = t'.items.length := by
  rcases cases_of_shape h with ⟨o, v, rfl, rfl⟩ | ⟨o, ts, ts', rfl, rfl, hlength⟩ |
    ⟨o, ms, ms', rfl, rfl, hsize⟩
  · exact ⟨rfl, rfl, rfl, rfl⟩
  · exact ⟨rfl, rfl, rfl, hlength⟩
  · exact ⟨rfl, hsize, rfl, rfl⟩

theorem Alike.changeMember {t t' : Tree} (h : Alike (some t) (some t')) (n : String) (start : Tree)
    {change change' : Tree → Tree}
    (hchange : Alike (some (change ((t.member? n).getD start)))
      (some (change' ((t'.member? n).getD start)))) :
    Alike (some (changeMember n start change t)) (some (changeMember n start change' t')) := by
  obtain ⟨horigin, hsize, -, -⟩ := parts_of_shape h.shape
  refine .of_parts ?_ (fun k => ?_) fun i => ?_
  · rw [shape_changeMember, shape_changeMember, horigin, hsize, (h.member? n).isSome_eq]
  · rw [member?_changeMember, member?_changeMember]
    by_cases hk : k = n
    · rw [if_pos hk, if_pos hk]
      exact hchange
    · rw [if_neg hk, if_neg hk]
      exact h.member? k
  · rw [item_changeMember, item_changeMember]
    exact .refl _

theorem Alike.changeItem {t t' : Tree} (h : Alike (some t) (some t')) (b : Bool) (n : Nat)
    {change change' : Tree → Tree}
    (hchange : ∀ i, Alike (some (change (t.item i))) (some (change' (t'.item i)))) :
    Alike (some (changeItem b n change t)) (some (changeItem b n change' t')) := by
  obtain ⟨-, -, horigin, hlength⟩ := parts_of_shape h.shape
  refine .of_parts ?_ (fun k => ?_) fun i => ?_
  · rw [shape_changeItem, shape_changeItem, horigin, hlength]
  · rw [member?_changeItem, member?_changeItem]
    exact .refl _
  · rw [item_changeItem, item_changeItem, hlength]
    split
    · exact hchange i
    · exact h.item i

/-! ## Reading -/

/-- A reader that gives the same, value or misfit, for trees that are alike. -/
def Respects (r : Reader α) : Prop :=
  ∀ key {t t' : Tree}, Alike (some t) (some t') → r key t = r key t'

theorem Respects.map {r : Reader α} (h : Respects r) (f : α → β) : Respects (Format.map f r) := by
  intro key t t' ht
  exact congrArg (Except.map f) (h key ht)

theorem respects_scalar (expected : String) (value? : Scalar → Option α)
    (shown : Scalar → Scalar) : Respects (readScalar expected value? shown) := by
  intro key t t' h
  rcases cases_of_shape h.shape with ⟨o, v, rfl, rfl⟩ | ⟨o, ts, ts', rfl, rfl, -⟩ |
    ⟨o, ms, ms', rfl, rfl, -⟩ <;> rfl

/-- The only name of a table is the only one that leads anywhere. -/
theorem respects_oneOf (title : String) (names : List (String × α)) :
    Respects (Format.oneOf title names) := by
  intro key t t' h
  rcases cases_of_shape h.shape with ⟨o, v, rfl, rfl⟩ | ⟨o, ts, ts', rfl, rfl, -⟩ |
    ⟨o, ms, ms', rfl, rfl, hsize⟩
  · rfl
  · rfl
  · match ms, ms', hsize with
    | [], [], _ => rfl
    | [m], [m'], _ =>
      have hsome := (h.member? m.1).isSome_eq
      have hname : m.1 = m'.1 := Decidable.byContradiction fun hne => by
        simp [member?, members, Keyed.lookup_cons, hne] at hsome
      simp only [Format.oneOf, readOneOf, hname]
    | _ :: _ :: _, _ :: _ :: _, _ => rfl

theorem readMembers_congr {ms ms' : List (String × Tree)}
    (h : ∀ n, Alike (ms.lookup n) (ms'.lookup n)) {fs : List (Field Reader α)}
    (hfs : ∀ f ∈ fs, Respects f.change) (key : String) (a : α) :
    readMembers key ms fs a = readMembers key ms' fs a := by
  induction fs generalizing a with
  | nil => rfl
  | cons f fs ih =>
    have ih := ih fun g hg => hfs g (List.mem_cons_of_mem _ hg)
    have hname := h f.name
    rw [readMembers, readMembers]
    cases hx : ms.lookup f.name with
    | none =>
      cases hx' : ms'.lookup f.name with
      | none => simp only [ih]
      | some x' =>
        rw [hx, hx'] at hname
        cases hname.isSome_eq
    | some x =>
      cases hx' : ms'.lookup f.name with
      | none =>
        rw [hx, hx'] at hname
        cases hname.isSome_eq
      | some x' =>
        rw [hx, hx'] at hname
        simp only [hfs f (List.mem_cons_self ..) _ hname, ih]

theorem readItems_congr {ts ts' : List Tree} (hlength : ts.length = ts'.length)
    (h : ∀ i : Nat, Alike (some (ts[i]?.getD void)) (some (ts'[i]?.getD void)))
    {fs : List (Field Reader α)} (hfs : ∀ f ∈ fs, Respects f.change) (key : String) (i : Nat)
    (a : α) : readItems key i ts fs a = readItems key i ts' fs a := by
  induction fs generalizing ts ts' i a with
  | nil => simp only [readItems]
  | cons f fs ih =>
    have hrest := fun g hg => hfs g (List.mem_cons_of_mem f hg)
    cases ts with
    | nil =>
      obtain rfl := List.length_eq_zero_iff.1 hlength.symm
      rfl
    | cons t ts =>
      cases ts' with
      | nil => cases hlength
      | cons t' ts' =>
        have hhead : Alike (some t) (some t') := h 0
        have ih := ih (Nat.succ.inj hlength) (fun j => h (j + 1)) hrest
        simp only [readItems, hfs f (List.mem_cons_self ..) _ hhead, ih]

theorem Respects.visit {rec : Record Visitor α} {r : Ranks}
    (h : ∀ f ∈ rec.fields, Respects (f.change (r.under f.name))) :
    Respects (visitRecord rec r) := by
  have hfields : ∀ f ∈ rec.fields.map (visited r), Respects f.change := by
    intro f hf
    obtain ⟨g, hg, rfl⟩ := List.mem_map.1 hf
    exact h g hg
  have hsorted : ∀ f ∈ r.sort Field.name (rec.fields.map (visited r)), Respects f.change :=
    fun f hf => hfields f ((r.perm_sort _ _).mem_iff.1 hf)
  intro key t t' ht
  rcases cases_of_shape ht.shape with ⟨o, v, rfl, rfl⟩ | ⟨o, ts, ts', rfl, rfl, hlength⟩ |
    ⟨o, ms, ms', rfl, rfl, -⟩
  · rfl
  · exact readItems_congr hlength ht.item hfields key 0 rec.blank
  · exact readMembers_congr ht.member? hsorted key rec.blank

/-- A field is read alike if its value is. -/
theorem Respects.optional {name : String} {v : Visitor β} (h : ∀ r, Respects (v r))
    (put : β → α → α) (r : Ranks) : Respects ((Field.optional name v put).change r) :=
  (h r).map put

/-- **Trees that are alike hold the same settings**, or the same is told to be wrong with them by
whoever visits them in the same order. -/
theorem respects_settings (r : Ranks) : Respects ((Settings.reader : Visitor Settings) r) := by
  have htext (r : Ranks) : Respects ((Format.text : Visitor String) r) := respects_scalar _ _ _
  have hint (r : Ranks) : Respects ((Format.int64 : Visitor Int64) r) := respects_scalar _ _ _
  have hflag (r : Ranks) : Respects ((Format.flag : Visitor Bool) r) := respects_scalar _ _ _
  have hbackend (r : Ranks) : Respects ((Backend.reader : Visitor Backend) r) :=
    respects_oneOf _ _
  have happ (r : Ranks) : Respects ((Settings.appReader : Visitor AppSection) r) :=
    .visit (by simp [Respects.optional, htext])
  have hservice (r : Ranks) : Respects ((Settings.serviceReader : Visitor ServiceSection) r) :=
    .visit (by simp [Respects.optional, hbackend])
  have hdemo (r : Ranks) : Respects ((Settings.demoReader : Visitor DemoSection) r) :=
    .visit (by simp [Respects.optional, htext, hint])
  have hlogging (r : Ranks) : Respects ((Settings.loggingReader : Visitor LoggingSection) r) :=
    .visit (by simp [Respects.optional, htext, hflag])
  exact .visit (by simp [Respects.optional, happ, hservice, hdemo, hlogging])

end UserRegistry.Layers.Tree
