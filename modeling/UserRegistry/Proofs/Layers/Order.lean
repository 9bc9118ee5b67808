import UserRegistry.Layers.Ranks
import UserRegistry.Proofs.Layers.Alike
import UserRegistry.Proofs.Layers.Variables

/-!
# The order does not matter

The names of a document and the variables of a process come in no particular order, and in whatever
order they are put onto a tree its tables list their names. Values at two paths that part from each
other (`Apart`) may be put in either order: the trees are alike (`alike_putAt_comm`). So may all the
values of a layer, at every depth, if none is in the way of another (`Separate.alike_putLayer`), and
a layer that panics in one order panics in every other (`Separate.layerPanics_eq`).
-/

namespace UserRegistry.Layers

namespace Tree

/-! ## Changing a part, whatever is there -/

/-- A value that is put under a name changes what is there. -/
theorem put_eq (n : String) (v t : Tree) :
    put n v t = changeMember (Text.lowercase n) empty (fun x => v.onto (some x)) t := by
  cases v <;> rw [put] <;> rfl

mutual

theorem Alike.onto {t t' : Tree} (h : Alike (some t) (some t')) (v : Tree) :
    Alike (some (v.onto (some t))) (some (v.onto (some t'))) := by
  match v with
  | .scalar o x => exact .refl _
  | .list o ts => exact .refl _
  | .table o ms => exact Alike.putAll h ms

theorem Alike.putAll {t t' : Tree} (h : Alike (some t) (some t')) (ms : List (String × Tree)) :
    Alike (some (putAll ms t)) (some (putAll ms t')) := by
  match ms with
  | [] => exact h
  | (n, v) :: ms =>
    rw [Tree.putAll, Tree.putAll, put_eq, put_eq]
    exact Alike.putAll (h.changeMember _ _ (Alike.onto ((h.member? _).getD _) v)) ms

end

theorem Alike.put {t t' : Tree} (h : Alike (some t) (some t')) (n : String) (v : Tree) :
    Alike (some (put n v t)) (some (put n v t')) := by
  rw [put_eq, put_eq]
  exact h.changeMember _ _ (.onto ((h.member? _).getD _) v)

theorem Alike.putAt {t t' : Tree} (h : Alike (some t) (some t')) (v : Tree) (p : List Step) :
    Alike (some (putAt v p t)) (some (putAt v p t')) := by
  induction p generalizing t t' with
  | nil => exact h
  | cons s p ih =>
    cases p with
    | nil =>
      cases s with
      | name n => exact h.put n v
      | position b i => exact h.changeItem b i fun _ => .refl _
    | cons s' p =>
      cases s with
      | name n => exact h.changeMember _ _ (ih ((h.member? _).getD _))
      | position b i => exact h.changeItem b i fun j => ih (h.item j)

theorem Alike.putLayer {t t' : Tree} (h : Alike (some t) (some t'))
    (layer : List (String × Tree)) :
    Alike (some (t.putLayer layer)) (some (t'.putLayer layer)) := by
  induction layer generalizing t t' with
  | nil => exact h
  | cons m layer ih => exact ih (h.putAt m.2 (Step.ofText m.1))

/-! ## Two changes in either order -/

/-- Two paths part from each other: after the same names and positions they go on with different
names, or with different positions in a list. A name and a position do not part, since what stands
there cannot be a table and a list; nor do positions that are counted from the end of a list. -/
def Apart : List Step → List Step → Prop
  | .name n :: p, .name m :: q => Text.lowercase n ≠ Text.lowercase m ∨ Apart p q
  | .position false i :: p, .position false j :: q => i ≠ j ∨ Apart p q
  | _, _ => False

theorem Apart.symm {p q : List Step} (h : Apart p q) : Apart q p := by
  induction p, q using Apart.induct with
  | case1 n p m q ih => exact h.imp Ne.symm ih
  | case2 i p j q ih => exact h.imp Ne.symm ih
  | case3 => simp only [Apart] at h

theorem Apart.irrefl (p : List Step) : ¬ Apart p p := by
  induction p with
  | nil => exact id
  | cons s p ih =>
    cases s with
    | name n => exact fun h => h.elim (fun hne => hne rfl) ih
    | position b i =>
      cases b with
      | false => exact fun h => h.elim (fun hne => hne rfl) ih
      | true => exact id

/-- Two changes of members may be made in either order, if what they make of the same member is
alike in either order. -/
theorem alike_changeMember_comm {n m : String} {start start' : Tree}
    {change change' : Tree → Tree} {t : Tree}
    (h : n = m → start = start' ∧
      ∀ x, Alike (some (change (change' x))) (some (change' (change x)))) :
    Alike (some (changeMember n start change (changeMember m start' change' t)))
      (some (changeMember m start' change' (changeMember n start change t))) := by
  have horigin (k : String) (x : Tree) (f : Tree → Tree) :
      (changeMember k x f t).asTable.origin = t.asTable.origin := by cases t <;> rfl
  have hsize (k : String) (x : Tree) (f : Tree → Tree) :
      (changeMember k x f t).members.length =
        t.members.length + if (t.member? k).isSome then 0 else 1 := by
    cases t with
    | scalar o v => rfl
    | list o ts => rfl
    | table o ms => exact length_put ..
  refine .of_parts ?_ (fun k => ?_) fun i => ?_
  · simp only [shape_changeMember, horigin, hsize, member?_changeMember]
    by_cases hnm : n = m
    · simp [hnm]
    · rw [if_neg hnm, if_neg (Ne.symm hnm)]
      congr 1
      omega
  · simp only [member?_changeMember]
    by_cases hk : k = n
    · subst hk
      by_cases hkm : k = m
      · subst hkm
        obtain ⟨rfl, hcomm⟩ := h rfl
        simp only [if_true, Option.getD_some]
        exact hcomm _
      · simp only [if_true, if_neg hkm, if_neg (Ne.symm hkm)]
        exact .refl _
    · by_cases hkm : k = m
      · subst hkm
        simp only [if_true, if_neg hk]
        exact .refl _
      · simp only [if_neg hk, if_neg hkm]
        exact .refl _
  · simp only [item_changeMember]
    exact .refl _

/-- Two changes of items counted from the start may be made in either order, if what they make of
the same item is alike in either order. -/
theorem alike_changeItem_comm {n m : Nat} {change change' : Tree → Tree} {t : Tree}
    (h : n = m → ∀ x, Alike (some (change (change' x))) (some (change' (change x)))) :
    Alike (some (changeItem false n change (changeItem false m change' t)))
      (some (changeItem false m change' (changeItem false n change t))) := by
  have hindex (k l : Nat) : Step.index false k l = k := rfl
  have hshape (k : Nat) (f : Tree → Tree) : (changeItem false k f t).asList.origin =
      t.asList.origin ∧ (changeItem false k f t).items.length = max t.items.length (k + 1) := by
    refine ⟨by cases t <;> rfl, ?_⟩
    have hshape := shape_changeItem false k f t
    cases t <;> exact (Shape.list.inj hshape).2
  refine .of_parts ?_ (fun k => ?_) fun i => ?_
  · simp only [shape_changeItem, hshape, hindex]
    congr 1
    omega
  · simp only [member?_changeItem]
    exact .refl _
  · simp only [item_changeItem, hindex]
    by_cases hi : i = n
    · subst hi
      by_cases him : i = m
      · simp only [if_true, if_pos him]
        exact h him _
      · simp only [if_true, if_neg him]
        exact .refl _
    · simp only [if_neg hi]
      exact .refl _

/-- A value at a path with a name in front changes what is under the name. -/
theorem putAt_name (v : Tree) (n : String) (p : List Step) : ∃ start change,
    putAt v (.name n :: p) = changeMember (Text.lowercase n) start change ∧
      (p ≠ [] → start = void ∧ change = putAt v p) := by
  cases p with
  | nil =>
    exact ⟨empty, fun x => v.onto (some x), funext (put_eq n v), fun h => absurd rfl h⟩
  | cons s p => exact ⟨void, putAt v (s :: p), rfl, fun _ => ⟨rfl, rfl⟩⟩

theorem putAt_position (v : Tree) (b : Bool) (i : Nat) (p : List Step) : ∃ change,
    putAt v (.position b i :: p) = changeItem b i change ∧ (p ≠ [] → change = putAt v p) := by
  cases p with
  | nil => exact ⟨fun _ => v, rfl, fun h => absurd rfl h⟩
  | cons s p => exact ⟨putAt v (s :: p), rfl, fun _ => rfl⟩

theorem Apart.ne_nil {p q : List Step} (h : Apart p q) : p ≠ [] ∧ q ≠ [] := by
  cases p with
  | nil => exact h.elim
  | cons s p =>
    cases q with
    | nil => cases s <;> simp only [Apart] at h
    | cons s' q => exact ⟨by simp, by simp⟩

/-- **Values at paths that part may be put in either order.** -/
theorem alike_putAt_comm {p q : List Step} (h : Apart p q) (v w t : Tree) :
    Alike (some (putAt v p (putAt w q t))) (some (putAt w q (putAt v p t))) := by
  induction p, q using Apart.induct generalizing t with
  | case1 n p m q ih =>
    obtain ⟨start, change, hp, hchange⟩ := putAt_name v n p
    obtain ⟨start', change', hq, hchange'⟩ := putAt_name w m q
    rw [hp, hq]
    refine alike_changeMember_comm fun hnm => ?_
    have hdeeper : Apart p q := h.resolve_left fun hne => hne hnm
    obtain ⟨rfl, rfl⟩ := hchange hdeeper.ne_nil.1
    obtain ⟨rfl, rfl⟩ := hchange' hdeeper.ne_nil.2
    exact ⟨rfl, ih hdeeper⟩
  | case2 i p j q ih =>
    obtain ⟨change, hp, hchange⟩ := putAt_position v false i p
    obtain ⟨change', hq, hchange'⟩ := putAt_position w false j q
    rw [hp, hq]
    refine alike_changeItem_comm fun hij => ?_
    have hdeeper : Apart p q := h.resolve_left fun hne => hne hij
    obtain rfl := hchange hdeeper.ne_nil.1
    obtain rfl := hchange' hdeeper.ne_nil.2
    exact ih hdeeper
  | case3 => simp only [Apart] at h

theorem alike_put_comm {n m : String} (h : Text.lowercase n ≠ Text.lowercase m) (v w t : Tree) :
    Alike (some (put n v (put m w t))) (some (put m w (put n v t))) :=
  alike_putAt_comm (p := [.name n]) (q := [.name m]) (.inl h) v w t

/-! ## The members of tables in any order -/

mutual

/-- No two names of a table are equal up to case, at any depth of tables. -/
def namesApart : Tree → Bool
  | .table _ ms => decide ((ms.map fun m => Text.lowercase m.1).Nodup) && allNamesApart ms
  | _ => true

def allNamesApart : List (String × Tree) → Bool
  | [] => true
  | (_, t) :: ms => namesApart t && allNamesApart ms

end

theorem putAll_perm {ms ms' : List (String × Tree)} (h : ms.Perm ms')
    (hnames : (ms.map fun m => Text.lowercase m.1).Nodup) (t : Tree) :
    Alike (some (putAll ms t)) (some (putAll ms' t)) := by
  induction h generalizing t with
  | nil => exact .refl _
  | cons m _ ih => exact ih (List.nodup_cons.1 hnames).2 _
  | swap m n ms =>
    obtain ⟨m, v⟩ := m
    obtain ⟨n, w⟩ := n
    obtain ⟨hn, -⟩ := List.pairwise_cons.1 hnames
    have hne := hn (Text.lowercase m) (List.mem_cons_self ..)
    rw [putAll, putAll, putAll, putAll]
    exact (alike_put_comm hne.symm v w t).putAll ms
  | trans h _ ih ih' =>
    have hmap := h.map fun m : String × Tree => Text.lowercase m.1
    exact (ih hnames t).trans (ih' (hmap.nodup_iff.1 hnames) t)

theorem names_arrangedMembers (r : Ranks) (ms : List (String × Tree)) :
    (arrangedMembers r ms).map Prod.fst = ms.map Prod.fst := by
  induction ms with
  | nil => rfl
  | cons m ms ih => rw [arrangedMembers, List.map_cons, ih, List.map_cons]

theorem names_arrangedLayer_perm (r : Ranks) (layer : List (String × Tree)) :
    ((arrangedLayer r layer).map Prod.fst).Perm (layer.map Prod.fst) := by
  have h := (r.perm_sort Prod.fst (arrangedMembers r layer)).map Prod.fst
  rwa [names_arrangedMembers] at h

/-- Arranged within or not, the names are the same, also in lower case. -/
theorem lowerNames_arrangedMembers (r : Ranks) (ms : List (String × Tree)) :
    ((arrangedMembers r ms).map fun m => Text.lowercase m.1) =
      ms.map fun m => Text.lowercase m.1 := by
  have h := congrArg (List.map Text.lowercase) (names_arrangedMembers r ms)
  rw [List.map_map, List.map_map] at h
  exact h

mutual

/-- A value does to a tree what it does arranged. -/
theorem alike_put_arranged (v : Tree) (hv : v.namesApart = true) (r : Ranks) (n : String)
    (t : Tree) : Alike (some (put n (v.arranged r) t)) (some (put n v t)) := by
  match v with
  | .scalar o x => exact .refl _
  | .list o ts => exact .refl _
  | .table o ms =>
    obtain ⟨hnames, hmembers⟩ := Bool.and_eq_true_iff.1 hv
    have hnodup : ((r.sort Prod.fst (arrangedMembers r ms)).map
        fun m => Text.lowercase m.1).Nodup := by
      rw [((r.perm_sort _ _).map _).nodup_iff, lowerNames_arrangedMembers]
      exact of_decide_eq_true hnames
    rw [arranged, put, put]
    refine Alike.changeMember (.refl _) _ _ ((putAll_perm (r.perm_sort _ _) hnodup _).trans ?_)
    exact alike_putAll_arranged ms hmembers r _

theorem alike_putAll_arranged (ms : List (String × Tree)) (hms : allNamesApart ms = true)
    (r : Ranks) (t : Tree) :
    Alike (some (putAll (arrangedMembers r ms) t)) (some (putAll ms t)) := by
  match ms with
  | [] => exact .refl _
  | (n, v) :: ms =>
    obtain ⟨hv, hms⟩ := Bool.and_eq_true_iff.1 hms
    rw [arrangedMembers, putAll, putAll]
    exact (Alike.putAll (alike_put_arranged v hv (r.under n) n t) _).trans
      (alike_putAll_arranged ms hms r _)

end

mutual

theorem alike_arranged (v : Tree) (hv : v.namesApart = true) (r : Ranks) :
    Alike (some (v.arranged r)) (some v) := by
  match v with
  | .scalar o x => exact .refl _
  | .list o ts => exact .refl _
  | .table o ms =>
    obtain ⟨hnames, hmembers⟩ := Bool.and_eq_true_iff.1 hv
    have hperm := r.perm_sort Prod.fst (arrangedMembers r ms)
    have hnodup : ((r.sort Prod.fst (arrangedMembers r ms)).map Prod.fst).Nodup := by
      rw [(hperm.map Prod.fst).nodup_iff, names_arrangedMembers]
      exact List.pairwise_map.2 ((List.pairwise_map.1 (of_decide_eq_true hnames)).imp
        fun hne e => hne (congrArg Text.lowercase e))
    have hlength : (r.sort Prod.fst (arrangedMembers r ms)).length = ms.length := by
      have h := congrArg List.length (names_arrangedMembers r ms)
      rw [hperm.length_eq]
      simpa using h
    rw [arranged]
    refine .of_parts (congrArg (Shape.table o) hlength) (fun k => ?_) fun i => .refl _
    rw [member?, members, Keyed.lookup_perm hperm hnodup]
    exact alike_arrangedMembers ms hmembers r k

theorem alike_arrangedMembers (ms : List (String × Tree)) (hms : allNamesApart ms = true)
    (r : Ranks) (k : String) : Alike ((arrangedMembers r ms).lookup k) (ms.lookup k) := by
  match ms with
  | [] => exact .refl _
  | (n, v) :: ms =>
    obtain ⟨hv, hms⟩ := Bool.and_eq_true_iff.1 hms
    rw [arrangedMembers, Keyed.lookup_cons, Keyed.lookup_cons]
    split
    · exact alike_arranged v hv (r.under n)
    · exact alike_arrangedMembers ms hms r k

end

theorem alike_putAt_arranged {v : Tree} (hv : v.namesApart = true) (r : Ranks) (p : List Step)
    (t : Tree) : Alike (some (putAt (v.arranged r) p t)) (some (putAt v p t)) := by
  induction p generalizing t with
  | nil => exact .refl _
  | cons s p ih =>
    cases p with
    | nil =>
      cases s with
      | name n => exact alike_put_arranged v hv r n t
      | position b i => exact .changeItem (.refl _) b i fun _ => alike_arranged v hv r
    | cons s' p =>
      cases s with
      | name n => exact .changeMember (.refl _) _ _ (ih _)
      | position b i => exact .changeItem (.refl _) b i fun _ => ih _

/-! ## Panics -/

theorem Alike.panicsAt {t t' : Tree} (h : Alike (some t) (some t')) (p : List Step) :
    panicsAt p t = panicsAt p t' := by
  induction p generalizing t t' with
  | nil => rfl
  | cons s p ih =>
    cases s with
    | name n => exact ih ((h.member? (Text.lowercase n)).getD void)
    | position b i =>
      obtain ⟨-, -, -, hlength⟩ := parts_of_shape h.shape
      have hitem : Tree.panicsAt p (t.items[Step.index b i t.items.length]?.getD void) =
          Tree.panicsAt p (t'.items[Step.index b i t.items.length]?.getD void) := ih (h.item _)
      rw [Tree.panicsAt, Tree.panicsAt, hitem, hlength]

/-- A value does not bring about or avert a panic at a path that parts from its own. -/
theorem panicsAt_putAt {p q : List Step} (h : Apart p q) (w t : Tree) :
    panicsAt p (putAt w q t) = panicsAt p t := by
  induction p, q using Apart.induct generalizing t with
  | case1 n p m q ih =>
    obtain ⟨start, change, hq, hchange⟩ := putAt_name w m q
    have hmember := member?_changeMember (Text.lowercase m) start change t (Text.lowercase n)
    rw [member?] at hmember
    rw [hq, panicsAt, hmember, panicsAt, ← member?]
    by_cases hnm : Text.lowercase n = Text.lowercase m
    · have hdeeper : Apart p q := h.resolve_left fun hne => hne hnm
      obtain ⟨rfl, rfl⟩ := hchange hdeeper.ne_nil.2
      rw [if_pos hnm, Option.getD_some, ih hdeeper, hnm]
    · rw [if_neg hnm]
  | case2 i p j q ih =>
    obtain ⟨change, hq, hchange⟩ := putAt_position w false j q
    have hitem := item_changeItem false j change t i
    rw [item] at hitem
    simp only [hq, panicsAt, Bool.false_and, Bool.false_or, Step.index, Bool.false_eq_true,
      if_false, hitem]
    by_cases hij : i = j
    · have hdeeper : Apart p q := h.resolve_left fun hne => hne hij
      obtain rfl := hchange hdeeper.ne_nil.2
      simp only [if_pos hij, ih hdeeper, item]
    · simp only [if_neg hij, item]
  | case3 => simp only [Apart] at h

end Tree

/-! ## Layers in any order -/

/-- The values of a layer stand at paths that all part from each other. -/
def AllApart (layer : List (String × Tree)) : Prop :=
  layer.Pairwise fun m n => Tree.Apart (Step.ofText m.1) (Step.ofText n.1)

/-- No value of a layer is in the way of another: they stand at paths that part from each other,
and within each no two names of a table are equal up to case. -/
structure Separate (layer : List (String × Tree)) : Prop where
  apart : AllApart layer
  names : Tree.allNamesApart layer = true

instance Tree.decidableApart : (p q : List Step) → Decidable (Tree.Apart p q)
  | .name n :: p, .name m :: q =>
    have := Tree.decidableApart p q
    inferInstanceAs (Decidable (Text.lowercase n ≠ Text.lowercase m ∨ Tree.Apart p q))
  | .position false i :: p, .position false j :: q =>
    have := Tree.decidableApart p q
    inferInstanceAs (Decidable (i ≠ j ∨ Tree.Apart p q))
  | [], _ => inferInstanceAs (Decidable False)
  | _ :: _, [] => .isFalse (by simp [Tree.Apart])
  | .name _ :: _, .position _ _ :: _ => inferInstanceAs (Decidable False)
  | .position _ _ :: _, .name _ :: _ => .isFalse (by simp [Tree.Apart])
  | .position true _ :: _, .position _ _ :: _ => .isFalse (by simp [Tree.Apart])
  | .position false _ :: _, .position true _ :: _ => .isFalse (by simp [Tree.Apart])

instance (layer : List (String × Tree)) : Decidable (AllApart layer) :=
  inferInstanceAs (Decidable (layer.Pairwise _))

instance (layer : List (String × Tree)) : Decidable (Separate layer) :=
  decidable_of_iff (AllApart layer ∧ Tree.allNamesApart layer = true)
    ⟨fun h => ⟨h.1, h.2⟩, fun h => ⟨h.apart, h.names⟩⟩

namespace AllApart

variable {layer layer' : List (String × Tree)}

theorem perm (hlayer : AllApart layer) (h : layer.Perm layer') : AllApart layer' :=
  (h.pairwise_iff fun hmn => Tree.Apart.symm hmn).1 hlayer

theorem keys_nodup (h : AllApart layer) : (layer.map Prod.fst).Nodup :=
  List.pairwise_map.2 (h.imp fun {m n} (hmn : Tree.Apart _ _) (e : m.1 = n.1) =>
    Tree.Apart.irrefl (Step.ofText n.1) (e ▸ hmn))

/-- **The order of a layer does not matter**, if no value is in the way of another. -/
theorem alike_putLayer (hlayer : AllApart layer) (h : layer.Perm layer') (t : Tree) :
    Tree.Alike (some (t.putLayer layer)) (some (t.putLayer layer')) := by
  induction h generalizing t with
  | nil => exact .refl _
  | cons m _ ih => exact ih (List.pairwise_cons.1 hlayer).2 _
  | swap m n ms =>
    have hnm := (List.pairwise_cons.1 hlayer).1 m (List.mem_cons_self ..)
    exact (Tree.alike_putAt_comm hnm.symm m.2 n.2 t).putLayer ms
  | trans h _ ih ih' => exact (ih hlayer t).trans (ih' (hlayer.perm h) t)

/-- A layer whose values do not disturb each other panics where one of them does by itself. -/
theorem layerPanics_eq (hlayer : AllApart layer) (t : Tree) :
    t.layerPanics layer = (layer.map Prod.fst).any fun n => t.panicsAt (Step.ofText n) := by
  induction layer generalizing t with
  | nil => rfl
  | cons m layer ih =>
    obtain ⟨hm, hlayer⟩ := List.pairwise_cons.1 hlayer
    rw [Tree.layerPanics, ih hlayer, List.map_cons, List.any_cons, List.any_map, List.any_map]
    congr 1
    rw [Bool.eq_iff_iff, List.any_eq_true, List.any_eq_true]
    refine exists_congr fun n => and_congr_right fun hn => ?_
    rw [Function.comp_apply, Function.comp_apply, Tree.putAtText,
      Tree.panicsAt_putAt (hm n hn).symm]

theorem layerPanics_perm (hlayer : AllApart layer)
    (h : (layer.map Prod.fst).Perm (layer'.map Prod.fst)) (hlayer' : AllApart layer') (t : Tree) :
    t.layerPanics layer = t.layerPanics layer' := by
  rw [hlayer.layerPanics_eq, hlayer'.layerPanics_eq, h.any_eq]

end AllApart

theorem Tree.Alike.layerPanics {t t' : Tree} (h : Tree.Alike (some t) (some t'))
    (layer : List (String × Tree)) : t.layerPanics layer = t'.layerPanics layer := by
  induction layer generalizing t t' with
  | nil => rfl
  | cons m layer ih =>
    rw [Tree.layerPanics, Tree.layerPanics, h.panicsAt, Tree.putAtText, Tree.putAtText,
      ih (h.putAt m.2 (Step.ofText m.1))]

namespace Separate

variable {layer : List (String × Tree)}

/-- Whatever its order, an arranged layer has the paths of the layer. -/
theorem allApart_arranged (hlayer : Separate layer) (r : Ranks) :
    AllApart (Tree.arrangedMembers r layer) := by
  have hmap (layer : List (String × Tree)) := List.pairwise_map (l := layer) (f := Prod.fst)
    (R := fun m n => Tree.Apart (Step.ofText m) (Step.ofText n))
  rw [AllApart, ← hmap, Tree.names_arrangedMembers, hmap]
  exact hlayer.apart

theorem alike_arrangedMembers (hlayer : Separate layer) (r : Ranks) (t : Tree) :
    Tree.Alike (some (t.putLayer (Tree.arrangedMembers r layer))) (some (t.putLayer layer)) := by
  have hnames := hlayer.names
  clear hlayer
  induction layer generalizing t with
  | nil => exact .refl _
  | cons m layer ih =>
    obtain ⟨n, v⟩ := m
    obtain ⟨hv, hnames⟩ := Bool.and_eq_true_iff.1 hnames
    exact ((Tree.alike_putAt_arranged hv (r.under n) (Step.ofText n) t).putLayer _).trans
      (ih _ hnames)

/-- **The order of a layer does not matter** at any depth, if no value is in the way of another. -/
theorem alike_putLayer (hlayer : Separate layer) (r r' : Ranks) {t t' : Tree}
    (h : Tree.Alike (some t) (some t')) :
    Tree.Alike (some (t.putLayer (Tree.arrangedLayer r layer)))
      (some (t'.putLayer (Tree.arrangedLayer r' layer))) := by
  have hlisted (r : Ranks) (t : Tree) :
      Tree.Alike (some (t.putLayer (Tree.arrangedLayer r layer))) (some (t.putLayer layer)) :=
    ((hlayer.allApart_arranged r).perm (r.perm_sort _ _).symm).alike_putLayer (r.perm_sort _ _) t
      |>.trans (hlayer.alike_arrangedMembers r t)
  exact (hlisted r t).trans ((h.putLayer layer).trans (hlisted r' t').symm)

/-- Nor does it matter for whether the layer panics. -/
theorem layerPanics_eq (hlayer : Separate layer) (r r' : Ranks) {t t' : Tree}
    (h : Tree.Alike (some t) (some t')) :
    t.layerPanics (Tree.arrangedLayer r layer) = t'.layerPanics (Tree.arrangedLayer r' layer) := by
  have hlisted (r : Ranks) (t : Tree) :
      t.layerPanics (Tree.arrangedLayer r layer) = t.layerPanics layer := by
    exact ((hlayer.allApart_arranged r).perm (r.perm_sort _ _).symm).layerPanics_perm
      (Tree.names_arrangedLayer_perm r layer) hlayer.apart t
  rw [hlisted, hlisted, h.layerPanics]

end Separate

namespace Overrides

/-- No two variables speak of the same setting, and none of something within what another one
speaks of. -/
def Separate (vs : Variables) : Prop :=
  ∀ e ∈ vs.entries, ∀ e' ∈ vs.entries, e.1 ≠ e'.1 → ∀ k ∈ key? e.1, ∀ k' ∈ key? e'.1,
    Tree.Apart (Step.ofText k) (Step.ofText k')

instance (vs : Variables) : Decidable (Separate vs) :=
  inferInstanceAs (Decidable (∀ e ∈ vs.entries, _))

theorem entries_perm {vs ws : Variables} (h : ∀ n, vs.get? n = ws.get? n) :
    vs.entries.Perm ws.entries := by
  have hmem (vs : Variables) (e : String × String) :
      e ∈ vs.entries ↔ vs.get? e.1 = some e.2 :=
    ⟨Keyed.lookup_of_mem vs.distinct, Keyed.mem_of_lookup⟩
  have hnodup (vs : Variables) : vs.entries.Nodup :=
    (List.pairwise_map.1 vs.distinct).imp fun hne e => hne (congrArg Prod.fst e)
  refine (List.perm_ext_iff_of_nodup (hnodup vs) (hnodup ws)).2 fun e => ?_
  rw [hmem, hmem, h]

namespace Separate

variable {vs ws : Variables}

theorem perm (hvs : Separate vs) (h : vs.entries.Perm ws.entries) : Separate ws :=
  fun e he e' he' => hvs e (h.mem_iff.2 he) e' (h.mem_iff.2 he')

theorem allApart_settings (h : Separate vs) : AllApart (vs.entries.filterMap setting?) := by
  rw [AllApart, List.pairwise_filterMap]
  refine (List.pairwise_map.1 vs.distinct).imp_of_mem fun {e e'} he he' hne m hm n hn => ?_
  obtain ⟨k, hk, rfl⟩ := Option.map_eq_some_iff.1 hm
  obtain ⟨k', hk', rfl⟩ := Option.map_eq_some_iff.1 hn
  exact h e he e' he' hne k hk k' hk'

/-- Variables that are separate hold as many settings as there are names of settings among them. -/
theorem layer_eq (h : Separate vs) : layer vs = vs.entries.filterMap setting? :=
  Keyed.ofList_of_nodup h.allApart_settings.keys_nodup

theorem allApart (h : Separate vs) : AllApart (layer vs) := by
  rw [h.layer_eq]
  exact h.allApart_settings

theorem layer_perm (hvs : Separate vs) (h : ∀ n, vs.get? n = ws.get? n) :
    (layer vs).Perm (layer ws) := by
  rw [hvs.layer_eq, (hvs.perm (entries_perm h)).layer_eq]
  exact (entries_perm h).filterMap setting?

end Separate

end Overrides

end UserRegistry.Layers
