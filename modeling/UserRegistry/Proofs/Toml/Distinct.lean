import UserRegistry.Keyed
import UserRegistry.Toml.Parse

/-!
# The names of a document are distinct

No table of a document that was read has two members of one name, at any depth: `parse_distinct`.
So what stands under a name does not depend on where in its table one starts to look.

The tables of a document grow while it is read. `Members.Distinct` is the invariant: every way of
growing (`alter`, `assign`, `openTable`, `addTable`) keeps it, and what a finished table is worth
has distinct names in its turn (`Node.Distinct.value`). Braces make tables inside of values, so
reading a value keeps it as well (`value_distinct`).
-/

namespace UserRegistry.Toml

/-- No table in a value has two members of one name. -/
inductive Value.Distinct : Value → Prop
  | text (s : String) : Distinct (.text s)
  | int (i : Int64) : Distinct (.int i)
  | float (x : Binary) : Distinct (.float x)
  | flag (b : Bool) : Distinct (.flag b)
  | moment (s : String) : Distinct (.moment s)
  | list {vs : List Value} (items : ∀ v ∈ vs, Distinct v) : Distinct (.list vs)
  | table {ms : List (String × Value)} (names : (ms.map Prod.fst).Nodup)
      (members : ∀ m ∈ ms, Distinct m.2) : Distinct (.table ms)

/-- No table in a node under construction has two members of one name. -/
inductive Node.Distinct : Node → Prop
  | leaf {v : Value} (value : v.Distinct) : Distinct (.leaf v)
  | table {origin : Origin} {ms : List (String × Node)} (names : (ms.map Prod.fst).Nodup)
      (members : ∀ m ∈ ms, Distinct m.2) : Distinct (.table origin ms)
  | tables {items : List (List (String × Node))} (names : ∀ ms ∈ items, (ms.map Prod.fst).Nodup)
      (members : ∀ ms ∈ items, ∀ m ∈ ms, Distinct m.2) : Distinct (.tables items)

/-- The members of a table have distinct names, and so have all tables below it. -/
structure Members.Distinct (ms : Members) : Prop where
  names : (ms.map Prod.fst).Nodup
  nodes : ∀ m ∈ ms, m.2.Distinct

/-- What stands before the rest in something that was read and changed. -/
theorem map_eq_some_pair {x : Option γ} {g : γ → β × σ} {b : β} {rest : σ}
    (h : x.map g = some (b, rest)) : ∃ a, x = some a ∧ b = (g a).1 ∧ rest = (g a).2 := by
  obtain ⟨a, ha, e⟩ := Option.map_eq_some_iff.1 h
  exact ⟨a, ha, congrArg Prod.fst e.symm, congrArg Prod.snd e.symm⟩

/-! ## What finished tables are worth -/

theorem memberValues_eq_map (ms : List (String × Node)) :
    memberValues ms = ms.map fun m => (m.1, m.2.value) := by
  induction ms with
  | nil => rfl
  | cons m ms ih =>
    obtain ⟨n, node⟩ := m
    rw [memberValues, ih, List.map_cons]

theorem itemValues_eq_map (items : List (List (String × Node))) :
    itemValues items = items.map fun ms => .table (memberValues ms) := by
  induction items with
  | nil => rfl
  | cons ms items ih => rw [itemValues, ih, List.map_cons]

theorem table_distinct {ms : List (String × Node)} (names : (ms.map Prod.fst).Nodup)
    (values : ∀ m ∈ ms, m.2.value.Distinct) : (Value.table (memberValues ms)).Distinct := by
  rw [memberValues_eq_map]
  refine .table ?_ fun m hm => ?_
  · rw [List.map_map]
    exact names
  · obtain ⟨n, hn, rfl⟩ := List.mem_map.1 hm
    exact values n hn

theorem Node.Distinct.value {n : Node} (h : n.Distinct) : n.value.Distinct := by
  induction h with
  | leaf hv => exact hv
  | table names _ ih => exact table_distinct names ih
  | tables names _ ih =>
    rw [Node.value, itemValues_eq_map]
    refine .list fun v hv => ?_
    obtain ⟨ms, hms, rfl⟩ := List.mem_map.1 hv
    exact table_distinct (names ms hms) (ih ms hms)

theorem Members.Distinct.value {ms : Members} (h : Distinct ms) :
    (Value.table (memberValues ms)).Distinct :=
  table_distinct h.names fun m hm => (h.nodes m hm).value

/-! ## Growing tables -/

namespace Members.Distinct

theorem nil : Distinct [] := ⟨by simp, by simp⟩

theorem concat {ms : Members} {n : String} {node : Node} (h : Distinct ms)
    (hn : ms.lookup n = none) (hnode : node.Distinct) : Distinct (ms ++ [(n, node)]) := by
  refine ⟨?_, fun m hm => ?_⟩
  · rw [List.map_append, List.nodup_append]
    refine ⟨h.names, by simp, fun a ha b hb e => ?_⟩
    obtain rfl : b = n := by simpa using hb
    exact Keyed.lookup_eq_none_iff.1 hn (e ▸ ha)
  · rcases List.mem_append.1 hm with hm | hm
    · exact h.nodes m hm
    · obtain rfl := List.mem_singleton.1 hm
      exact hnode

theorem replace {ms : Members} {n : String} {node : Node} (h : Distinct ms)
    (hnode : node.Distinct) : Distinct (ms.replace n node) := by
  refine ⟨?_, fun m hm => ?_⟩
  · have hkeys : (ms.replace n node).map Prod.fst = ms.map Prod.fst := by
      unfold Members.replace
      rw [List.map_map]
      refine List.map_congr_left fun m _ => ?_
      simp only [Function.comp_apply]
      split
      · rename_i e
        exact e.symm
      · rfl
    rw [hkeys]
    exact h.names
  · obtain ⟨m', hm', e⟩ := List.mem_map.1 hm
    split at e
    · subst e
      exact hnode
    · subst e
      exact h.nodes m' hm'

theorem table {ms : Members} (h : Distinct ms) (origin : Origin) :
    (Node.table origin ms).Distinct :=
  .table h.names h.nodes

end Members.Distinct

theorem Node.Distinct.members {origin : Origin} {ms : List (String × Node)}
    (h : (Node.table origin ms).Distinct) : Members.Distinct ms := by
  cases h with
  | table names members => exact ⟨names, members⟩

theorem Node.Distinct.item {items : List (List (String × Node))} (h : (Node.tables items).Distinct)
    {ms : List (String × Node)} (hm : ms ∈ items) : Members.Distinct ms := by
  cases h with
  | tables names members => exact ⟨names ms hm, members ms hm⟩

theorem Node.Distinct.lastItem {items : List (List (String × Node))}
    (h : (Node.tables items).Distinct) : Members.Distinct (items.getLastD []) := by
  rw [List.getLastD_eq_getLast?]
  cases hlast : items.getLast? with
  | none => exact .nil
  | some ms => exact h.item (List.mem_of_getLast? hlast)

theorem tables_distinct {items : List (List (String × Node))}
    (h : ∀ ms ∈ items, Members.Distinct ms) : (Node.tables items).Distinct :=
  .tables (fun ms hm => (h ms hm).names) fun ms hm => (h ms hm).nodes

/-- A change of the table at a path keeps names distinct if the change itself does. -/
theorem alter_distinct {inAssignment : Bool} {change : Origin → Members → Option Members}
    (hchange : ∀ origin ms ms', change origin ms = some ms' → ms.Distinct → ms'.Distinct)
    {path : List String} {origin : Origin} {ms ms' : Members}
    (h : alter inAssignment change path origin ms = some ms') (hms : ms.Distinct) :
    ms'.Distinct := by
  induction path generalizing origin ms ms' with
  | nil => exact hchange _ _ _ h hms
  | cons n ns ih =>
    unfold alter at h
    cases hn : ms.lookup n with
    | none =>
      simp only [hn, Option.map_eq_some_iff] at h
      obtain ⟨sub, hsub, rfl⟩ := h
      exact hms.concat hn ((ih hsub .nil).table _)
    | some node =>
      have hnode := hms.nodes _ (Keyed.mem_of_lookup hn)
      cases node with
      | leaf v => simp [hn] at h
      | tables items =>
        simp only [hn, Option.map_eq_some_iff] at h
        obtain ⟨sub, hsub, rfl⟩ := h
        refine hms.replace (tables_distinct fun t ht => ?_)
        rcases List.mem_append.1 ht with ht | ht
        · exact hnode.item ((List.dropLast_sublist items).subset ht)
        · obtain rfl := List.mem_singleton.1 ht
          exact ih hsub (hnode.lastItem)
      | table origin' sub =>
        simp only [hn] at h
        split at h
        · cases h
        · obtain ⟨sub', hsub, rfl⟩ := Option.map_eq_some_iff.1 h
          exact hms.replace ((ih hsub hnode.members).table _)

theorem assign_distinct {path : List String} {v : Value} (hv : v.Distinct) {origin : Origin}
    {ms ms' : Members} (h : assign path v origin ms = some ms') (hms : ms.Distinct) :
    ms'.Distinct := by
  refine alter_distinct (fun o ms ms' h hms => ?_) h hms
  split at h
  · cases h
  · split at h
    · cases h
    · rename_i hnone
      obtain rfl := Option.some.inj h
      exact hms.concat (Option.not_isSome_iff_eq_none.1 hnone) (.leaf hv)

theorem openTable_distinct {path : List String} {ms ms' : Members}
    (h : openTable path ms = some ms') (hms : ms.Distinct) : ms'.Distinct := by
  refine alter_distinct (fun o ms ms' h hms => ?_) h hms
  split at h
  · rename_i hnone
    obtain rfl := Option.some.inj h
    exact hms.concat hnone (Members.Distinct.nil.table _)
  · rename_i sub hsub
    obtain rfl := Option.some.inj h
    exact hms.replace ((hms.nodes _ (Keyed.mem_of_lookup hsub)).members.table _)
  · cases h

theorem addTable_distinct {path : List String} {ms ms' : Members}
    (h : addTable path ms = some ms') (hms : ms.Distinct) : ms'.Distinct := by
  refine alter_distinct (fun o ms ms' h hms => ?_) h hms
  split at h
  · rename_i hnone
    obtain rfl := Option.some.inj h
    refine hms.concat hnone (tables_distinct fun t ht => ?_)
    obtain rfl := List.mem_singleton.1 ht
    exact .nil
  · rename_i items hitems
    obtain rfl := Option.some.inj h
    refine hms.replace (tables_distinct fun t ht => ?_)
    rcases List.mem_append.1 ht with ht | ht
    · exact (hms.nodes _ (Keyed.mem_of_lookup hitems)).item ht
    · obtain rfl := List.mem_singleton.1 ht
      exact .nil
  · cases h

theorem assignAll_distinct {as : List (List String × Value)} (has : ∀ a ∈ as, a.2.Distinct)
    {ms ms' : Members} (h : as.foldlM (fun ms a => assign a.1 a.2 .defined ms) ms = some ms')
    (hms : ms.Distinct) : ms'.Distinct := by
  induction as generalizing ms with
  | nil =>
    obtain rfl := Option.some.inj h
    exact hms
  | cons a as ih =>
    rw [List.foldlM_cons] at h
    obtain ⟨next, hnext, h⟩ := Option.bind_eq_some_iff.1 h
    exact ih (fun b hb => has b (List.mem_cons_of_mem _ hb)) h
      (assign_distinct (has a (List.mem_cons_self ..)) hnext hms)

theorem inlineTable_distinct {as : List (List String × Value)} (has : ∀ a ∈ as, a.2.Distinct)
    {v : Value} (h : inlineTable as = some v) : v.Distinct := by
  obtain ⟨ms, hms, rfl⟩ := Option.map_eq_some_iff.1 h
  exact (assignAll_distinct has hms .nil).value

/-! ## Reading values -/

/-- Everything that is read with `item` has distinct names. -/
def ReadsDistinct (item : List Char → Step Value) : Prop :=
  ∀ s v rest, item s = some (v, rest) → v.Distinct

theorem wordValue_distinct {w : List Char} {v : Value} (h : wordValue w = some v) : v.Distinct := by
  unfold wordValue at h
  split at h
  · obtain rfl := Option.some.inj h
    exact .flag _
  split at h
  · obtain rfl := Option.some.inj h
    exact .flag _
  split at h
  · obtain rfl := Option.some.inj h
    exact .moment _
  · obtain rfl := Option.some.inj h
    exact .float _
  · obtain rfl := Option.some.inj h
    exact .int _
  · cases h

theorem unquoted_distinct : ReadsDistinct unquoted := by
  intro s v rest h
  unfold unquoted at h
  have halone : ∀ {w after}, ((wordValue w).map (·, after) : Option (Value × List Char)) =
      some (v, rest) → v.Distinct := by
    intro w after h
    obtain ⟨u, hu, rfl, -⟩ := map_eq_some_pair h
    exact wordValue_distinct hu
  simp only at h
  split at h
  · split at h
    · obtain ⟨rfl, -⟩ := Prod.mk.inj (Option.some.inj h)
      exact .moment _
    · exact halone h
  · exact halone h

theorem listItems_distinct {item : List Char → Step Value} (hitem : ReadsDistinct item)
    {fuel : Nat} {s rest : List Char} {vs : List Value}
    (h : listItems item fuel s = some (vs, rest)) : ∀ v ∈ vs, v.Distinct := by
  induction fuel generalizing s vs rest with
  | zero => cases h
  | succ fuel ih =>
    unfold listItems at h
    split at h
    · cases h
    · obtain ⟨rfl, -⟩ := Prod.mk.inj (Option.some.inj h)
      simp
    split at h
    · cases h
    rename_i v after hv
    split at h
    · obtain ⟨⟨us, after'⟩, hus, rfl, -⟩ := map_eq_some_pair h
      intro u hu
      rcases List.mem_cons.1 hu with rfl | hu
      · exact hitem _ _ _ hv
      · exact ih hus u hu
    · obtain ⟨rfl, -⟩ := Prod.mk.inj (Option.some.inj h)
      intro u hu
      obtain rfl := List.mem_singleton.1 hu
      exact hitem _ _ _ hv
    · cases h

theorem assignment_distinct {item : List Char → Step Value} (hitem : ReadsDistinct item)
    {s rest : List Char} {a : List String × Value} (h : assignment item s = some (a, rest)) :
    a.2.Distinct := by
  unfold assignment at h
  split at h
  · obtain ⟨⟨v, after⟩, hv, rfl, -⟩ := map_eq_some_pair h
    exact hitem _ _ _ hv
  · cases h

theorem braceItems_distinct {item : List Char → Step Value} (hitem : ReadsDistinct item)
    {fuel : Nat} {s rest : List Char} {as : List (List String × Value)}
    (h : braceItems item fuel s = some (as, rest)) : ∀ a ∈ as, a.2.Distinct := by
  induction fuel generalizing s as rest with
  | zero => cases h
  | succ fuel ih =>
    unfold braceItems at h
    split at h
    · cases h
    rename_i a after ha
    split at h
    · obtain ⟨⟨bs, after'⟩, hbs, rfl, -⟩ := map_eq_some_pair h
      intro b hb
      rcases List.mem_cons.1 hb with rfl | hb
      · exact assignment_distinct hitem ha
      · exact ih hbs b hb
    · obtain ⟨rfl, -⟩ := Prod.mk.inj (Option.some.inj h)
      intro b hb
      obtain rfl := List.mem_singleton.1 hb
      exact assignment_distinct hitem ha
    · cases h

/-- Every value that is read has distinct names, however deep it nests. -/
theorem value_distinct (depth : Nat) : ReadsDistinct (value depth) := by
  -- Lists and braces read their parts at the depth below.
  induction depth using Nat.strongRecOn with
  | ind depth ih =>
    intro s v rest h
    unfold value at h
    split at h
    · obtain ⟨⟨t, after⟩, -, rfl, -⟩ := map_eq_some_pair h
      exact .text _
    · obtain ⟨⟨t, after⟩, -, rfl, -⟩ := map_eq_some_pair h
      exact .text _
    · cases depth with
      | zero => cases h
      | succ depth =>
        obtain ⟨⟨vs, after⟩, hvs, rfl, -⟩ := map_eq_some_pair h
        exact .list (listItems_distinct (ih depth (Nat.lt_succ_self depth)) hvs)
    · cases depth with
      | zero => cases h
      | succ depth =>
        simp only at h
        split at h
        · obtain ⟨rfl, -⟩ := Prod.mk.inj (Option.some.inj h)
          exact .table (by simp) (by simp)
        split at h
        · cases h
        rename_i as after has
        obtain ⟨u, hu, rfl, -⟩ := map_eq_some_pair h
        exact inlineTable_distinct (braceItems_distinct (ih depth (Nat.lt_succ_self depth)) has) hu
    · exact unquoted_distinct _ _ _ h

/-! ## Reading documents -/

def Statement.Distinct : Statement → Prop
  | assign _ v => v.Distinct
  | _ => True

theorem header_distinct {s rest : List Char} {st : Statement} (h : header s = some (st, rest)) :
    st.Distinct := by
  unfold header at h
  split at h
  · split at h
    · obtain ⟨after, -, rfl, -⟩ := map_eq_some_pair h
      trivial
    · cases h
  · split at h
    · obtain ⟨after, -, rfl, -⟩ := map_eq_some_pair h
      trivial
    · cases h
  · cases h

theorem statements_distinct {fuel : Nat} {s : List Char} {sts : List Statement}
    (h : statements fuel s = some sts) : ∀ st ∈ sts, st.Distinct := by
  induction fuel generalizing s sts with
  | zero => cases h
  | succ fuel ih =>
    have hcons : ∀ {st : Statement} {rest : List Char}, st.Distinct →
        (statements fuel rest).map (st :: ·) = some sts → ∀ st ∈ sts, st.Distinct := by
      intro st rest hst h
      obtain ⟨more, hmore, rfl⟩ := Option.map_eq_some_iff.1 h
      intro u hu
      rcases List.mem_cons.1 hu with rfl | hu
      · exact hst
      · exact ih hmore u hu
    unfold statements at h
    split at h
    · obtain rfl := Option.some.inj h
      simp
    split at h
    · obtain ⟨rest, -, h⟩ := Option.bind_eq_some_iff.1 h
      exact ih h
    split at h
    · obtain ⟨rest, -, h⟩ := Option.bind_eq_some_iff.1 h
      exact ih h
    split at h
    · split at h
      · cases h
      · rename_i hst
        exact hcons (header_distinct hst) h
    · split at h
      · cases h
      · rename_i path v rest hv
        split at h
        · cases h
        · have hst : (Statement.assign path v).Distinct :=
            assignment_distinct (value_distinct _) hv
          exact hcons hst h

theorem apply_distinct {st : Statement} (hst : st.Distinct) {opened opened' : List String}
    {ms ms' : Members} (h : st.apply opened ms = some (opened', ms')) (hms : ms.Distinct) :
    ms'.Distinct := by
  cases st with
  | table path =>
    obtain ⟨next, hnext, -, rfl⟩ := map_eq_some_pair h
    exact openTable_distinct hnext hms
  | item path =>
    obtain ⟨next, hnext, -, rfl⟩ := map_eq_some_pair h
    exact addTable_distinct hnext hms
  | assign path v =>
    obtain ⟨next, hnext, -, rfl⟩ := map_eq_some_pair h
    exact alter_distinct (fun _ _ _ h hms => assign_distinct hst h hms) hnext hms

theorem membersOf_distinct {sts : List Statement} (hsts : ∀ st ∈ sts, st.Distinct)
    {opened : List String} {ms ms' : Members} (h : membersOf sts opened ms = some ms')
    (hms : ms.Distinct) : ms'.Distinct := by
  induction sts generalizing opened ms with
  | nil =>
    obtain rfl := Option.some.inj h
    exact hms
  | cons st sts ih =>
    unfold membersOf at h
    split at h
    · cases h
    · rename_i opened' next hnext
      exact ih (fun u hu => hsts u (List.mem_cons_of_mem _ hu)) h
        (apply_distinct (hsts st (List.mem_cons_self ..)) hnext hms)

/-- **A document that was read has distinct names**, in the table that it is and in all tables
below. -/
theorem parse_distinct {text : String} {d : Value} (h : parse text = some d) : d.Distinct := by
  obtain ⟨sts, hsts, h⟩ := Option.bind_eq_some_iff.1 h
  obtain ⟨ms, hms, rfl⟩ := Option.map_eq_some_iff.1 h
  exact (membersOf_distinct (statements_distinct hsts) hms .nil).value

end UserRegistry.Toml
