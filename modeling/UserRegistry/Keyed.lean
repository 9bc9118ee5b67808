/-!
# Lists of keyed things

A list of pairs of a key and a thing. `put` replaces what stands under a key, or adds it at the
end; `remove` takes it away. Both are described by what `List.lookup` finds afterwards, and both
keep the keys apart from each other. `ofList` puts several things one after the other.
-/

namespace UserRegistry.Keyed

variable [DecidableEq κ]

/-- The list with a thing under a key, in place of a former one or after all others. -/
def put (key : κ) (a : α) : List (κ × α) → List (κ × α)
  | [] => [(key, a)]
  | m :: ms => if m.1 = key then (key, a) :: ms else m :: put key a ms

def remove (key : κ) (ms : List (κ × α)) : List (κ × α) :=
  ms.filter fun m => m.1 != key

theorem lookup_cons (m : κ × α) (ms : List (κ × α)) (k : κ) :
    (m :: ms).lookup k = if k = m.1 then some m.2 else ms.lookup k := by
  obtain ⟨n, a⟩ := m
  rw [List.lookup_cons]
  by_cases h : k = n
  · simp [h]
  · simp [h, beq_eq_false_iff_ne.2 h]

theorem lookup_eq_none_iff {ms : List (κ × α)} {k : κ} :
    ms.lookup k = none ↔ k ∉ ms.map Prod.fst := by
  induction ms with
  | nil => simp
  | cons m ms ih =>
    rw [lookup_cons, List.map_cons, List.mem_cons]
    by_cases h : k = m.1
    · simp [h]
    · simp [h, ih]

theorem mem_of_lookup {ms : List (κ × α)} {k : κ} {a : α} (h : ms.lookup k = some a) :
    (k, a) ∈ ms := by
  induction ms with
  | nil => cases h
  | cons m ms ih =>
    rw [lookup_cons] at h
    split at h
    · rename_i hk
      obtain rfl := Option.some.inj h
      rw [hk]
      exact List.mem_cons_self ..
    · exact List.mem_cons_of_mem _ (ih h)

theorem lookup_of_mem {ms : List (κ × α)} {m : κ × α} (hnodup : (ms.map Prod.fst).Nodup)
    (h : m ∈ ms) : ms.lookup m.1 = some m.2 := by
  induction ms with
  | nil => cases h
  | cons n ms ih =>
    obtain ⟨hn, hnodup⟩ := List.nodup_cons.1 hnodup
    rw [lookup_cons]
    rcases List.mem_cons.1 h with rfl | h
    · rw [if_pos rfl]
    · have hne : m.1 ≠ n.1 := fun e => hn (List.mem_map.2 ⟨m, h, e⟩)
      rw [if_neg hne, ih hnodup h]

/-- Where all keys are apart the order does not matter. -/
theorem lookup_perm {ms ms' : List (κ × α)} (h : ms.Perm ms') (hnodup : (ms.map Prod.fst).Nodup)
    (k : κ) : ms.lookup k = ms'.lookup k := by
  cases hk : ms'.lookup k with
  | none =>
    rw [lookup_eq_none_iff] at hk ⊢
    exact fun hm => hk ((h.map Prod.fst).mem_iff.1 hm)
  | some v => exact lookup_of_mem hnodup (h.mem_iff.2 (mem_of_lookup hk))

theorem lookup_put (key : κ) (a : α) (ms : List (κ × α)) (k : κ) :
    (put key a ms).lookup k = if k = key then some a else ms.lookup k := by
  induction ms with
  | nil => simp [put, lookup_cons]
  | cons m ms ih =>
    unfold put
    split
    · rename_i hm
      subst hm
      simp only [lookup_cons]
      split <;> rfl
    · rename_i hm
      simp only [lookup_cons, ih]
      by_cases h : k = m.1
      · subst h
        simp [hm]
      · simp [h]

theorem lookup_remove (key : κ) (ms : List (κ × α)) (k : κ) :
    (remove key ms).lookup k = if k = key then none else ms.lookup k := by
  unfold remove
  induction ms with
  | nil => simp
  | cons m ms ih =>
    by_cases hm : m.1 = key
    · subst hm
      simp only [bne_self_eq_false, Bool.false_eq_true, not_false_eq_true, List.filter_cons_of_neg,
        ih, lookup_cons]
      split <;> rfl
    · simp only [bne_iff_ne, ne_eq, hm, not_false_eq_true, List.filter_cons_of_pos, lookup_cons, ih]
      by_cases h : k = m.1
      · subst h
        simp [hm]
      · simp [h]

theorem keys_put (key : κ) (a : α) (ms : List (κ × α)) :
    (put key a ms).map Prod.fst =
      if key ∈ ms.map Prod.fst then ms.map Prod.fst else ms.map Prod.fst ++ [key] := by
  induction ms with
  | nil => simp [put]
  | cons m ms ih =>
    unfold put
    by_cases hm : m.1 = key
    · simp [hm]
    · simp only [hm, ↓reduceIte, List.map_cons, ih, List.mem_cons, Ne.symm hm, false_or]
      split <;> simp

theorem nodup_put {key : κ} {a : α} {ms : List (κ × α)}
    (h : (ms.map Prod.fst).Nodup) : ((put key a ms).map Prod.fst).Nodup := by
  rw [keys_put]
  split
  · exact h
  · rename_i hn
    refine List.nodup_append.2 ⟨h, by simp, ?_⟩
    intro x hx y hy e
    simp only [List.mem_singleton] at hy
    exact hn (hy ▸ e ▸ hx)

theorem nodup_remove {key : κ} {ms : List (κ × α)}
    (h : (ms.map Prod.fst).Nodup) : ((remove key ms).map Prod.fst).Nodup :=
  h.sublist (List.filter_sublist.map Prod.fst)

/-! ## Several things one after the other -/

/-- The list of several things, where the last one under a key stays, in the place of the first. -/
def ofList (ms : List (κ × α)) : List (κ × α) :=
  ms.foldl (fun l m => put m.1 m.2 l) []

theorem put_of_notMem {key : κ} {ms : List (κ × α)} (h : key ∉ ms.map Prod.fst) (a : α) :
    put key a ms = ms ++ [(key, a)] := by
  induction ms with
  | nil => rfl
  | cons m ms ih =>
    obtain ⟨hm, hms⟩ := not_or.1 (mt List.mem_cons.2 h)
    rw [put, if_neg (Ne.symm hm), ih hms, List.cons_append]

theorem mem_of_mem_put {key : κ} {a : α} {ms : List (κ × α)} {m : κ × α} (h : m ∈ put key a ms) :
    m = (key, a) ∨ m ∈ ms := by
  induction ms with
  | nil => exact .inl (List.mem_singleton.1 h)
  | cons n ms ih =>
    rw [put] at h
    split at h
    · exact (List.mem_cons.1 h).imp_right (List.mem_cons_of_mem n)
    · rcases List.mem_cons.1 h with rfl | h
      · exact .inr (List.mem_cons_self ..)
      · exact (ih h).imp_right (List.mem_cons_of_mem n)

theorem nodup_ofList (ms : List (κ × α)) : ((ofList ms).map Prod.fst).Nodup := by
  have hall : ∀ acc : List (κ × α), (acc.map Prod.fst).Nodup →
      ((ms.foldl (fun l m => put m.1 m.2 l) acc).map Prod.fst).Nodup := by
    induction ms with
    | nil => exact fun acc h => h
    | cons m ms ih => exact fun acc h => ih _ (nodup_put h)
  exact hall [] .nil

/-- Where all keys are apart nothing is replaced. -/
theorem ofList_of_nodup {ms : List (κ × α)} (h : (ms.map Prod.fst).Nodup) : ofList ms = ms := by
  have hall : ∀ acc : List (κ × α), ((acc ++ ms).map Prod.fst).Nodup →
      ms.foldl (fun l m => put m.1 m.2 l) acc = acc ++ ms := by
    clear h
    induction ms with
    | nil => simp
    | cons m ms ih =>
      intro acc h
      have hm : m.1 ∉ acc.map Prod.fst := by
        rw [List.map_append, List.map_cons] at h
        exact fun hm => (List.nodup_append.1 h).2.2 _ hm _ (List.mem_cons_self ..) rfl
      rw [List.foldl_cons, put_of_notMem hm, ih _ (by simpa using h)]
      simp
  exact hall [] h

theorem mem_of_mem_ofList {ms : List (κ × α)} {m : κ × α} (h : m ∈ ofList ms) : m ∈ ms := by
  have hall : ∀ acc : List (κ × α), m ∈ ms.foldl (fun l m => put m.1 m.2 l) acc →
      m ∈ acc ∨ m ∈ ms := by
    clear h
    induction ms with
    | nil => exact fun acc h => .inl h
    | cons n ms ih =>
      intro acc h
      rcases ih _ h with h | h
      · rcases mem_of_mem_put h with rfl | h
        · exact .inr (List.mem_cons_self ..)
        · exact .inl h
      · exact .inr (List.mem_cons_of_mem n h)
  exact (hall [] h).resolve_left (List.not_mem_nil)

theorem key_mem_ofList {ms : List (κ × α)} {m : κ × α} (h : m ∈ ms) :
    m.1 ∈ (ofList ms).map Prod.fst := by
  have hput : ∀ (n : κ × α) (acc : List (κ × α)) (k : κ), k = n.1 ∨ k ∈ acc.map Prod.fst →
      k ∈ (put n.1 n.2 acc).map Prod.fst := by
    intro n acc k hk
    rw [keys_put]
    split
    · rcases hk with rfl | hk <;> assumption
    · exact List.mem_append.2 (hk.symm.imp_right List.mem_singleton.2)
  have hall : ∀ acc : List (κ × α), m.1 ∈ acc.map Prod.fst ∨ m ∈ ms →
      m.1 ∈ (ms.foldl (fun l m => put m.1 m.2 l) acc).map Prod.fst := by
    clear h
    induction ms with
    | nil => exact fun acc h => h.resolve_right (List.not_mem_nil)
    | cons n ms ih =>
      rintro acc (h | h)
      · exact ih _ (.inl (hput n acc _ (.inr h)))
      · rcases List.mem_cons.1 h with rfl | h
        · exact ih _ (.inl (hput m acc _ (.inl rfl)))
        · exact ih _ (.inr h)
  exact hall [] (.inr h)

/-- What stands alone under its key stays. -/
theorem mem_ofList_of_alone {ms : List (κ × α)} {m : κ × α} (h : m ∈ ms)
    (halone : ∀ n ∈ ms, n.1 = m.1 → n = m) : m ∈ ofList ms := by
  obtain ⟨n, hn, hkey⟩ := List.mem_map.1 (key_mem_ofList h)
  rwa [← halone n (mem_of_mem_ofList hn) hkey]

end UserRegistry.Keyed
