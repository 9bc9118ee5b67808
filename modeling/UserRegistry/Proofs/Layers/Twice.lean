import UserRegistry.Proofs.Layers.Documents

/-!
# A document put on twice

Putting a document onto a tree a second time changes nothing: `Simple.putLayer_putLayer`. It is not
enough for this that every name has a value after the first time, since a table is merged into what
was there, and an empty table leaves whatever that was. The value that a name has then is the one
to which merging adds nothing any more (`onto_ofToml_onto`), at every depth.
-/

namespace UserRegistry

theorem Keyed.put_eq_self {κ α : Type} [DecidableEq κ] {ms : List (κ × α)} {k : κ} {a : α}
    (h : ms.lookup k = some a) : Keyed.put k a ms = ms := by
  induction ms with
  | nil => cases h
  | cons m ms ih =>
    obtain ⟨n, b⟩ := m
    rw [Keyed.lookup_cons] at h
    rw [Keyed.put]
    by_cases hn : n = k
    · rw [if_pos hn.symm] at h
      obtain rfl : b = a := Option.some.inj h
      rw [if_pos hn, hn]
    · rw [if_neg (Ne.symm hn)] at h
      rw [if_neg hn, ih h]

namespace Layers

namespace Tree

theorem changeMember_eq_self {n : String} {start x t : Tree} {change : Tree → Tree}
    (h : t.member? n = some x) (hchange : change x = x) : changeMember n start change t = t := by
  cases t with
  | table o ms =>
    have hlookup : ms.lookup n = some x := h
    simp only [changeMember, asTable, hlookup, Option.getD_some, hchange, Keyed.put_eq_self hlookup]
  | _ => cases h

/-- A value changes nothing where its name has what comes of putting it there. -/
theorem put_eq_self {n : String} {v x t : Tree} (h : t.member? (Text.lowercase n) = some x)
    (hv : v.onto (some x) = x) : put n v t = t := by
  cases v with
  | scalar o y => rw [put, changeMember_eq_self h hv]
  | list o ts => rw [put, changeMember_eq_self h hv]
  | table o ms => rw [put, changeMember_eq_self h hv]

theorem putAll_eq_self {ms : List (String × Tree)} {t : Tree} (h : ∀ m ∈ ms, put m.1 m.2 t = t) :
    putAll ms t = t := by
  induction ms with
  | nil => rfl
  | cons m ms ih =>
    obtain ⟨n, v⟩ := m
    rw [putAll, h (n, v) (by simp), ih fun m hm => h m (List.mem_cons_of_mem _ hm)]

/-- Values with distinct names may be put twice if each of them may. -/
theorem putAll_putAll {ms : List (String × Tree)} (hnames : (ms.map Prod.fst).Nodup)
    (hlower : ∀ m ∈ ms, Text.lowercase m.1 = m.1)
    (honto : ∀ m ∈ ms, ∀ old, m.2.onto (some (m.2.onto old)) = m.2.onto old) (t : Tree) :
    putAll ms (putAll ms t) = putAll ms t := by
  refine putAll_eq_self fun m hm => put_eq_self (x := m.2.onto (t.member? m.1)) ?_ (honto m hm _)
  rw [hlower m hm, member?_putAll hnames hlower, Keyed.lookup_of_mem hnames hm]
  rfl

/-- What was put onto something may be put onto it again. -/
theorem onto_ofToml_onto {v : Toml.Value} (hd : v.Distinct) (hlower : v.isLower = true)
    (o : String) (old : Option Tree) :
    (ofToml o v).onto (some ((ofToml o v).onto old)) = (ofToml o v).onto old := by
  induction hd generalizing old with
  | @table ms names members ih =>
    have hmembers := ofTomlMembers_eq_map o ms
    have hmember {m : String × Toml.Value} (hm : m ∈ ms) :=
      Toml.Value.isLower_member (v := .table ms) hlower hm
    have hnames : ((ofTomlMembers o ms).map Prod.fst).Nodup := by
      rwa [hmembers, List.map_map]
    refine putAll_putAll hnames (fun m hm => ?_) (fun m hm old => ?_) (old.getD empty)
    · rw [hmembers] at hm
      obtain ⟨m', hm', rfl⟩ := List.mem_map.1 hm
      exact (hmember hm').1
    · rw [hmembers] at hm
      obtain ⟨m', hm', rfl⟩ := List.mem_map.1 hm
      exact ih m' hm' (hmember hm').2 old
  | _ => rfl

/-- Names without points and brackets are no paths. -/
theorem putLayer_eq_putAll {layer : List (String × Tree)}
    (h : ∀ m ∈ layer, '.' ∉ m.1.toList ∧ '[' ∉ m.1.toList) (t : Tree) :
    putLayer layer t = putAll layer t := by
  induction layer generalizing t with
  | nil => rfl
  | cons m layer ih =>
    obtain ⟨n, v⟩ := m
    obtain ⟨hpoint, hbracket⟩ := h (n, v) (by simp)
    have hput : putAtText n v t = put n v t := by
      rw [putAtText, ofText_plain hpoint hbracket, putAt]
    rw [putAll, ← ih fun m hm => h m (List.mem_cons_of_mem _ hm), ← hput]
    rfl

end Tree

/-- **A document that is put on a second time changes nothing.** -/
theorem Simple.putLayer_putLayer {d : Toml.Value} (h : Simple d) (hd : d.Distinct) (o : String)
    (t : Tree) : (t.putLayer (Tree.layerOfToml o d)).putLayer (Tree.layerOfToml o d) =
      t.putLayer (Tree.layerOfToml o d) := by
  have hlayer : ∀ m ∈ Tree.layerOfToml o d, ∃ m' ∈ d.members, m = (m'.1, Tree.ofToml o m'.2) := by
    intro m hm
    rw [Tree.layerOfToml, Tree.members_ofToml] at hm
    obtain ⟨m', hm', rfl⟩ := List.mem_map.1 hm
    exact ⟨m', hm', rfl⟩
  have hplain : ∀ m ∈ Tree.layerOfToml o d, '.' ∉ m.1.toList ∧ '[' ∉ m.1.toList := by
    intro m hm
    obtain ⟨m', hm', rfl⟩ := hlayer m hm
    exact h.names m' hm'
  have hnames : ((Tree.layerOfToml o d).map Prod.fst).Nodup := by
    rw [Tree.layerOfToml, Tree.names_ofToml]
    exact hd.names
  rw [Tree.putLayer_eq_putAll hplain, Tree.putLayer_eq_putAll hplain]
  refine Tree.putAll_putAll hnames (fun m hm => ?_) (fun m hm old => ?_) t
  · obtain ⟨m', hm', rfl⟩ := hlayer m hm
    exact (Toml.Value.isLower_member h.lower hm').1
  · obtain ⟨m', hm', rfl⟩ := hlayer m hm
    exact Tree.onto_ofToml_onto (hd.member hm') (Toml.Value.isLower_member h.lower hm').2 o old

end Layers

end UserRegistry
