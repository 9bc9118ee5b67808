import UserRegistry.Proofs.Layers.Documents
import UserRegistry.Proofs.Layers.Order

/-!
# Documents in an order

A load meets the names of a document by some ranks. What it puts on the tree then is what it would
put there for another document, in which the names are listed so: `inOrder`. That document says the
same of every field (`at?_inOrder`), so what is known of documents as they are listed is known of
them in every order.
-/

namespace UserRegistry

namespace Layers.Ranks

variable {name : α → String} {name' : β → String} {f : α → β}

theorem insert_map (r : Ranks) (h : ∀ a, name' (f a) = name a) (a : α) (as : List α) :
    r.insert name' (f a) (as.map f) = (r.insert name a as).map f := by
  induction as with
  | nil => rfl
  | cons b bs ih =>
    simp only [List.map_cons, insert, h, ih]
    split <;> simp

theorem sort_map (r : Ranks) (h : ∀ a, name' (f a) = name a) (as : List α) :
    r.sort name' (as.map f) = (r.sort name as).map f := by
  induction as with
  | nil => rfl
  | cons a as ih => rw [List.map_cons, sort, sort, ih, insert_map r h]

end Layers.Ranks

namespace Toml.Value

open Layers (Ranks)

mutual

/-- A document with the names of its tables by their ranks, at every depth but in lists. -/
def inOrder (r : Ranks) : Value → Value
  | table ms => table (r.sort Prod.fst (inOrderMembers r ms))
  | text s => text s
  | int i => int i
  | float x => float x
  | flag b => flag b
  | moment s => moment s
  | list vs => list vs

def inOrderMembers (r : Ranks) : List (String × Value) → List (String × Value)
  | [] => []
  | (n, v) :: ms => (n, inOrder (r.under n) v) :: inOrderMembers r ms

end

theorem inOrderMembers_eq_map (r : Ranks) (ms : List (String × Value)) :
    inOrderMembers r ms = ms.map fun m => (m.1, m.2.inOrder (r.under m.1)) := by
  induction ms with
  | nil => rfl
  | cons m ms ih => rw [inOrderMembers, ih, List.map_cons]

mutual

@[simp] theorem inOrder_listed (v : Value) : v.inOrder .listed = v := by
  cases v with
  | table ms => rw [inOrder, inOrderMembers_listed ms, Ranks.sort_listed]
  | _ => rfl

theorem inOrderMembers_listed (ms : List (String × Value)) : inOrderMembers .listed ms = ms := by
  match ms with
  | [] => rfl
  | (n, v) :: ms =>
    rw [inOrderMembers, Ranks.listed_under, inOrder_listed v, inOrderMembers_listed ms]

end

theorem isTable_inOrder (r : Ranks) (v : Value) : (v.inOrder r).isTable = v.isTable := by
  cases v <;> rfl

theorem inOrder_of_not_table {v : Value} (h : v.isTable = false) (r : Ranks) :
    v.inOrder r = v := by
  cases v with
  | table ms => cases h
  | _ => rfl

theorem members_inOrder_perm (r : Ranks) (v : Value) :
    (v.inOrder r).members.Perm (v.members.map fun m => (m.1, m.2.inOrder (r.under m.1))) := by
  cases v with
  | table ms =>
    rw [inOrder, inOrderMembers_eq_map]
    exact r.perm_sort _ _
  | _ => exact .nil

theorem names_inOrder_perm (r : Ranks) (v : Value) :
    ((v.inOrder r).members.map Prod.fst).Perm (v.members.map Prod.fst) := by
  have h := (members_inOrder_perm r v).map Prod.fst
  rwa [List.map_map] at h

theorem mem_inOrder {r : Ranks} {v : Value} {m : String × Value} (h : m ∈ (v.inOrder r).members) :
    ∃ x, (m.1, x) ∈ v.members ∧ m.2 = x.inOrder (r.under m.1) := by
  obtain ⟨⟨n, x⟩, hx, rfl⟩ := List.mem_map.1 ((members_inOrder_perm r v).mem_iff.1 h)
  exact ⟨x, hx, rfl⟩

theorem Distinct.inOrder {v : Value} (h : v.Distinct) (r : Ranks) : (v.inOrder r).Distinct := by
  induction h generalizing r with
  | table names _ ih =>
    rename_i ms _
    refine .table ((names_inOrder_perm r (.table ms)).nodup_iff.2 names) fun m hm => ?_
    obtain ⟨x, hx, hmx⟩ := mem_inOrder (v := .table ms) hm
    rw [hmx]
    exact ih _ hx _
  | list items _ => exact .list items
  | text s => exact .text s
  | int i => exact .int i
  | float x => exact .float x
  | flag b => exact .flag b
  | moment s => exact .moment s

theorem member?_inOrder {v : Value} (h : v.Distinct) (r : Ranks) (n : String) :
    (v.inOrder r).member? n = (v.member? n).map fun x => x.inOrder (r.under n) := by
  have hnames := (names_inOrder_perm r v).nodup_iff.2 h.names
  rw [member?, Keyed.lookup_perm (members_inOrder_perm r v) hnames, member?]
  induction v.members with
  | nil => rfl
  | cons m ms ih =>
    rw [List.map_cons, Keyed.lookup_cons, Keyed.lookup_cons, ih]
    by_cases hn : n = m.1
    · simp [hn]
    · simp [hn]

/-- A document says the same of a field in every order, up to the order within it. -/
theorem at?_inOrder {v : Value} (h : v.Distinct) (r : Ranks) (s f : String) :
    (v.inOrder r).at? s f = (v.at? s f).map fun x => x.inOrder ((r.under s).under f) := by
  rw [at?, at?, member?_inOrder h]
  cases hx : v.member? s with
  | none => rfl
  | some x => exact member?_inOrder (h.member (Keyed.mem_of_lookup hx)) (r.under s) f

end Toml.Value

namespace Layers

mutual

theorem Tree.ofToml_inOrder (origin : String) (r : Ranks) (v : Toml.Value) :
    ofToml origin (v.inOrder r) = (ofToml origin v).arranged r := by
  match v with
  | .table ms =>
    have hmembers := Tree.ofTomlMembers_inOrder origin r ms
    rw [Toml.Value.inOrder, ofToml, ofToml, arranged, ← hmembers, ofTomlMembers_eq_map,
      ofTomlMembers_eq_map, r.sort_map fun _ => rfl]
  | .text s => rfl
  | .int i => rfl
  | .float x => rfl
  | .flag b => rfl
  | .moment s => rfl
  | .list vs => rfl

theorem Tree.ofTomlMembers_inOrder (origin : String) (r : Ranks) (ms : List (String × Toml.Value)) :
    ofTomlMembers origin (Toml.Value.inOrderMembers r ms) =
      arrangedMembers r (ofTomlMembers origin ms) := by
  match ms with
  | [] => rfl
  | (n, v) :: ms =>
    rw [Toml.Value.inOrderMembers, ofTomlMembers, ofTomlMembers, arrangedMembers,
      Tree.ofToml_inOrder origin (r.under n) v, Tree.ofTomlMembers_inOrder origin r ms]

end

/-- **A document is put on a tree in an order as the document in that order is.** -/
theorem Tree.arrangedLayer_ofToml (origin : String) (r : Ranks) (d : Toml.Value) :
    arrangedLayer r (layerOfToml origin d) = layerOfToml origin (d.inOrder r) := by
  rw [layerOfToml, layerOfToml, ofToml_inOrder]
  cases d <;> rfl

section
variable {d : Toml.Value} (r : Ranks)

theorem Arranged.inOrder (h : Arranged d) : Arranged (d.inOrder r) := by
  refine ⟨fun m hm => ?_, fun m hm hs => ?_, fun m hm hs n hn => ?_⟩
  · obtain ⟨x, hx, -⟩ := Toml.Value.mem_inOrder hm
    exact h.names (m.1, x) hx
  · obtain ⟨x, hx, hmx⟩ := Toml.Value.mem_inOrder hm
    rw [hmx, Toml.Value.isTable_inOrder]
    exact h.sections _ hx hs
  · obtain ⟨x, hx, hmx⟩ := Toml.Value.mem_inOrder hm
    rw [hmx] at hn
    obtain ⟨y, hy, -⟩ := Toml.Value.mem_inOrder hn
    exact h.fieldNames (m.1, x) hx hs (n.1, y) hy

theorem Plain.inOrder (h : Plain d) : Plain (d.inOrder r) := by
  obtain ⟨hnames, hsections, hfieldNames⟩ := h.arranged.inOrder r
  refine ⟨hnames, hsections, hfieldNames, fun m hm n hn hp => ?_⟩
  obtain ⟨x, hx, hmx⟩ := Toml.Value.mem_inOrder hm
  rw [hmx] at hn
  obtain ⟨y, hy, hny⟩ := Toml.Value.mem_inOrder hn
  rw [hny, Toml.Value.isTable_inOrder]
  exact h.fields _ hx _ hy hp

/-- What a plain document says of a field is the same in every order. -/
theorem Plain.at?_inOrder (h : Plain d) (hd : d.Distinct) {p : String × String}
    (hp : p ∈ Layers.fields) : (d.inOrder r).at? p.1 p.2 = d.at? p.1 p.2 := by
  rw [Toml.Value.at?_inOrder hd]
  cases hv : d.at? p.1 p.2 with
  | none => rfl
  | some v =>
    obtain ⟨x, hx, hxv⟩ := Toml.Value.mem_of_at? hv
    rw [Option.map_some, Toml.Value.inOrder_of_not_table (h.fields _ hx _ hxv hp)]

end

/-! ## Documents none of whose values are in the way of others -/

mutual

theorem Tree.namesApart_ofToml (origin : String) (v : Toml.Value) (hlower : v.isLower = true)
    (hv : v.Distinct) : (ofToml origin v).namesApart = true := by
  match v with
  | .table ms =>
    rw [Toml.Value.isLower] at hlower
    rw [ofToml, namesApart, Bool.and_eq_true, decide_eq_true_eq]
    refine ⟨?_, Tree.allNamesApart_ofToml origin ms hlower fun m hm => hv.member hm⟩
    have hnames : (ms.map fun m => Text.lowercase m.1) = ms.map Prod.fst :=
      List.map_congr_left fun m hm =>
        (Toml.Value.isLower_member (v := .table ms) (by rwa [Toml.Value.isLower]) hm).1
    rw [ofTomlMembers_eq_map, List.map_map]
    exact hnames.symm ▸ hv.names
  | .text s => rfl
  | .int i => rfl
  | .float x => rfl
  | .flag b => rfl
  | .moment s => rfl
  | .list vs => rfl

theorem Tree.allNamesApart_ofToml (origin : String) (ms : List (String × Toml.Value))
    (hlower : Toml.Value.membersLower ms = true) (hms : ∀ m ∈ ms, m.2.Distinct) :
    allNamesApart (ofTomlMembers origin ms) = true := by
  match ms with
  | [] => rfl
  | (n, v) :: ms =>
    rw [Toml.Value.membersLower, Bool.and_eq_true, Bool.and_eq_true] at hlower
    obtain ⟨hv, hms⟩ := List.forall_mem_cons.1 hms
    rw [ofTomlMembers, allNamesApart, Tree.namesApart_ofToml origin v hlower.1.2 hv,
      Tree.allNamesApart_ofToml origin ms hlower.2 hms]
    rfl

end

/-- The values of a simple document may be put on a tree in any order. -/
theorem Simple.separate {d : Toml.Value} (h : Simple d) (hd : d.Distinct) (origin : String) :
    Separate (Tree.layerOfToml origin d) := by
  constructor
  · rw [AllApart, Tree.layerOfToml, Tree.members_ofToml, List.pairwise_map]
    refine (List.pairwise_map.1 hd.names).imp_of_mem fun {m n} hm hn hne => ?_
    rw [Tree.ofText_plain (h.names m hm).1 (h.names m hm).2,
      Tree.ofText_plain (h.names n hn).1 (h.names n hn).2]
    refine .inl ?_
    rwa [(Toml.Value.isLower_member h.lower hm).1, (Toml.Value.isLower_member h.lower hn).1]
  · cases d with
    | table ms =>
      have hlower := h.lower
      rw [Toml.Value.isLower] at hlower
      exact Tree.allNamesApart_ofToml origin ms hlower fun m hm => hd.member hm
    | _ => rfl

end Layers

end UserRegistry
