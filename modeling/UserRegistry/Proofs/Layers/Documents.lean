import UserRegistry.Layers.FromToml
import UserRegistry.Proofs.Layers.Merging
import UserRegistry.Proofs.Toml.Distinct

/-!
# Fields in documents

An `Arranged` document has names that stand for themselves and tables for sections. As a layer it
decides on the fields that it has, and leaves the others as they were: what it has for a field is
put onto what was there (`Arranged.at?_putLayer`). In a `Plain` document no field is a table, and so
what was there does not matter (`Plain.at?_putLayer`). A `Tidy` document is arranged by the letters
of its names alone.
-/

namespace UserRegistry

namespace Toml.Value

/-- The members of a table; anything else has none. -/
def members : Value → List (String × Value)
  | table ms => ms
  | _ => []

def isTable : Value → Bool
  | table _ => true
  | _ => false

def member? (d : Value) (name : String) : Option Value :=
  d.members.lookup name

def at? (d : Value) (s f : String) : Option Value :=
  (d.member? s).bind fun x => x.member? f

theorem mem_of_at? {d v : Value} {s f : String} (h : d.at? s f = some v) :
    ∃ x, (s, x) ∈ d.members ∧ (f, v) ∈ x.members := by
  obtain ⟨x, hx, hv⟩ := Option.bind_eq_some_iff.1 h
  exact ⟨x, Keyed.mem_of_lookup hx, Keyed.mem_of_lookup hv⟩

theorem Distinct.names {d : Value} (h : d.Distinct) : (d.members.map Prod.fst).Nodup := by
  cases h with
  | table names members => exact names
  | _ => exact .nil

theorem Distinct.member {d : Value} (h : d.Distinct) {m : String × Value} (hm : m ∈ d.members) :
    m.2.Distinct := by
  cases h with
  | table names members => exact members m hm
  | _ => cases hm

mutual

/-- Whether all names in a value are in lower case, at every depth. -/
def isLower : Value → Bool
  | .list vs => itemsLower vs
  | .table ms => membersLower ms
  | _ => true

def itemsLower : List Value → Bool
  | [] => true
  | v :: vs => v.isLower && itemsLower vs

def membersLower : List (String × Value) → Bool
  | [] => true
  | (n, v) :: ms => Text.lowercase n == n && v.isLower && membersLower ms

end

theorem isLower_member {v : Value} (h : v.isLower = true) {m : String × Value}
    (hm : m ∈ v.members) : Text.lowercase m.1 = m.1 ∧ m.2.isLower = true := by
  have hall : ∀ ms : List (String × Value), membersLower ms = true → ∀ m ∈ ms,
      Text.lowercase m.1 = m.1 ∧ m.2.isLower = true := by
    intro ms hms
    induction ms with
    | nil => simp
    | cons m ms ih =>
      obtain ⟨n, v⟩ := m
      simp only [membersLower, Bool.and_eq_true, beq_iff_eq] at hms
      exact List.forall_mem_cons.2 ⟨hms.1, ih hms.2⟩
  cases v with
  | table ms =>
    rw [isLower] at h
    exact hall ms h m hm
  | _ => cases hm

end Toml.Value

namespace Layers

/-- The names of a document stand for themselves, its sections are tables, and no field in them
is. -/
structure Plain (d : Toml.Value) : Prop where
  names : ∀ m ∈ d.members, Text.lowercase m.1 = m.1 ∧ '.' ∉ m.1.toList ∧ '[' ∉ m.1.toList
  sections : ∀ m ∈ d.members, m.1 ∈ Layers.sections → m.2.isTable = true
  fieldNames : ∀ m ∈ d.members, m.1 ∈ Layers.sections →
    ∀ n ∈ m.2.members, Text.lowercase n.1 = n.1
  fields : ∀ m ∈ d.members, ∀ n ∈ m.2.members, (m.1, n.1) ∈ Layers.fields → n.2.isTable = false

instance (d : Toml.Value) : Decidable (Plain d) :=
  decidable_of_iff ((∀ m ∈ d.members, Text.lowercase m.1 = m.1 ∧ '.' ∉ m.1.toList ∧
      '[' ∉ m.1.toList) ∧ (∀ m ∈ d.members, m.1 ∈ Layers.sections → m.2.isTable = true) ∧
      (∀ m ∈ d.members, m.1 ∈ Layers.sections → ∀ n ∈ m.2.members, Text.lowercase n.1 = n.1) ∧
      ∀ m ∈ d.members, ∀ n ∈ m.2.members, (m.1, n.1) ∈ Layers.fields → n.2.isTable = false)
    ⟨fun ⟨a, b, c, e⟩ => ⟨a, b, c, e⟩, fun ⟨a, b, c, e⟩ => ⟨a, b, c, e⟩⟩

/-- The names of a document stand for themselves, and its sections are tables. -/
structure Arranged (d : Toml.Value) : Prop where
  names : ∀ m ∈ d.members, Text.lowercase m.1 = m.1 ∧ '.' ∉ m.1.toList ∧ '[' ∉ m.1.toList
  sections : ∀ m ∈ d.members, m.1 ∈ Layers.sections → m.2.isTable = true
  fieldNames : ∀ m ∈ d.members, m.1 ∈ Layers.sections →
    ∀ n ∈ m.2.members, Text.lowercase n.1 = n.1

theorem Plain.arranged {d : Toml.Value} (h : Plain d) : Arranged d :=
  ⟨h.names, h.sections, h.fieldNames⟩

/-- A document with names in lower case, those at the top made of letters and digits of ASCII, low
lines and hyphens, and with tables for sections. -/
structure Tidy (d : Toml.Value) : Prop where
  lower : d.isLower = true
  names : ∀ m ∈ d.members, m.1.toList.all Toml.isNameChar = true
  sections : ∀ m ∈ d.members, m.1 ∈ Layers.sections → m.2.isTable = true

instance (d : Toml.Value) : Decidable (Tidy d) :=
  decidable_of_iff (d.isLower = true ∧ (∀ m ∈ d.members, m.1.toList.all Toml.isNameChar = true) ∧
      ∀ m ∈ d.members, m.1 ∈ Layers.sections → m.2.isTable = true)
    ⟨fun ⟨a, b, c⟩ => ⟨a, b, c⟩, fun ⟨a, b, c⟩ => ⟨a, b, c⟩⟩

/-- The names of a document are in lower case at every depth, and those at the top are no paths.
Values are of any kind. -/
structure Simple (d : Toml.Value) : Prop where
  lower : d.isLower = true
  names : ∀ m ∈ d.members, '.' ∉ m.1.toList ∧ '[' ∉ m.1.toList

instance (d : Toml.Value) : Decidable (Simple d) :=
  decidable_of_iff (d.isLower = true ∧ ∀ m ∈ d.members, '.' ∉ m.1.toList ∧ '[' ∉ m.1.toList)
    ⟨fun ⟨a, b⟩ => ⟨a, b⟩, fun ⟨a, b⟩ => ⟨a, b⟩⟩

theorem Tidy.simple {d : Toml.Value} (h : Tidy d) : Simple d := by
  refine ⟨h.lower, fun m hm => ?_⟩
  have hchar : ∀ c ∈ m.1.toList, Toml.isNameChar c = true := List.all_eq_true.1 (h.names m hm)
  refine ⟨fun hpoint => ?_, fun hbracket => ?_⟩
  · exact absurd (hchar _ hpoint) (by decide)
  · exact absurd (hchar _ hbracket) (by decide)

theorem Tidy.arranged {d : Toml.Value} (h : Tidy d) : Arranged d := by
  refine ⟨fun m hm => ?_, h.sections, fun m hm _ n hn =>
    (Toml.Value.isLower_member (Toml.Value.isLower_member h.lower hm).2 hn).1⟩
  exact ⟨(Toml.Value.isLower_member h.lower hm).1, h.simple.names m hm⟩

namespace Tree

theorem isTable_ofToml (o : String) (v : Toml.Value) : (ofToml o v).isTable = v.isTable := by
  cases v <;> rfl

theorem ofTomlMembers_eq_map (o : String) (ms : List (String × Toml.Value)) :
    ofTomlMembers o ms = ms.map fun m => (m.1, ofToml o m.2) := by
  induction ms with
  | nil => rfl
  | cons m ms ih =>
    obtain ⟨n, v⟩ := m
    rw [ofTomlMembers, ih, List.map_cons]

theorem members_ofToml (o : String) (v : Toml.Value) :
    (ofToml o v).members = v.members.map fun m => (m.1, ofToml o m.2) := by
  cases v with
  | table ms => exact ofTomlMembers_eq_map o ms
  | _ => rfl

theorem lookup_map_snd (f : α → β) (ms : List (String × α)) (k : String) :
    (ms.map fun m => (m.1, f m.2)).lookup k = (ms.lookup k).map f := by
  induction ms with
  | nil => rfl
  | cons m ms ih =>
    rw [List.map_cons, Keyed.lookup_cons, Keyed.lookup_cons, ih]
    split <;> rfl

theorem member?_ofToml (o : String) (v : Toml.Value) (k : String) :
    (ofToml o v).member? k = (v.member? k).map (ofToml o) := by
  rw [member?, members_ofToml, lookup_map_snd]
  rfl

theorem names_ofToml (o : String) (v : Toml.Value) :
    (ofToml o v).members.map Prod.fst = v.members.map Prod.fst := by
  rw [members_ofToml, List.map_map]
  rfl

end Tree

section
variable {d : Toml.Value} (h : Arranged d) (o : String)
include h

/-- **A document decides on the fields that it has**, and leaves the others as they were. -/
theorem Arranged.at?_putLayer (hd : d.Distinct) {p : String × String} (hs : p.1 ∈ Layers.sections)
    (t : Tree) : (t.putLayer (Tree.layerOfToml o d)).at? p.1 p.2 =
      ((d.at? p.1 p.2).map fun v => (Tree.ofToml o v).onto (t.at? p.1 p.2)).or
        (t.at? p.1 p.2) := by
  have hstep : ∀ m ∈ Tree.layerOfToml o d, ∀ t, (Tree.putAtText m.1 m.2 t).at? p.1 p.2 =
      if m.1 = p.1 then ((m.2.member? p.2).map fun x => x.onto (t.at? p.1 p.2)).or (t.at? p.1 p.2)
      else t.at? p.1 p.2 := by
    intro m hm t
    rw [Tree.layerOfToml, Tree.members_ofToml] at hm
    obtain ⟨⟨n, v⟩, hnv, rfl⟩ := List.mem_map.1 hm
    obtain ⟨hlower, hpoint, hbracket⟩ := h.names (n, v) hnv
    rw [Tree.putAtText, Tree.ofText_plain hpoint hbracket, Tree.putAt]
    refine Tree.at?_put hlower (fun hn => ?_) t
    subst hn
    refine ⟨?_, ?_, ?_⟩
    · rw [Tree.isTable_ofToml]
      exact h.sections _ hnv hs
    · rw [Tree.names_ofToml]
      exact (hd.member hnv).names
    · intro m hm
      rw [Tree.members_ofToml] at hm
      obtain ⟨m', hm', rfl⟩ := List.mem_map.1 hm
      exact h.fieldNames _ hnv hs m' hm'
  have hnames : ((Tree.layerOfToml o d).map Prod.fst).Nodup := by
    rw [Tree.layerOfToml, Tree.names_ofToml]
    exact hd.names
  have hmember : (Tree.layerOfToml o d).lookup p.1 = (d.member? p.1).map (Tree.ofToml o) :=
    Tree.member?_ofToml o d p.1
  rw [Tree.at?_putLayer (fun x old => ((x.member? p.2).map fun y => y.onto old).or old) hnames
    hstep, hmember, Toml.Value.at?]
  cases d.member? p.1 with
  | none => rfl
  | some x =>
    simp only [Option.map_some, Tree.member?_ofToml, Option.map_map, Option.bind_some]
    rfl

theorem Arranged.sectioned {t : Tree} (ht : t.Sectioned) :
    (t.putLayer (Tree.layerOfToml o d)).Sectioned := by
  refine Tree.Sectioned.putLayer ?_ ht
  intro m hm t ht
  rw [Tree.layerOfToml, Tree.members_ofToml] at hm
  obtain ⟨⟨n, v⟩, hnv, rfl⟩ := List.mem_map.1 hm
  obtain ⟨hlower, hpoint, hbracket⟩ := h.names (n, v) hnv
  rw [Tree.putAtText, Tree.ofText_plain hpoint hbracket, Tree.putAt]
  refine ht.put hlower fun hn => ?_
  rw [Tree.isTable_ofToml]
  exact h.sections _ hnv hn

end

/-- Where no field is a table, a document takes the place of what was there. -/
theorem Plain.at?_putLayer {d : Toml.Value} (h : Plain d) (hd : d.Distinct) (o : String)
    {p : String × String} (hp : p ∈ Layers.fields) (t : Tree) :
    (t.putLayer (Tree.layerOfToml o d)).at? p.1 p.2 =
      ((d.at? p.1 p.2).map (Tree.ofToml o)).or (t.at? p.1 p.2) := by
  rw [h.arranged.at?_putLayer o hd (section_mem_of_field p hp)]
  cases hv : d.at? p.1 p.2 with
  | none => rfl
  | some v =>
    obtain ⟨x, hx, hxv⟩ := Toml.Value.mem_of_at? hv
    have hfield := h.fields _ hx _ hxv hp
    rw [Option.map_some, Option.map_some, Tree.onto_of_not_table (by rwa [Tree.isTable_ofToml])]

end Layers

end UserRegistry
