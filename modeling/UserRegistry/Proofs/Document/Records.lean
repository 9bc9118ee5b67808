import UserRegistry.Document.Format
import UserRegistry.Keyed
import UserRegistry.Toml.Value

/-!
# What a record is read as

A record is read from a table by letting every field that is given change it. `Changes` says what
one field comes to: it is given once and makes its change, or it is missing and changes nothing.
If the changes of different fields do not depend on their order, the record comes to all of them
together (`changed`), in whatever order a document gives them (`changed_of_given`).

`Format.Laws` lists what a format has to do for that: take the leaves of its documents for what
they are, and a table for the changes of its members.
-/

namespace UserRegistry

namespace Keyed

/-- Everything that stands under a key, in order. -/
def under (key : String) (ms : List (String × α)) : List α :=
  (ms.filter fun m => m.1 = key).map Prod.snd

theorem under_cons (key : String) (m : String × α) (ms : List (String × α)) :
    under key (m :: ms) = if m.1 = key then m.2 :: under key ms else under key ms := by
  unfold under
  by_cases h : m.1 = key <;> simp [h]

theorem lookup_of_under {key : String} {ms : List (String × α)} :
    ms.lookup key = (under key ms).head? := by
  induction ms with
  | nil => rfl
  | cons m ms ih =>
    rw [lookup_cons, under_cons, ih]
    by_cases h : key = m.1
    · simp [h]
    · simp [h, Ne.symm h]

end Keyed

open Keyed (under)

/-- A field and the change that it makes to a record. -/
abbrev Change (ρ : Type → Type) (α : Type) : Type := Field ρ α × (α → α)

section
variable {ρ : Type → Type} {ν α : Type}

/-- What the members of a table come to for a field: it is given once, with a value that is taken
for its change, or it may be missing, is, and changes nothing. -/
def Changes (takes : ρ (α → α) → ν → (α → α) → Prop) (ms : List (String × ν))
    (c : Change ρ α) : Prop :=
  (under c.1.name ms = [] ∧ c.1.required = false ∧ c.2 = id) ∨
    ∃ v, under c.1.name ms = [v] ∧ takes c.1.change v c.2

/-- The changes of different fields, which do not depend on their order. -/
def Independent (cs : List (Change ρ α)) : Prop :=
  cs.Pairwise fun c d => c.1.name ≠ d.1.name ∧ ∀ a, c.2 (d.2 a) = d.2 (c.2 a)

def changed (cs : List (Change ρ α)) (a : α) : α :=
  cs.foldl (fun a c => c.2 a) a

theorem changed_id {cs : List (Change ρ α)} (h : ∀ c ∈ cs, c.2 = id) (a : α) :
    changed cs a = a := by
  induction cs with
  | nil => rfl
  | cons c cs ih =>
    rw [changed, List.foldl_cons, h c (List.mem_cons_self ..)]
    exact ih fun d hd => h d (List.mem_cons_of_mem _ hd)

/-- The changes of the fields that are not seen yet. -/
def unseen (seen : List String) (cs : List (Change ρ α)) : List (Change ρ α) :=
  cs.filter fun c => !seen.contains c.1.name

theorem mem_unseen {seen : List String} {cs : List (Change ρ α)} {c : Change ρ α} :
    c ∈ unseen seen cs ↔ c ∈ cs ∧ c.1.name ∉ seen := by
  simp [unseen]

theorem unseen_cons (seen : List String) (c : Change ρ α) (cs : List (Change ρ α)) :
    unseen seen (c :: cs) = if c.1.name ∈ seen then unseen seen cs else c :: unseen seen cs := by
  unfold unseen
  by_cases h : c.1.name ∈ seen <;> simp [h]

/-- **Making the change of a field early comes to the same**: it counts among the fields seen. -/
theorem changed_of_given {cs : List (Change ρ α)} (hind : Independent cs) {c : Change ρ α}
    (hc : c ∈ cs) {seen : List String} (hnew : c.1.name ∉ seen) (a : α) :
    changed (unseen (c.1.name :: seen) cs) (c.2 a) = changed (unseen seen cs) a := by
  induction cs generalizing a with
  | nil => cases hc
  | cons d cs ih =>
    obtain ⟨hd, hind⟩ := List.pairwise_cons.1 hind
    rcases List.mem_cons.1 hc with rfl | hc
    · have hlater : unseen (c.1.name :: seen) cs = unseen seen cs :=
        List.filter_congr fun e he => by simp [(hd e he).1.symm]
      rw [unseen_cons, if_pos (List.mem_cons_self ..), unseen_cons, if_neg hnew, hlater]
      rfl
    · obtain ⟨hne, hcomm⟩ := hd c hc
      have ih := ih hind hc
      by_cases hseen : d.1.name ∈ seen
      · rw [unseen_cons, if_pos (List.mem_cons_of_mem _ hseen), unseen_cons, if_pos hseen]
        exact ih a
      · rw [unseen_cons, if_neg (by simp [hne, hseen]), unseen_cons, if_neg hseen]
        exact (congrArg (changed _) (hcomm a)).trans (ih (d.2 a))

/-! ## The laws of a format -/

/-- How the documents of a kind hold settings: leaves, and tables of named values. -/
structure Form (ν : Type) where
  int : Int64 → ν
  text : String → ν
  flag : Bool → ν
  table : List (String × ν) → ν

/-- What is taken for what in a format whose documents have a form. `Takes r v a` says that the
reader `r` takes the value `v` for `a`. -/
structure Format.Laws (ρ : Type → Type) [Format ρ] (form : Form ν) where
  Takes : {α : Type} → ρ α → ν → α → Prop
  map : ∀ {α β : Type} (f : α → β) {r : ρ α} {v : ν} {a : α}, Takes r v a →
    Takes (Format.map f r) v (f a)
  takes_int : ∀ i, Takes Format.int64 (form.int i) i
  takes_text : ∀ s, Takes Format.text (form.text s) s
  takes_flag : ∀ b, Takes Format.flag (form.flag b) b
  takes_oneOf : ∀ {α : Type} {names : List (String × α)} {s : String} {a : α} (title : String),
    names.lookup s = some a → Takes (Format.oneOf title names) (form.text s) a
  takes_record : ∀ {α : Type} (title : String) (blank : α) (cs : List (Change ρ α))
    {ms : List (String × ν)}, Independent cs → (∀ c ∈ cs, Changes Takes ms c) →
    Takes (Format.record ⟨title, blank, cs.map Prod.fst⟩) (form.table ms) (changed cs blank)

/-- An optional field that is given or not, as a condition says. -/
theorem Format.Laws.changes_optional [Format ρ] {form : Form ν} (L : Format.Laws ρ form)
    {ms : List (String × ν)} {name : String} {p : Bool} {v : ν}
    (hunder : under name ms = if p then [v] else []) {β : Type} {r : ρ β} {b : β}
    (hv : p = true → L.Takes r v b) {put : β → α → α} {change : α → α}
    (hchange : ∀ a, change a = if p then put b a else a) :
    Changes L.Takes ms (.optional name r put, change) := by
  cases p with
  | false => exact .inl ⟨hunder, rfl, funext hchange⟩
  | true =>
    obtain rfl : change = put b := funext hchange
    exact .inr ⟨v, hunder, L.map put (hv rfl)⟩

end

/-! ## Documents of values -/

namespace Toml

/-- The members of a table change a record as its fields say. -/
theorem readMembers_changes {cs : List (Change Reader α)} {ms : List (String × Value)}
    (h : ∀ c ∈ cs, Changes (fun r v a => r v = some a) ms c) (a : α) :
    readMembers ms (cs.map Prod.fst) a = some (changed cs a) := by
  induction cs generalizing a with
  | nil => rfl
  | cons c cs ih =>
    have ih := ih fun d hd => h d (List.mem_cons_of_mem _ hd)
    rw [List.map_cons, readMembers, Keyed.lookup_of_under]
    rcases h c (List.mem_cons_self ..) with ⟨hunder, hrequired, hid⟩ | ⟨v, hunder, hv⟩
    · simp only [hunder, List.head?_nil, hrequired, Bool.false_eq_true, if_false, ih]
      rw [changed, changed, List.foldl_cons, hid]
      rfl
    · simp only [hunder, List.head?_cons, hv, Option.bind_some, ih]
      rfl

/-- The values of a document. -/
def form : Form Value where
  int := .int
  text := .text
  flag := .flag
  table := .table

def laws : Format.Laws Reader form where
  Takes r v a := r v = some a
  map f r v a h := by
    show (r v).map f = some (f a)
    rw [h]
    rfl
  takes_int _ := rfl
  takes_text _ := rfl
  takes_flag _ := rfl
  takes_oneOf _ h := h
  takes_record _ blank _ _ _ h := readMembers_changes h blank

end Toml

end UserRegistry
