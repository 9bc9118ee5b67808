import UserRegistry.Proofs.Layers.Fields

/-!
# What becomes of one text in a tree

Take a tree for every text, where all these trees are the same but for one place, at which each has
its own text (`Marked`). Whatever is put on all of them, they stay so: either the place is left, or
it is replaced in every tree, and then the trees are the same (`keeps_putLayer`). No value that is
put on a tree depends on what it finds there.

A layer panics on all of these trees or on none (`Marked.layerPanics`). Where the place is that of
the name of the environment, what is read of the trees is the same but for that name
(`Marked.read`).
-/

namespace UserRegistry

theorem Keyed.put_append {κ α : Type} [DecidableEq κ] (k : κ) (a : α) (ms ns : List (κ × α)) :
    Keyed.put k a (ms ++ ns) =
      if k ∈ ms.map Prod.fst then Keyed.put k a ms ++ ns else ms ++ Keyed.put k a ns := by
  induction ms with
  | nil => rfl
  | cons m ms ih =>
    rw [List.cons_append, Keyed.put, Keyed.put, ih]
    by_cases hm : m.1 = k
    · simp [hm]
    · have hk : k ∈ (m :: ms).map Prod.fst ↔ k ∈ ms.map Prod.fst := by simp [Ne.symm hm]
      simp only [if_neg hm, hk]
      split <;> rfl

/-- The settings with another name of the environment. -/
def Settings.named (name : String) (c : Settings) : Settings :=
  { c with app := { c.app with environment := name } }

namespace Layers.Tree

/-- Trees, one for every text, that are the same but for the place that names lead to, where each
has its own text; or that are all the same. -/
inductive Marked : List String → (String → Tree) → Prop
  | same (names : List String) (t : Tree) : Marked names fun _ => t
  | here : Marked [] fun x => .scalar none (.text x)
  | under {n : String} {names : List String} {T : String → Tree} {o : Option String}
    {before : List (String × Tree)} (hn : n ∉ before.map Prod.fst) (h : Marked names T)
    (after : List (String × Tree)) :
    Marked (n :: names) fun x => .table o (before ++ (n, T x) :: after)

/-- A change of trees that leaves them the same but for one place. -/
def Keeps (change : Tree → Tree) : Prop :=
  ∀ names T, Marked names T → Marked names fun x => change (T x)

theorem keeps_const (t : Tree) : Keeps fun _ => t :=
  fun names _ _ => .same names t

/-- A change of one member finds the same in all trees, or the place is in it or below. -/
theorem keeps_changeMember {change : Tree → Tree} (h : Keeps change) (k : String) (start : Tree) :
    Keeps (changeMember k start change) := by
  intro names T hT
  cases hT with
  | same => exact .same names _
  | here => exact .same [] (changeMember k start change empty)
  | @under n names T o before hn hT after =>
    have hlookup (x : String) : (before ++ (n, T x) :: after).lookup k =
        (before.lookup k).or (if k = n then some (T x) else after.lookup k) := by
      rw [List.lookup_append, Keyed.lookup_cons]
    simp only [changeMember, asTable, hlookup, Keyed.put_append]
    cases hbefore : before.lookup k with
    | some y =>
      have hmem : k ∈ before.map Prod.fst := List.mem_map_of_mem (Keyed.mem_of_lookup hbefore)
      simp only [if_pos hmem, Option.some_or]
      refine .under ?_ hT after
      rwa [Keyed.keys_put, if_pos hmem]
    | none =>
      simp only [if_neg (Keyed.lookup_eq_none_iff.1 hbefore), Option.none_or]
      by_cases hk : k = n
      · subst hk
        simp only [if_true, Option.getD_some, Keyed.put]
        exact .under hn (h names T hT) after
      · simp only [if_neg hk, Keyed.put, if_neg (Ne.symm hk)]
        exact .under hn hT _

/-- A table is no list: where an item is changed, the place was replaced. -/
theorem keeps_changeItem (b : Bool) (i : Nat) (change : Tree → Tree) :
    Keeps (changeItem b i change) := by
  intro names T hT
  cases hT with
  | same => exact .same names _
  | here => exact .same [] (changeItem b i change empty)
  | @under n names => exact .same (n :: names) (changeItem b i change empty)

mutual

theorem keeps_put (n : String) : (v : Tree) → Keeps (put n v)
  | .table o ms => by
    simp only [put]
    exact keeps_changeMember (keeps_putAll ms) _ empty
  | .list o ts => by
    simp only [put]
    exact keeps_changeMember (keeps_const (.list o ts)) _ empty
  | .scalar o v => by
    simp only [put]
    exact keeps_changeMember (keeps_const (.scalar o v)) _ empty

theorem keeps_putAll : (ms : List (String × Tree)) → Keeps (putAll ms)
  | [] => fun _ _ hT => hT
  | (n, v) :: ms => fun names T hT => keeps_putAll ms names _ (keeps_put n v names T hT)

end

theorem keeps_putAt (v : Tree) (steps : List Step) : Keeps (putAt v steps) := by
  induction steps with
  | nil => exact fun _ _ hT => hT
  | cons s steps ih =>
    match s, steps with
    | .name n, [] => exact keeps_put n v
    | .position b i, [] => exact keeps_changeItem b i _
    | .name n, s' :: steps => exact keeps_changeMember ih _ void
    | .position b i, s' :: steps => exact keeps_changeItem b i _

/-- **A layer that is put on all trees leaves them the same but for one place.** -/
theorem keeps_putLayer (layer : List (String × Tree)) : Keeps (putLayer layer) := by
  induction layer with
  | nil => exact fun _ _ hT => hT
  | cons m layer ih =>
    exact fun names T hT => ih names _ (keeps_putAt m.2 (Step.ofText m.1) names T hT)

/-! ## Panics -/

/-- Whether a path asks for a position before the start of a list is the same in all trees. -/
theorem Marked.panicsAt {names : List String} {T : String → Tree} (h : Marked names T)
    (p : List Step) (x y : String) : (T x).panicsAt p = (T y).panicsAt p := by
  induction p generalizing names T with
  | nil => rfl
  | cons s p ih =>
    cases h with
    | same => rfl
    | here => cases s <;> rfl
    | @under n names T o before hn hT after =>
      cases s with
      | position b i => rfl
      | name k =>
        simp only [Tree.panicsAt, members, List.lookup_append, Keyed.lookup_cons]
        cases before.lookup (Text.lowercase k) with
        | some z => rfl
        | none =>
          split
          · exact ih hT
          · rfl

theorem Marked.layerPanics {names : List String} {T : String → Tree} (h : Marked names T)
    (layer : List (String × Tree)) (x y : String) :
    (T x).layerPanics layer = (T y).layerPanics layer := by
  induction layer generalizing T with
  | nil => rfl
  | cons m layer ih =>
    rw [Tree.layerPanics, Tree.layerPanics, h.panicsAt _ x y, putAtText, putAtText,
      ih (keeps_putAt m.2 (Step.ofText m.1) names T h)]

/-! ## Reading -/

/-- The place that holds the name of the environment. -/
def environmentPlace : List String := ["app", "environment"]

theorem member?_append (o : Option String) (before : List (String × Tree)) (n : String) (v : Tree)
    (after : List (String × Tree)) (k : String) :
    (table o (before ++ (n, v) :: after)).member? k =
      (before.lookup k).or (if k = n then some v else after.lookup k) := by
  rw [member?, members, List.lookup_append, Keyed.lookup_cons]

section
variable {o o' : Option String} {before after before' after' : List (String × Tree)}

/-- A section `app` with a text for the name of the environment. -/
def appWith (o : Option String) (before after : List (String × Tree)) (x : String) : Tree :=
  table o (before ++ ("environment", .scalar none (.text x)) :: after)

theorem valueOf_appWith (hbefore : "environment" ∉ before.map Prod.fst) (x : String) :
    valueOf (some (appWith o before after x)) "app" Settings.appReader {} =
      (valueOf (some (appWith o before after "")) "app" Settings.appReader {}).map
        fun app => { app with environment := x } := by
  have hvalue (x : String) : valueOf (some (appWith o before after x)) "app"
      Settings.appReader {} = (do
        let name ← valueOf ((before.lookup "name").or (after.lookup "name")) "app.name"
          Format.text "roster"
        let version ← valueOf ((before.lookup "version").or (after.lookup "version"))
          "app.version" Format.text "0.1.0"
        return ⟨name, version, x⟩) := by
    have hmember (k : String) : (appWith o before after x).member? k =
        (before.lookup k).or (if k = "environment" then some (.scalar none (.text x))
          else after.lookup k) := member?_append ..
    have happ := valueOf_app (t := table none [("app", appWith o before after x)])
      fun y hy => by obtain rfl := Option.some.inj hy; rfl
    refine happ.trans ?_
    have hat (k : String) : (table none [("app", appWith o before after x)]).at? "app" k =
        (appWith o before after x).member? k := rfl
    simp only [hat, hmember, Keyed.lookup_eq_none_iff.2 hbefore]
    rfl
  rw [hvalue x, hvalue ""]
  simp only [Result.map_of_bind]
  rfl

theorem read_appWith (hbefore : "app" ∉ before.map Prod.fst)
    (hbefore' : "environment" ∉ before'.map Prod.fst) (x : String) :
    (table o (before ++ ("app", appWith o' before' after' x) :: after)).read Settings.reader =
      ((table o (before ++ ("app", appWith o' before' after' "") :: after)).read
        Settings.reader).map (Settings.named x) := by
  have hothers : "service" ≠ "app" ∧ "demo" ≠ "app" ∧ "observability" ≠ "app" := by decide
  simp only [read_table (t := table o _) rfl, member?_append, Keyed.lookup_eq_none_iff.2 hbefore,
    Option.none_or, if_true, if_neg hothers.1, if_neg hothers.2.1, if_neg hothers.2.2]
  rw [valueOf_appWith hbefore' x]
  simp only [Result.map_of_bind]
  cases valueOf (some (appWith o' before' after' "")) "app" Settings.appReader {} <;> rfl

end

/-- **What is read of the trees is the same but for the name of the environment.** -/
theorem Marked.read {T : String → Tree} (h : Marked environmentPlace T) :
    ∃ r : Except Misfit Settings, (∀ x, (T x).read Settings.reader = r) ∨
      ∀ x, (T x).read Settings.reader = r.map (Settings.named x) := by
  unfold environmentPlace at h
  cases h with
  | same _ t => exact ⟨t.read Settings.reader, .inl fun _ => rfl⟩
  | @under _ _ S o before hbefore h after =>
    cases h with
    | same _ t =>
      exact ⟨(table o (before ++ ("app", t) :: after)).read Settings.reader, .inl fun _ => rfl⟩
    | @under _ _ U o' before' hbefore' h after' =>
      cases h with
      | same _ t =>
        exact ⟨(table o (before ++ ("app", table o' (before' ++ ("environment", t) :: after')) ::
          after)).read Settings.reader, .inl fun _ => rfl⟩
      | here => exact ⟨_, .inr (read_appWith hbefore hbefore')⟩

end Layers.Tree

end UserRegistry
