import UserRegistry.Layers.Tree

/-!
# The order of a load

The members of a table and the variables of a process come in no order of their own: they are kept
in hash maps, and every load meets them in an order of that load alone. An `Order` says in which.
It gives each name a rank, and names are visited by their ranks, those of one rank as they are
listed; every order of the names of a table is that of some ranks.
-/

namespace UserRegistry.Layers

/-- A rank for every name, by the names that lead to it. -/
def Ranks : Type := List String → Nat

namespace Ranks

/-- Everything as it is listed. -/
def listed : Ranks := fun _ => 0

def under (r : Ranks) (name : String) : Ranks := fun names => r (name :: names)

/-- A list with one thing more, which stands before all those whose rank is not lower. -/
def insert (r : Ranks) (name : α → String) (a : α) : List α → List α
  | [] => [a]
  | b :: bs => if r [name a] ≤ r [name b] then a :: b :: bs else b :: insert r name a bs

/-- Things by the ranks of their names. -/
def sort (r : Ranks) (name : α → String) : List α → List α
  | [] => []
  | a :: as => insert r name a (sort r name as)

variable {name : α → String}

theorem perm_insert (r : Ranks) (a : α) (as : List α) : (r.insert name a as).Perm (a :: as) := by
  induction as with
  | nil => exact .refl _
  | cons b bs ih =>
    rw [insert]
    split
    · exact .refl _
    · exact (ih.cons b).trans (.swap a b bs)

theorem perm_sort (r : Ranks) (name : α → String) (as : List α) : (r.sort name as).Perm as := by
  induction as with
  | nil => exact .refl _
  | cons a as ih => exact (perm_insert r a _).trans (ih.cons a)

@[simp] theorem sort_listed (as : List α) : listed.sort name as = as := by
  induction as with
  | nil => rfl
  | cons a as ih =>
    rw [sort, ih]
    cases as <;> rfl

@[simp] theorem listed_under (name : String) : listed.under name = listed := rfl

end Ranks

namespace Tree

mutual

/-- A tree with the members of its tables by their ranks. What is in a list stays as it is: nobody
goes through the tables there. -/
def arranged (r : Ranks) : Tree → Tree
  | .table o ms => .table o (r.sort Prod.fst (arrangedMembers r ms))
  | .list o ts => .list o ts
  | .scalar o v => .scalar o v

def arrangedMembers (r : Ranks) : List (String × Tree) → List (String × Tree)
  | [] => []
  | (n, t) :: ms => (n, arranged (r.under n) t) :: arrangedMembers r ms

end

/-- A layer by the ranks of its names, at every depth. -/
def arrangedLayer (r : Ranks) (layer : List (String × Tree)) : List (String × Tree) :=
  r.sort Prod.fst (arrangedMembers r layer)

mutual

@[simp] theorem arranged_listed (t : Tree) : t.arranged .listed = t := by
  cases t with
  | table o ms => rw [arranged, arrangedMembers_listed ms, Ranks.sort_listed]
  | list o ts => rfl
  | scalar o v => rfl

@[simp] theorem arrangedMembers_listed (ms : List (String × Tree)) :
    arrangedMembers .listed ms = ms := by
  match ms with
  | [] => rfl
  | (n, t) :: ms =>
    rw [arrangedMembers, Ranks.listed_under, arranged_listed t, arrangedMembers_listed ms]

end

@[simp] theorem arrangedLayer_listed (layer : List (String × Tree)) :
    arrangedLayer .listed layer = layer := by
  rw [arrangedLayer, arrangedMembers_listed, Ranks.sort_listed]

end Tree

/-- The order of one load: in the documents, known by their place in the sequence of files, among
the keys of the variables, and in the tree that the settings are read from. -/
structure Order where
  documents : Nat → Ranks
  overrides : Ranks
  settings : Ranks

/-- Documents and variables as they are listed, settings in the order of their fields. -/
def Order.listed : Order := ⟨fun _ => .listed, .listed, .listed⟩

end UserRegistry.Layers
