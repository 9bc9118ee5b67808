import UserRegistry.Proofs.Layers.Sorted

/-!
# The last word on a field

A document is put on a tree value by value, each at the path that its name is, and a table under one
name member by member. Whatever names a document has, the last value that may change a field settles
it (`settled_putLayer`): without such a value the field stays as it was, and a value without parts
that is put at the field itself is found there afterwards. What was there, and what the document
said before, does not matter then.
-/

namespace UserRegistry.Layers

/-- A step with its name in lower case, as names are kept in the tree. -/
def Step.lower : Step → Step
  | .name n => .name (Text.lowercase n)
  | .position negative i => .position negative i

/-- The values that one member of a document is, each with the path that it is put at. -/
def writesOf (m : String × Toml.Value) : List (List Step × Toml.Value) :=
  match Step.ofText m.1, m.2 with
  | [.name n], .table ms => ms.map fun x => ([.name n, .name x.1], x.2)
  | path, v => [(path, v)]

/-- The values that a document is, in the order in which they are put on a tree. -/
def writes (d : Toml.Value) : List (List Step × Toml.Value) :=
  d.members.flatMap writesOf

theorem exists_of_mem_writesOf_inOrder {n : String} {v : Toml.Value} {r : Ranks}
    {w : List Step × Toml.Value} (h : w ∈ writesOf (n, v.inOrder r)) :
    ∃ x, (w.1, x) ∈ writesOf (n, v) := by
  cases v with
  | table ms =>
    rw [Toml.Value.inOrder] at h
    unfold writesOf at h ⊢
    dsimp only at h ⊢
    split at h
    · rename_i k ms' hpath hms
      obtain ⟨y, hy, rfl⟩ := List.mem_map.1 h
      obtain rfl := Toml.Value.table.inj hms
      obtain ⟨x, hx, -⟩ := Toml.Value.mem_inOrder (v := .table ms) hy
      exact ⟨x, by rw [hpath]; exact List.mem_map.2 ⟨(y.1, x), hx, rfl⟩⟩
    · rename_i hpath
      obtain rfl := List.mem_singleton.1 h
      split
      · rename_i k ms' hname _
        exact absurd rfl (hpath k _ hname)
      · exact ⟨_, List.mem_singleton.2 rfl⟩
  | _ => exact ⟨w.2, h⟩

/-- In another order a document is values at the same paths. -/
theorem exists_of_mem_writes_inOrder {d : Toml.Value} {r : Ranks} {w : List Step × Toml.Value}
    (h : w ∈ writes (d.inOrder r)) : ∃ v, (w.1, v) ∈ writes d := by
  obtain ⟨⟨n, v⟩, hm, hw⟩ := List.mem_flatMap.1 h
  obtain ⟨x, hx, hv⟩ := Toml.Value.mem_inOrder hm
  dsimp only at hx hv
  rw [hv] at hw
  obtain ⟨y, hy⟩ := exists_of_mem_writesOf_inOrder hw
  exact ⟨y, List.mem_flatMap.2 ⟨_, hx, hy⟩⟩

/-- The last of several values that may change a field, with its path. -/
def lastWord (s f : String) (ws : List (List Step × Toml.Value)) :
    Option (List Step × Toml.Value) :=
  ws.findRev? fun w => Tree.reaches s f w.1

theorem lastWord_eq_none_iff {s f : String} {ws : List (List Step × Toml.Value)} :
    lastWord s f ws = none ↔ ∀ w ∈ ws, Tree.reaches s f w.1 = false := by
  simp [lastWord, List.findRev?_eq_find?_reverse, List.find?_eq_none]

theorem lastWord_append (s f : String) (ws ws' : List (List Step × Toml.Value)) :
    lastWord s f (ws ++ ws') = (lastWord s f ws').or (lastWord s f ws) := by
  simp only [lastWord, List.findRev?_eq_find?_reverse, List.reverse_append, List.find?_append]

theorem lastWord_singleton (s f : String) (w : List Step × Toml.Value) :
    lastWord s f [w] = if Tree.reaches s f w.1 then some w else none := by
  rw [lastWord, List.findRev?_eq_find?_reverse, List.reverse_singleton, List.find?_singleton]

/-- What a field is before and after values were put on a tree of which the last that may change it
is `word`. -/
structure Settled (s f origin : String) (word : Option (List Step × Toml.Value))
    (old new : Option Tree) : Prop where
  silent : word = none → new = old
  given : ∀ path v, word = some (path, v) → path.map Step.lower = [.name s, .name f] →
    v.isTable = false → new = some (Tree.ofToml origin v)

section
variable {s f origin : String}

theorem Settled.nothing (x : Option Tree) : Settled s f origin none x x :=
  ⟨fun _ => rfl, fun _ _ hw => (nomatch hw)⟩

/-- What comes later settles the field, if it says anything of it. -/
theorem Settled.trans {word word' : Option (List Step × Toml.Value)} {old mid new : Option Tree}
    (h : Settled s f origin word old mid) (h' : Settled s f origin word' mid new) :
    Settled s f origin (word'.or word) old new := by
  cases word' with
  | none => exact ⟨fun hw => (h'.silent rfl).trans (h.silent hw), fun path v hw hpath hv =>
      (h'.silent rfl).trans (h.given path v hw hpath hv)⟩
  | some w => exact ⟨fun hw => (nomatch hw), h'.given⟩

theorem lower_eq_two {path : List Step} (h : path.map Step.lower = [.name s, .name f]) :
    ∃ a b, path = [.name a, .name b] ∧ Text.lowercase a = s ∧ Text.lowercase b = f := by
  match path, h with
  | [.name a, .name b], h =>
    simp only [List.map_cons, List.map_nil, Step.lower, List.cons.injEq, Step.name.injEq, and_true]
      at h
    exact ⟨a, b, rfl, h.1, h.2⟩

theorem settled_putAt (path : List Step) (v : Toml.Value) (t : Tree) :
    Settled s f origin (lastWord s f [(path, v)]) (t.at? s f)
      ((Tree.putAt (Tree.ofToml origin v) path t).at? s f) := by
  rw [lastWord_singleton]
  refine ⟨fun hw => ?_, fun path' v' hw hpath hv => ?_⟩
  · refine Tree.at?_putAt_of_not_reaches ?_ _ t
    simpa using hw
  · split at hw
    · obtain ⟨rfl, rfl⟩ := Prod.mk.inj (Option.some.inj hw)
      obtain ⟨a, b, rfl, rfl, rfl⟩ := lower_eq_two hpath
      have htable : (Tree.ofToml origin v).isTable = false := by rwa [Tree.isTable_ofToml]
      have hself := Tree.member?_put_self (n := b) htable
        ((t.member? (Text.lowercase a)).getD Tree.void)
      rw [Tree.putAt, Tree.at?, Tree.member?_changeMember, if_pos rfl, Option.bind_some, Tree.putAt,
        hself]
    · cases hw

/-- The members of a table that is put under one name settle the fields of its section. -/
theorem settled_putAll {n : String} (hn : Text.lowercase n = s) (ms : List (String × Toml.Value))
    (u : Tree) : Settled s f origin
      (lastWord s f (ms.map fun x => ([.name n, .name x.1], x.2))) (u.member? f)
      ((Tree.putAll (Tree.ofTomlMembers origin ms) u).member? f) := by
  induction ms generalizing u with
  | nil => exact .nothing _
  | cons m ms ih =>
    obtain ⟨x, v⟩ := m
    have hsplit : lastWord s f (((x, v) :: ms).map fun x => ([.name n, .name x.1], x.2)) =
        (lastWord s f (ms.map fun x => ([.name n, .name x.1], x.2))).or
          (lastWord s f [([.name n, .name x], v)]) := lastWord_append s f [_] _
    rw [hsplit]
    refine .trans ?_ (ih (Tree.put x (Tree.ofToml origin v) u))
    rw [lastWord_singleton, Tree.reaches, hn, Tree.member?_put]
    by_cases hx : f = Text.lowercase x
    · refine ⟨fun hw => by simp [hx] at hw, fun path v' hw _ hv => ?_⟩
      rw [if_pos (by simp [hx])] at hw
      obtain ⟨-, rfl⟩ := Prod.mk.inj (Option.some.inj hw)
      rw [if_pos hx, Tree.onto_of_not_table (by rwa [Tree.isTable_ofToml])]
    · refine ⟨fun _ => if_neg hx, fun path v' hw => ?_⟩
      simp [Ne.symm hx] at hw

theorem settled_member (m : String × Toml.Value) (t : Tree) :
    Settled s f origin (lastWord s f (writesOf m)) (t.at? s f)
      ((Tree.putAtText m.1 (Tree.ofToml origin m.2) t).at? s f) := by
  obtain ⟨name, v⟩ := m
  rw [Tree.putAtText]
  unfold writesOf
  simp only
  split
  · rename_i n ms hpath
    rw [hpath, Tree.putAt]
    by_cases hn : Text.lowercase n = s
    · have hat : ((t.member? s).getD Tree.empty).member? f = t.at? s f := by
        rw [Tree.at?]
        cases t.member? s <;> rfl
      have hput := Tree.member?_put n (Tree.ofToml origin (.table ms)) t s
      rw [if_pos hn.symm] at hput
      rw [← hat, Tree.at?, hput]
      exact settled_putAll hn ms _
    · have hnone : lastWord s f (ms.map fun x => ([.name n, .name x.1], x.2)) = none := by
        rw [lastWord, List.findRev?_eq_find?_reverse, List.find?_eq_none]
        intro w hw
        obtain ⟨x, -, rfl⟩ := List.mem_map.1 (List.mem_reverse.1 hw)
        simp [Tree.reaches, hn]
      rw [hnone, Tree.at?, Tree.at?, Tree.member?_put_of_ne (Ne.symm hn)]
      exact .nothing _
  · exact settled_putAt _ _ t

/-- **The last word of a document on a field settles it**, whatever the document says before and
whatever was there. -/
theorem settled_putLayer (origin : String) (d : Toml.Value) (t : Tree) :
    Settled s f origin (lastWord s f (writes d)) (t.at? s f)
      ((t.putLayer (Tree.layerOfToml origin d)).at? s f) := by
  have hall : ∀ (ms : List (String × Toml.Value)) (t : Tree),
      Settled s f origin (lastWord s f (ms.flatMap writesOf)) (t.at? s f)
        ((t.putLayer (ms.map fun m => (m.1, Tree.ofToml origin m.2))).at? s f) := by
    intro ms
    induction ms with
    | nil => exact fun t => .nothing _
    | cons m ms ih =>
      intro t
      rw [List.flatMap_cons, lastWord_append]
      exact (settled_member m t).trans (ih (Tree.putAtText m.1 (Tree.ofToml origin m.2) t))
  rw [Tree.layerOfToml, Tree.members_ofToml]
  exact hall d.members t

end

end UserRegistry.Layers
