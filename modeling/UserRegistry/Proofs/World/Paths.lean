import Mathlib.Data.List.Basic
import UserRegistry.World.Folder

/-!
# Paths that end in a name with an ending

Every file of configuration is looked for under a path that is some text with `.toml` at its end.
Whatever that text is, the path ends in a name, and the name ends in `.toml` (`steps_toml`): it is
neither a point, nor two points, nor the name of another kind of file.

Such a path is followed to a place with that last name, so nothing that happens at a place with
another name is seen by it (`Alike.find?_toml`).
-/

namespace UserRegistry

namespace Text

/-- What follows the last occurrence of a character. -/
def lastPart (sep : Char) (cs : List Char) : List Char :=
  (split sep cs).getLast (split_ne_nil sep cs)

theorem split_of_notMem {sep : Char} {t : List Char} (h : sep ∉ t) : split sep t = [t] := by
  induction t with
  | nil => rfl
  | cons c cs ih =>
    have hc : c ≠ sep := fun e => h (by simp [e])
    rw [split, if_neg hc, ih fun hm => h (by simp [hm])]

/-- More text without the character makes the last part longer and leaves the others. -/
theorem split_append {sep : Char} {t : List Char} (h : sep ∉ t) (cs : List Char) :
    split sep (cs ++ t) = (split sep cs).dropLast ++ [lastPart sep cs ++ t] := by
  induction cs with
  | nil => simp [split_of_notMem h, split, lastPart]
  | cons c cs ih =>
    have hne := split_ne_nil sep cs
    by_cases hc : c = sep
    · subst hc
      have hs : split c (c :: cs) = [] :: split c cs := by rw [split, if_pos rfl]
      rw [List.cons_append, split, if_pos rfl, ih]
      simp only [lastPart, hs, List.dropLast_cons_of_ne_nil hne, List.getLast_cons hne,
        List.cons_append]
    · rw [List.cons_append, split, if_neg hc, ih]
      obtain ⟨p, ps, hp⟩ := List.exists_cons_of_ne_nil hne
      have hs : split sep (c :: cs) = (c :: p) :: ps := by rw [split, if_neg hc, hp]
      simp only [lastPart, hs, hp]
      cases ps <;> simp

theorem lastPart_append {sep : Char} {t : List Char} (h : sep ∉ t) (cs : List Char) :
    lastPart sep (cs ++ t) = lastPart sep cs ++ t := by
  simp only [lastPart, split_append h, List.getLast_append_singleton]

/-- What stands before a separator and what follows it are cut apart from each other. -/
theorem split_append_cons (sep : Char) (cs ds : List Char) :
    split sep (cs ++ sep :: ds) = split sep cs ++ split sep ds := by
  induction cs with
  | nil => simp [split]
  | cons c cs ih =>
    rw [List.cons_append, split, split, ih]
    by_cases hc : c = sep
    · rw [if_pos hc, if_pos hc, List.cons_append]
    · obtain ⟨p, ps, hp⟩ := List.exists_cons_of_ne_nil (split_ne_nil sep cs)
      simp [hc, hp]

/-- What stands before a separator is not part of the last part. -/
theorem lastPart_append_cons (sep : Char) (cs ds : List Char) :
    lastPart sep (cs ++ sep :: ds) = lastPart sep ds := by
  simp only [lastPart, split_append_cons,
    List.getLast_append_of_ne_nil _ (split_ne_nil sep ds)]

theorem lastPart_concat (sep : Char) (cs : List Char) : lastPart sep (cs ++ [sep]) = [] :=
  lastPart_append_cons sep cs []

theorem lastPart_eq_nil_iff (sep : Char) (cs : List Char) :
    lastPart sep cs = [] ↔ cs = [] ∨ cs.getLast? = some sep := by
  constructor
  · intro h
    rcases List.eq_nil_or_concat cs with rfl | ⟨ds, c, rfl⟩
    · exact .inl rfl
    · rw [List.concat_eq_append] at h ⊢
      by_cases hc : c = sep
      · rw [hc]
        exact .inr List.getLast?_concat
      · rw [lastPart_append (by simpa using Ne.symm hc)] at h
        simp at h
  · rintro (rfl | h)
    · rfl
    · obtain ⟨ds, rfl⟩ := List.getLast?_eq_some_iff.1 h
      exact lastPart_concat sep ds

end Text

namespace Path

/-- The name that a path with `.toml` at its end ends in. -/
def tomlName (x : String) : String :=
  String.ofList (Text.lastPart '/' x.toList ++ ".toml".toList)

theorem step?_toml (p : List Char) :
    step? (p ++ ".toml".toList) = some (.down (String.ofList (p ++ ".toml".toList))) := by
  have hlen : 5 ≤ (p ++ ".toml".toList).length := by simp
  unfold step?
  rw [if_neg, if_neg]
  · intro e
    rw [e] at hlen
    contradiction
  · rintro (e | e) <;> rw [e] at hlen <;> contradiction

theorem steps_toml (x : String) :
    ∃ way, (ofText (x ++ ".toml")).steps = way ++ [.down (tomlName x)] := by
  refine ⟨(Text.split '/' x.toList).dropLast.filterMap step?, ?_⟩
  have h : '/' ∉ ".toml".toList := by decide
  simp only [ofText, String.toList_append, Text.split_append h, List.filterMap_append,
    List.filterMap_cons, step?_toml, List.filterMap_nil, tomlName]

/-- The last part of a path in a folder is that of the path alone. -/
theorem inFolder_toml (folder name : String) : ∃ x,
    inFolder folder (name ++ ".toml") = x ++ ".toml" ∧
    Text.lastPart '/' x.toList = Text.lastPart '/' name.toList := by
  unfold inFolder
  split
  · exact ⟨name, rfl, rfl⟩
  split
  · rename_i hfolder
    refine ⟨folder ++ name, by rw [String.append_assoc], ?_⟩
    rcases hfolder with rfl | hlast
    · rw [String.empty_append]
    · obtain ⟨cs, hcs⟩ := List.getLast?_eq_some_iff.1 hlast
      rw [String.toList_append, hcs, List.append_assoc, List.singleton_append,
        Text.lastPart_append_cons]
  · refine ⟨folder ++ "/" ++ name, by simp only [String.append_assoc], ?_⟩
    have hstroke : (folder ++ "/" ++ name).toList = folder.toList ++ '/' :: name.toList := by
      simp
    rw [hstroke, Text.lastPart_append_cons]

theorem lastName?_toml (x : String) : (ofText (x ++ ".toml")).lastName? = some (tomlName x) := by
  obtain ⟨way, h⟩ := steps_toml x
  simp [lastName?, h]

end Path

namespace Folder

/-- A path that ends in a name leads to a place with that name. -/
theorem follow_down {f : Folder} {place q : List String} {way : List PathStep} {name : String}
    (h : f.follow place (way ++ [.down name]) = some q) : ∃ r, q = r ++ [name] := by
  induction way generalizing place with
  | nil =>
    simp only [List.nil_append, follow] at h
    split at h
    · exact ⟨place, by simpa using h.symm⟩
    · cases h
  | cons s way ih =>
    simp only [List.cons_append, follow] at h
    split at h
    · cases s with
      | down n => exact ih h
      | up => exact ih h
    · cases h

/-- Files that differ at most at one place, or below it, where neither has a folder. -/
structure Alike (q : List String) (f g : Folder) : Prop where
  home : f.home = g.home
  node?_eq : ∀ place, ¬ q <+: place → f.node? place = g.node? place
  left : f.node? q ≠ some .folder
  right : g.node? q ≠ some .folder

theorem Alike.symm {q : List String} {f g : Folder} (h : Alike q f g) : Alike q g f :=
  ⟨h.home.symm, fun place hp => (h.node?_eq place hp).symm, h.right, h.left⟩

def Clear (q place : List String) : Prop :=
  ¬ q <+: place ∨ place = q

theorem clear_down {q place : List String} (h : ¬ q <+: place) (n : String) :
    Clear q (place ++ [n]) := by
  by_cases hq : q = place ++ [n]
  · exact .inr hq.symm
  · exact .inl fun hprefix => (List.prefix_concat_iff.1 hprefix).elim hq h

theorem clear_up {q place : List String} (h : ¬ q <+: place) : Clear q place.dropLast :=
  .inl fun hq => h (hq.trans (List.dropLast_prefix place))

theorem not_prefix_of_node? {f : Folder} {q : List String} (h : f.node? q ≠ some .folder) :
    ¬ q <+: f.home := fun hq => h (by rw [node?, if_pos (List.isPrefixOf_iff_prefix.2 hq)])

/-- Where nothing is a folder at a place, steps lead to the same place whatever is there, and it is
not below that place. -/
theorem Alike.follow_eq {q : List String} {f g : Folder} (h : Alike q f g)
    (ss : List PathStep) : ∀ place, Clear q place →
      f.follow place ss = g.follow place ss ∧ ∀ r, f.follow place ss = some r → Clear q r := by
  induction ss with
  | nil => exact fun place hp => ⟨rfl, fun r hr => Option.some.inj hr ▸ hp⟩
  | cons s ss ih =>
    rintro place (hp | rfl)
    · by_cases hf : f.node? place = some .folder
      · have hg : g.node? place = some .folder := h.node?_eq place hp ▸ hf
        cases s with
        | down n =>
          simp only [follow, if_pos hf, if_pos hg]
          exact ih _ (clear_down hp n)
        | up =>
          simp only [follow, if_pos hf, if_pos hg]
          exact ih _ (clear_up hp)
      · have hg : ¬ g.node? place = some .folder := h.node?_eq place hp ▸ hf
        simp only [follow, if_neg hf, if_neg hg]
        exact ⟨trivial, fun r hr => by cases hr⟩
    · simp only [follow, if_neg h.left, if_neg h.right]
      exact ⟨trivial, fun r hr => by cases hr⟩

/-- What a path with `.toml` at its end leads to does not hang on a place with another name. -/
theorem Alike.find?_toml {q : List String} {f g : Folder} (h : Alike q f g) {x : String}
    (hx : q.getLast? ≠ some (Path.tomlName x)) :
    f.find? (x ++ ".toml") = g.find? (x ++ ".toml") := by
  have hhome := not_prefix_of_node? h.left
  have horigin : ¬ q <+: f.origin (Path.ofText (x ++ ".toml")) := by
    unfold origin
    split
    · exact fun hq => hhome (hq.trans List.nil_prefix)
    · exact hhome
  obtain ⟨way, hway⟩ := Path.steps_toml x
  obtain ⟨heq, hclear⟩ := h.follow_eq (Path.ofText (x ++ ".toml")).steps _ (.inl horigin)
  have hsame : g.origin (Path.ofText (x ++ ".toml")) = f.origin (Path.ofText (x ++ ".toml")) := by
    rw [origin, origin, h.home]
  simp only [find?, hsame, ← heq]
  generalize hp : Path.ofText (x ++ ".toml") = p at *
  cases hr : f.follow (f.origin p) p.steps with
  | none => rfl
  | some r =>
    rcases hclear r hr with hbelow | rfl
    · exact h.node?_eq r hbelow
    · rw [hway] at hr
      obtain ⟨up, rfl⟩ := follow_down hr
      exact absurd List.getLast?_concat hx

/-! ## A change at one place -/

theorem node?_put {f : Folder} {q : List String} (hq : ¬ q <+: f.home) (n : Node)
    (place : List String) :
    (f.put q n).node? place = if place = q then some n else f.node? place := by
  have hlookup : (Keyed.put q n f.entries).lookup place =
      if place = q then some n else f.entries.lookup place := by
    rw [lawful_beq_subsingleton List.instBEq instBEqOfDecidableEq]
    exact Keyed.lookup_put q n f.entries place
  simp only [node?, put, hlookup]
  by_cases hp : place = q
  · subst hp
    rw [if_neg fun h => hq (List.isPrefixOf_iff_prefix.1 h), if_pos rfl, if_pos rfl]
  · rw [if_neg hp, if_neg hp]

theorem alike_put {f : Folder} {q : List String} (hf : f.node? q ≠ some .folder)
    (content : FileText) : Alike q f (f.put q (.file content)) := by
  have hnode := node?_put (not_prefix_of_node? hf) (.file content)
  refine ⟨rfl, fun place hp => ?_, hf, ?_⟩
  · rw [hnode, if_neg]
    rintro rfl
    exact hp List.prefix_rfl
  · rw [hnode, if_pos rfl]
    simp

theorem lookup_filter (keep : List String → Bool) (es : List (List String × Node))
    (place : List String) :
    (es.filter fun e => keep e.1).lookup place = if keep place then es.lookup place else none := by
  induction es with
  | nil => simp
  | cons e es ih =>
    obtain ⟨q, n⟩ := e
    by_cases hq : place = q
    · subst hq
      cases hk : keep place <;> simp [hk, ih]
    · have hne : (place == q) = false := by simpa using hq
      cases hk : keep q <;> simp [List.lookup_cons, hk, hne, ih]

theorem alike_removeAt {f : Folder} {q : List String} (hf : f.node? q ≠ some .folder) :
    Alike q f (f.removeAt q) := by
  have hlookup := lookup_filter (fun place => !q.isPrefixOf place) f.entries
  have hhome := not_prefix_of_node? hf
  refine ⟨rfl, fun place hp => ?_, hf, ?_⟩
  · have hkept : q.isPrefixOf place = false := by
      simpa [← List.isPrefixOf_iff_prefix] using hp
    simp only [node?, removeAt, hlookup, hkept, Bool.not_false, if_true]
  · have hself : q.isPrefixOf q = true := List.isPrefixOf_iff_prefix.2 List.prefix_rfl
    have hnone : ¬ q.isPrefixOf f.home = true := fun h => hhome (List.isPrefixOf_iff_prefix.1 h)
    simp only [node?, removeAt, hlookup, hself, hnone]
    simp

/-- A path that is one name is that name in the working folder. -/
theorem write_name {f : Folder} {name : String} (hsteps : Path.ofText name = ⟨false, [.down name]⟩)
    (n : Node) : f.write name n = f.put (f.home ++ [name]) n := by
  simp [write, hsteps, origin, prepare]

theorem remove_name {f : Folder} {name : String}
    (hsteps : Path.ofText name = ⟨false, [.down name]⟩) :
    f.remove name = f.removeAt (f.home ++ [name]) := by
  have hhome : f.node? f.home = some .folder := by
    rw [node?, if_pos (List.isPrefixOf_iff_prefix.2 List.prefix_rfl)]
  simp [remove, hsteps, origin, follow, hhome]

end Folder

end UserRegistry
