import UserRegistry.Failure
import UserRegistry.Layers.Decode

/-!
# What is read does not depend on the order

The tables of a tree are gone through in the order of a load, and of several values that do not fit
the first one met is told. Whether there is one, and what is read where there is none, is the same
in every order: each field of a record changes something of its own (`Commutes`), so the changes may
be made one after the other as they come (`readMembers_perm`). A visitor for which that holds at
every depth is `Steady`; that of the settings is (`steady_settings`).
-/

namespace UserRegistry.Layers.Tree

/-- A field makes a change out of what stands under its name: the one it reads, or none if nothing
stands there and nothing has to. -/
def Gives (key : String) (ms : List (String × Tree)) (f : Field Reader α) (change : α → α) :
    Prop :=
  match ms.lookup f.name with
  | none => f.required = false ∧ change = id
  | some t => f.change (memberKey key f.name) t = .ok change

theorem readMembers_cons_eq_ok {key : String} {ms : List (String × Tree)} {f : Field Reader α}
    {fs : List (Field Reader α)} {a b : α} : readMembers key ms (f :: fs) a = .ok b ↔
      ∃ change, Gives key ms f change ∧ readMembers key ms fs (change a) = .ok b := by
  rw [readMembers]
  unfold Gives
  cases ms.lookup f.name with
  | none => cases f.required <;> simp
  | some t => cases hx : f.change (memberKey key f.name) t <;> simp [hx]

/-- The changes that two fields make may be made in either order. -/
def Commutes (f g : Field Reader α) : Prop :=
  ∀ ⦃key t key' t' change change'⦄, f.change key t = .ok change → g.change key' t' = .ok change' →
    ∀ a, change (change' a) = change' (change a)

theorem Commutes.symm {f g : Field Reader α} (h : Commutes f g) : Commutes g f :=
  fun _ _ _ _ _ _ hg hf a => (h hf hg a).symm

theorem Commutes.gives {f g : Field Reader α} (h : Commutes f g) {key : String}
    {ms : List (String × Tree)} {change change' : α → α} (hf : Gives key ms f change)
    (hg : Gives key ms g change') (a : α) : change (change' a) = change' (change a) := by
  unfold Gives at hf hg
  split at hf
  · rw [hf.2, id, id]
  · split at hg
    · rw [hg.2, id, id]
    · exact h hf hg a

/-- **The members of a record may be read in any order.** -/
theorem readMembers_perm {fs fs' : List (Field Reader α)} (h : fs.Perm fs')
    (hcomm : fs.Pairwise Commutes) {key : String} {ms : List (String × Tree)} {a b : α}
    (hread : readMembers key ms fs a = .ok b) : readMembers key ms fs' a = .ok b := by
  induction h generalizing a with
  | nil => exact hread
  | cons f _ ih =>
    obtain ⟨change, hf, hread⟩ := readMembers_cons_eq_ok.1 hread
    exact readMembers_cons_eq_ok.2 ⟨change, hf, ih (List.pairwise_cons.1 hcomm).2 hread⟩
  | swap f g fs =>
    have hgf := (List.pairwise_cons.1 hcomm).1 f (List.mem_cons_self ..)
    obtain ⟨change', hg, hread⟩ := readMembers_cons_eq_ok.1 hread
    obtain ⟨change, hf, hread⟩ := readMembers_cons_eq_ok.1 hread
    rw [← hgf.gives hg hf] at hread
    exact readMembers_cons_eq_ok.2 ⟨change, hf, readMembers_cons_eq_ok.2 ⟨change', hg, hread⟩⟩
  | trans hperm _ ih ih' =>
    exact ih' ((hperm.pairwise_iff Commutes.symm).1 hcomm) (ih hcomm hread)

/-- A visitor reads something or not whatever the ranks are, and always the same. -/
def Steady (v : Visitor α) : Prop :=
  ∀ r r' key t a, v r key t = .ok a → v r' key t = .ok a

theorem Steady.readMembers {fs : List (Field Visitor α)} (h : ∀ f ∈ fs, Steady f.change)
    (r r' : Ranks) {key : String} {ms : List (String × Tree)} {a b : α}
    (hread : Tree.readMembers key ms (fs.map (visited r)) a = .ok b) :
    Tree.readMembers key ms (fs.map (visited r')) a = .ok b := by
  induction fs generalizing a with
  | nil => exact hread
  | cons f fs ih =>
    obtain ⟨hf, hfs⟩ := List.forall_mem_cons.1 h
    obtain ⟨change, hgives, hread⟩ := readMembers_cons_eq_ok.1 hread
    refine readMembers_cons_eq_ok.2 ⟨change, ?_, ih hfs hread⟩
    unfold Gives at hgives ⊢
    dsimp only [visited] at hgives ⊢
    split at hgives
    · exact hgives
    · exact hf _ _ _ _ _ hgives

theorem Steady.readItems {fs : List (Field Visitor α)} (h : ∀ f ∈ fs, Steady f.change)
    (r r' : Ranks) {key : String} {i : Nat} {ts : List Tree} {a b : α}
    (hread : Tree.readItems key i ts (fs.map (visited r)) a = .ok b) :
    Tree.readItems key i ts (fs.map (visited r')) a = .ok b := by
  induction fs generalizing i ts a with
  | nil => simpa only [List.map_nil, Tree.readItems] using hread
  | cons f fs ih =>
    obtain ⟨hf, hfs⟩ := List.forall_mem_cons.1 h
    rw [List.map_cons] at hread ⊢
    cases ts with
    | nil =>
      rw [Tree.readItems] at hread ⊢
      cases hrequired : f.required with
      | true => simp [visited, hrequired] at hread
      | false =>
        simp only [visited, hrequired, Bool.false_eq_true, if_false] at hread ⊢
        exact ih hfs hread
    | cons t ts =>
      rw [Tree.readItems] at hread ⊢
      cases hx : f.change (r.under f.name) (itemKey key i) t with
      | error e => simp [visited, hx] at hread
      | ok change =>
        have hx' := hf _ (r'.under f.name) _ _ _ hx
        simp only [visited, hx, hx'] at hread ⊢
        exact ih hfs hread

/-- A record is read steadily if its fields are and none undoes what another one does. -/
theorem Steady.visit {rec : Record Visitor α} (h : ∀ f ∈ rec.fields, Steady f.change)
    (hcomm : ∀ r, (rec.fields.map (visited r)).Pairwise Commutes) : Steady (visitRecord rec) := by
  intro r r' key t a hread
  have hsort (r : Ranks) := r.perm_sort Field.name (rec.fields.map (visited r))
  cases t with
  | scalar o v => cases hread
  | list o ts => exact Steady.readItems h r r' hread
  | table o ms =>
    have hsorted := ((hsort r).pairwise_iff Commutes.symm).2 (hcomm r)
    have hlisted := Steady.readMembers h r r' (readMembers_perm (hsort r) hsorted hread)
    exact readMembers_perm (hsort r').symm (hcomm r') hlisted

theorem Steady.optional {name : String} {v : Visitor β} (h : Steady v) (put : β → α → α) :
    Steady (Field.optional name v put).change := by
  intro r r' key t change hread
  obtain ⟨b, hb, rfl⟩ := Result.map_eq_ok hread
  exact congrArg (Except.map put) (h r r' key t b hb)

theorem commutes_optional {name name' : String} {v : Visitor β} {v' : Visitor γ}
    {put : β → α → α} {put' : γ → α → α} (h : ∀ x y a, put x (put' y a) = put' y (put x a))
    (r : Ranks) : Commutes (visited r (.optional name v put))
      (visited r (.optional name' v' put')) := by
  intro key t key' t' change change' hread hread' a
  obtain ⟨x, -, rfl⟩ := Result.map_eq_ok hread
  obtain ⟨y, -, rfl⟩ := Result.map_eq_ok hread'
  exact h x y a

/-- **What settings a tree holds does not depend on the order it is visited in**, nor whether it
holds any. -/
theorem steady_settings : Steady (Settings.reader : Visitor Settings) := by
  have htext : Steady (Format.text : Visitor String) := fun _ _ _ _ _ h => h
  have hint : Steady (Format.int64 : Visitor Int64) := fun _ _ _ _ _ h => h
  have hflag : Steady (Format.flag : Visitor Bool) := fun _ _ _ _ _ h => h
  have hbackend : Steady (Backend.reader : Visitor Backend) := fun _ _ _ _ _ h => h
  have happ : Steady (Settings.appReader : Visitor AppSection) :=
    .visit (by simp [Steady.optional, htext]) (by simp [commutes_optional])
  have hservice : Steady (Settings.serviceReader : Visitor ServiceSection) :=
    .visit (by simp [Steady.optional, hbackend]) (by simp)
  have hdemo : Steady (Settings.demoReader : Visitor DemoSection) :=
    .visit (by simp [Steady.optional, htext, hint]) (by simp [commutes_optional])
  have hlogging : Steady (Settings.loggingReader : Visitor LoggingSection) :=
    .visit (by simp [Steady.optional, htext, hflag]) (by simp [commutes_optional])
  exact .visit (by simp [Steady.optional, happ, hservice, hdemo, hlogging])
    (by simp [commutes_optional])

end UserRegistry.Layers.Tree
