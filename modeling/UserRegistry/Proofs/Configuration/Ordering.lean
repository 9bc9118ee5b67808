import UserRegistry.Proofs.Configuration.Loading
import UserRegistry.Proofs.Layers.Order
import UserRegistry.Proofs.Layers.Visits

/-!
# Loading in any order

Every load meets the names of its documents and its variables in an order of its own, so two loads
of one and the same world may differ: of two values for one setting another one counts, or of two
that do not fit another one is told. Only the latter is left (`SameEnd`) where no value is in the
way of another (`Orderly`, `Overrides.Separate`): `settings_anyOrder`, `start_anyOrder`. Whether a
load panics does not depend on its order then either (`panic?_anyOrder`).
-/

namespace UserRegistry.Configuration

open UserRegistry.Layers

/-- Two loads end alike: in the same way, or both with a value that does not fit. -/
def SameEnd (r r' : Result α) : Prop :=
  r = r' ∨ ∃ m m', r = .error (unfit m) ∧ r' = .error (unfit m')

section
variable {r r' : Result α}

theorem SameEnd.refl (r : Result α) : SameEnd r r := .inl rfl

theorem SameEnd.symm (h : SameEnd r r') : SameEnd r' r :=
  h.imp Eq.symm fun ⟨m, m', hm, hm'⟩ => ⟨m', m, hm', hm⟩

theorem SameEnd.trans {r'' : Result α} (h : SameEnd r r') (h' : SameEnd r' r'') :
    SameEnd r r'' := by
  rcases h with rfl | ⟨m, m', rfl, rfl⟩
  · exact h'
  · rcases h' with rfl | ⟨m₁, m₂, -, rfl⟩
    · exact .inr ⟨m, m', rfl, rfl⟩
    · exact .inr ⟨m, m₂, rfl, rfl⟩

theorem SameEnd.bind (h : SameEnd r r') (f : α → Result β) : SameEnd (r.bind f) (r'.bind f) := by
  rcases h with rfl | ⟨m, m', rfl, rfl⟩
  · exact .refl _
  · exact .inr ⟨m, m', rfl, rfl⟩

theorem SameEnd.map (h : SameEnd r r') (f : α → β) : SameEnd (r.map f) (r'.map f) := by
  rcases h with rfl | ⟨m, m', rfl, rfl⟩
  · exact .refl _
  · exact .inr ⟨m, m', rfl, rfl⟩

/-- What is loaded is the same, if anything is. -/
theorem SameEnd.eq_ok_iff (h : SameEnd r r') (a : α) : r = .ok a ↔ r' = .ok a := by
  rcases h with rfl | ⟨m, m', rfl, rfl⟩
  · exact Iff.rfl
  · simp

end

/-- The tree of the settings, if there is one, up to the order of names in it. -/
def SameTree : Result Tree → Result Tree → Prop
  | .ok t, .ok t' => Tree.Alike (some t) (some t')
  | .error f, .error f' => f = f'
  | _, _ => False

theorem SameTree.refl (x : Result Tree) : SameTree x x := by
  cases x with
  | ok t => exact Tree.Alike.refl _
  | error f => rfl

theorem SameTree.cases {x y : Result Tree} (h : SameTree x y) :
    (∃ f, x = .error f ∧ y = .error f) ∨
      ∃ t t', x = .ok t ∧ y = .ok t' ∧ Tree.Alike (some t) (some t') := by
  cases x with
  | error f =>
    cases y with
    | error f' =>
      obtain rfl : f = f' := h
      exact .inl ⟨f, rfl, rfl⟩
    | ok t' => exact False.elim h
  | ok t =>
    cases y with
    | error f' => exact False.elim h
    | ok t' => exact .inr ⟨t, t', rfl, rfl, h⟩

/-- No value of a document is in the way of another. -/
def Orderly (s : Source) : Prop :=
  ∀ layer ∈ (layerOf s).toOption, Separate layer

instance (s : Source) : Decidable (Orderly s) :=
  inferInstanceAs (Decidable (∀ layer ∈ (layerOf s).toOption, Separate layer))

theorem Orderly.separate {s : Source} (h : Orderly s) {layer : List (String × Tree)}
    (hlayer : layerOf s = .ok layer) : Separate layer :=
  h layer (by rw [hlayer]; rfl)

/-! ## Documents -/

section
variable {sources : List Source} (hsources : ∀ s ∈ sources, Orderly s)
include hsources

theorem putSources_anyOrder {t t' : Tree} (h : Tree.Alike (some t) (some t'))
    (ranks ranks' : Nat → Ranks) :
    SameTree (putSources t sources ranks) (putSources t' sources ranks') := by
  induction sources generalizing t t' ranks ranks' with
  | nil => exact h
  | cons s rest ih =>
    obtain ⟨hs, hrest⟩ := List.forall_mem_cons.1 hsources
    rw [putSources, putSources]
    cases hlayer : layerOf s with
    | error f => rfl
    | ok layer => exact ih hrest ((hs.separate hlayer).alike_putLayer _ _ h) _ _

theorem sourcesPanic_anyOrder {t t' : Tree} (h : Tree.Alike (some t) (some t'))
    (ranks ranks' : Nat → Ranks) :
    sourcesPanic t sources ranks = sourcesPanic t' sources ranks' := by
  induction sources generalizing t t' ranks ranks' with
  | nil => rfl
  | cons s rest ih =>
    obtain ⟨hs, hrest⟩ := List.forall_mem_cons.1 hsources
    rw [sourcesPanic, sourcesPanic]
    cases hlayer : layerOf s with
    | error f => rfl
    | ok layer =>
      have hseparate := hs.separate hlayer
      dsimp only
      rw [hseparate.layerPanics_eq (ranks 0) (ranks' 0) h,
        ih hrest (hseparate.alike_putLayer (ranks 0) (ranks' 0) h)]

end

/-! ## Variables -/

theorem allApart_variableLayer {vs : Variables} (h : Overrides.Separate vs) (r : Ranks) :
    AllApart (variableLayer vs r) :=
  h.allApart.perm (perm_variableLayer vs r).symm

section
variable {vs ws : Variables} (hvs : Overrides.Separate vs) (hget : ∀ n, vs.get? n = ws.get? n)
include hvs hget

theorem variableLayer_perm (r r' : Ranks) : (variableLayer vs r).Perm (variableLayer ws r') :=
  (perm_variableLayer vs r).trans ((hvs.layer_perm hget).trans (perm_variableLayer ws r').symm)

theorem alike_putVariables (r r' : Ranks) {t t' : Tree} (h : Tree.Alike (some t) (some t')) :
    Tree.Alike (some (t.putLayer (variableLayer vs r)))
      (some (t'.putLayer (variableLayer ws r'))) :=
  (h.putLayer _).trans
    ((allApart_variableLayer hvs r).alike_putLayer (variableLayer_perm hvs hget r r') t')

theorem variablesPanic?_anyOrder (hforeign : vs.foreign = ws.foreign) (r r' : Ranks)
    {t t' : Tree} (h : Tree.Alike (some t) (some t')) :
    variablesPanic? t vs r = variablesPanic? t' ws r' := by
  have hperm := variableLayer_perm hvs hget r r'
  have hapart := allApart_variableLayer hvs r
  have hpanics : t.layerPanics (variableLayer vs r) = t'.layerPanics (variableLayer ws r') :=
    (h.layerPanics _).trans (hapart.layerPanics_perm (hperm.map Prod.fst) (hapart.perm hperm) t')
  rw [variablesPanic?, variablesPanic?, hforeign, hpanics]

end

/-! ## Settings -/

/-- Trees that are alike hold the same settings, but of several misfits another may be told. -/
theorem decoded_anyOrder {t t' : Tree} (h : Tree.Alike (some t) (some t')) (r r' : Ranks) :
    SameEnd (decoded t r) (decoded t' r') := by
  have hsame : decoded t' r = decoded t r :=
    congrArg (Except.mapError unfit) (Tree.respects_settings r "" h.symm)
  have hsteady {r r' : Ranks} {s : Settings} (hs : decoded t' r = .ok s) :
      decoded t' r' = .ok s := by
    have hread := Tree.steady_settings r r' "" t' s (decoded_eq_ok hs)
    exact congrArg (Except.mapError unfit) hread
  rw [← hsame]
  cases hr : decoded t' r with
  | ok s => exact .inl (hsteady hr).symm
  | error f =>
    cases hr' : decoded t' r' with
    | ok s => cases hr.symm.trans (hsteady hr')
    | error f' =>
      obtain ⟨m, rfl⟩ := decoded_error hr
      obtain ⟨m', rfl⟩ := decoded_error hr'
      exact .inr ⟨m, m', rfl, rfl⟩

section
variable {environment : String} {sources : List Source} {vs ws : Variables} {o o' : Order}
  (hsources : SameTree (putSources (base environment) sources o.documents)
    (putSources (base environment) sources o'.documents))
  (hvs : Overrides.Separate vs) (hget : ∀ n, vs.get? n = ws.get? n)
include hsources hvs hget

theorem tree_anyOrder :
    SameTree (tree environment sources vs o) (tree environment sources ws o') := by
  unfold tree
  obtain ⟨f, hf, hf'⟩ | ⟨t, t', ht, ht', halike⟩ := hsources.cases
  · rw [hf, hf']
    rfl
  · rw [ht, ht']
    exact alike_putVariables hvs hget o.overrides o'.overrides halike

/-- **The order of a load does not matter** for what is loaded, and not for the failure either if
values are visited in the same order. -/
theorem settings_anyOrder :
    SameEnd (settings environment sources vs o) (settings environment sources ws o') ∧
      (o.settings = o'.settings →
        settings environment sources vs o = settings environment sources ws o') := by
  unfold settings
  obtain ⟨f, hf, hf'⟩ | ⟨t, t', ht, ht', halike⟩ := (tree_anyOrder hsources hvs hget).cases
  · rw [hf, hf']
    exact ⟨.refl _, fun _ => rfl⟩
  · rw [ht, ht']
    refine ⟨(decoded_anyOrder halike o.settings o'.settings).bind validated, fun hsettings => ?_⟩
    have hsame : decoded t o'.settings = decoded t' o'.settings :=
      congrArg (Except.mapError unfit) (Tree.respects_settings o'.settings "" halike)
    simp only [Except.bind, hsettings, hsame]

end

section
variable {p : Place} {files : Folder} {vs ws : Variables}
  (hsources : ∀ s ∈ p.sources files, Orderly s) (hvs : Overrides.Separate vs)
  (hget : ∀ n, vs.get? n = ws.get? n)
include hsources hvs hget

theorem Place.settings_anyOrder (o o' : Order) :
    SameEnd (p.settings ⟨files, vs⟩ o) (p.settings ⟨files, ws⟩ o') ∧
      (o.settings = o'.settings → p.settings ⟨files, vs⟩ o = p.settings ⟨files, ws⟩ o') :=
  Configuration.settings_anyOrder
    (putSources_anyOrder hsources (.refl (some (base p.environment))) o.documents o'.documents)
    hvs hget

theorem start_anyOrder (o o' : Order) :
    SameEnd (Loader.start p ⟨files, vs⟩ o).result (Loader.start p ⟨files, ws⟩ o').result ∧
      (o.settings = o'.settings →
        Loader.start p ⟨files, vs⟩ o = Loader.start p ⟨files, ws⟩ o') := by
  obtain ⟨hend, hsame⟩ := Place.settings_anyOrder hsources hvs hget o o'
  rw [start_result, start_result]
  exact ⟨hend.map _, fun h => start_eq_of_load (load_eq_of_settings (hsame h) rfl)⟩

theorem panic?_anyOrder (hforeign : vs.foreign = ws.foreign) (o o' : Order) :
    p.panic? ⟨files, vs⟩ o = p.panic? ⟨files, ws⟩ o' := by
  have hbase := Tree.Alike.refl (some (base p.environment))
  have hpanic := sourcesPanic_anyOrder hsources hbase o.documents o'.documents
  rw [Place.panic?, Place.panic?, panic?, panic?, hpanic]
  split
  · rfl
  obtain ⟨f, hf, hf'⟩ | ⟨t, t', ht, ht', halike⟩ :=
    (putSources_anyOrder hsources hbase o.documents o'.documents).cases
  · rw [hf, hf']
  · rw [ht, ht']
    exact variablesPanic?_anyOrder hvs hget hforeign o.overrides o'.overrides halike

end

end UserRegistry.Configuration
