import UserRegistry.Proofs.Configuration.Ordering

/-!
# A loader that several hold

A loader may be copied, at any time and any number of times. Every copy keeps the place it was
copied with; the settings are one cell that all of them share. Around them files and variables
change. Asking for the settings, or for the loader in words, changes nothing: these are questions
about a state, which can be put after every step.

Each load has an order of its own, given with the step that loads. A load that panics does so before
the cell is touched: it leaves everything as it was and does not count among the loads.

`Reflects` is the invariant: all copies have the place of the first loader, and the cell holds
what the last successful one of all loads made of the world as it was then. `handle_snapshot` says
what follows for whoever holds a copy, after any steps.
-/

namespace UserRegistry.Configuration

open UserRegistry.Layers (Order)

/-- A world, the settings in it that all copies of a loader share, and the place of each copy, in
the order in which they were made. -/
structure Shared where
  world : World
  current : Settings
  places : List Place

/-- What happens around a loader and its copies, which are known by their numbers. -/
inductive Step where
  | write (path : String) (node : Node)
  | remove (path : String)
  | setVariable (name value : String)
  | unsetVariable (name : String)
  /-- Variables that are not in UTF-8 come or go. -/
  | setForeign (present : Bool)
  /-- A copy is made of a copy. -/
  | clone (handle : Nat)
  /-- Settings are loaded anew through a copy, in an order of this load. -/
  | reload (handle : Nat) (order : Order)

namespace Shared

def ofLoader (l : Loader) (w : World) : Shared :=
  ⟨w, l.current, [l.place]⟩

/-- The loader as the holder of a copy sees it. -/
def handle? (s : Shared) (i : Nat) : Option Loader :=
  s.places[i]?.map fun p => ⟨p, s.current⟩

/-- The state after a step; without a copy of the number given nothing happens. -/
def step (s : Shared) : Step → Shared
  | .write path node => { s with world := { s.world with files := s.world.files.write path node } }
  | .remove path => { s with world := { s.world with files := s.world.files.remove path } }
  | .setVariable name value =>
    { s with world := { s.world with vars := s.world.vars.set name value } }
  | .unsetVariable name => { s with world := { s.world with vars := s.world.vars.unset name } }
  | .setForeign present =>
    { s with world := { s.world with vars := { s.world.vars with foreign := present } } }
  | .clone i =>
    match s.handle? i with
    | some l => { s with places := s.places ++ [l.place] }
    | none => s
  | .reload i o =>
    match s.handle? i with
    | some l =>
      if l.place.panic? s.world o = none then { s with current := (l.reload s.world o).2.get }
      else s
    | none => s

def run (s : Shared) (steps : List Step) : Shared :=
  steps.foldl step s

/-- The world that a step loads settings from, if it does, and the order of that load. -/
def loadsFrom (s : Shared) : Step → List (World × Order)
  | .reload i o =>
    match s.handle? i with
    | some l => if l.place.panic? s.world o = none then [(s.world, o)] else []
    | none => []
  | _ => []

/-- The worlds that steps load settings from, one after the other, each with its order. -/
def loads (s : Shared) : List Step → List (World × Order)
  | [] => []
  | st :: steps => s.loadsFrom st ++ (s.step st).loads steps

end Shared

/-- How a loader comes to be by a load in an order, and the world it then is in: for a place, or for
a folder and the environment that the variables name. -/
inductive Built : Loader → World → Order → Prop where
  | start {p : Place} {w : World} {o : Order} {l : Loader} : p.panic? w o = none →
    (Loader.start p w o).result = .ok l → Built l w o
  | discover {folder : String} {w : World} {o : Order} {l : Loader} :
    Loader.discoverPanic? folder w o = none → (Loader.discover folder w o).1.result = .ok l →
      Built l (Loader.discover folder w o).2 o

theorem Built.loaded {l : Loader} {w : World} {o : Order} (h : Built l w o) :
    l.place.panic? w o = none ∧ l.place.settings w o = .ok l.current := by
  cases h with
  | start hpanic h =>
    obtain ⟨s, hs, rfl⟩ := start_eq_ok h
    exact ⟨hpanic, hs⟩
  | discover hpanic h =>
    obtain ⟨s, hs, rfl⟩ := start_eq_ok h
    unfold Loader.discoverPanic? at hpanic
    split at hpanic
    · cases hpanic
    · exact ⟨hpanic, hs⟩

/-! ## The invariant -/

/-- Settings are what the last successful load made, out of loads of a place from several worlds
one after the other. -/
def LastLoaded (p : Place) (loads : List (World × Order)) (s : Settings) : Prop :=
  ∃ before v after, loads = before ++ v :: after ∧
    (Loader.start p v.1 v.2).result = .ok ⟨p, s⟩ ∧
    ∀ u ∈ after, ∃ f, (Loader.start p u.1 u.2).result = .error f

/-- All copies have one place, the shared settings are those loaded last, and no load that counts
has panicked. -/
structure Reflects (p : Place) (loads : List (World × Order)) (s : Shared) : Prop where
  places : ∀ q ∈ s.places, q = p
  current : LastLoaded p loads s.current
  sound : ∀ v ∈ loads, p.panic? v.1 v.2 = none

section
variable {p : Place} {loads : List (World × Order)} {w : World} {o : Order} {s : Settings}

theorem LastLoaded.ok (h : p.settings w o = .ok s) : LastLoaded p (loads ++ [(w, o)]) s := by
  refine ⟨loads, (w, o), [], rfl, ?_, by simp⟩
  rw [start_result, h]
  rfl

theorem LastLoaded.error {f : Failure} (hl : LastLoaded p loads s)
    (h : p.settings w o = .error f) : LastLoaded p (loads ++ [(w, o)]) s := by
  obtain ⟨before, v, after, rfl, hv, hafter⟩ := hl
  refine ⟨before, v, after ++ [(w, o)], by simp, hv, fun u hu => ?_⟩
  rcases List.mem_append.1 hu with hu | hu
  · exact hafter u hu
  · cases List.mem_singleton.1 hu
    rw [start_result, h]
    exact ⟨f, rfl⟩

end

section
variable {l : Loader} {w : World} {o : Order}

theorem reload_ok {s : Settings} (h : l.place.settings w o = .ok s) :
    (l.reload w o).1.result = .ok () ∧ (l.reload w o).2 = l.swap s := by
  have hr := load_result l.place w o
  rw [h] at hr
  unfold Loader.reload
  simp only [hr, and_self]

theorem reload_error {f : Failure} (h : l.place.settings w o = .error f) :
    (l.reload w o).1.result = .error f ∧ (l.reload w o).2 = l := by
  have hr := load_result l.place w o
  rw [h] at hr
  unfold Loader.reload
  simp only [hr, and_self]

end

theorem handle?_eq_some {s : Shared} {i : Nat} {l : Loader} (h : s.handle? i = some l) :
    l.place ∈ s.places ∧ l.current = s.current := by
  obtain ⟨p, hp, rfl⟩ := Option.map_eq_some_iff.1 h
  exact ⟨List.mem_of_getElem? hp, rfl⟩

/-- A load that does not panic keeps the invariant, whether it succeeds or fails. -/
theorem Reflects.reload {p : Place} {loads : List (World × Order)} {s : Shared}
    (h : Reflects p loads s) {l : Loader} (hplace : l.place = p) (hcurrent : l.current = s.current)
    {o : Order} (hpanic : l.place.panic? s.world o = none) :
    Reflects p (loads ++ [(s.world, o)]) { s with current := (l.reload s.world o).2.get } := by
  subst hplace
  refine ⟨h.places, ?_, fun v hv => ?_⟩
  · cases hs : l.place.settings s.world o with
    | ok t =>
      rw [(reload_ok hs).2]
      exact .ok hs
    | error f =>
      rw [(reload_error hs).2, Loader.get, hcurrent]
      exact h.current.error hs
  · rcases List.mem_append.1 hv with hv | hv
    · exact h.sound v hv
    · rwa [List.mem_singleton.1 hv]

/-- Every step keeps the invariant. -/
theorem Reflects.step {p : Place} {loads : List (World × Order)} {s : Shared}
    (h : Reflects p loads s) (st : Step) : Reflects p (loads ++ s.loadsFrom st) (s.step st) := by
  cases st with
  | write path node => simpa [Shared.loadsFrom] using ⟨h.places, h.current, h.sound⟩
  | remove path => simpa [Shared.loadsFrom] using ⟨h.places, h.current, h.sound⟩
  | setVariable name value => simpa [Shared.loadsFrom] using ⟨h.places, h.current, h.sound⟩
  | unsetVariable name => simpa [Shared.loadsFrom] using ⟨h.places, h.current, h.sound⟩
  | setForeign present => simpa [Shared.loadsFrom] using ⟨h.places, h.current, h.sound⟩
  | clone i =>
    simp only [Shared.step, Shared.loadsFrom, List.append_nil]
    cases hi : s.handle? i with
    | none => exact h
    | some l =>
      refine ⟨fun q hq => ?_, h.current, h.sound⟩
      rcases List.mem_append.1 hq with hq | hq
      · exact h.places q hq
      · rw [List.mem_singleton.1 hq]
        exact h.places _ (handle?_eq_some hi).1
  | reload i o =>
    simp only [Shared.step, Shared.loadsFrom]
    cases hi : s.handle? i with
    | none => simpa using h
    | some l =>
      obtain ⟨hmem, hcurrent⟩ := handle?_eq_some hi
      dsimp only
      split
      · rename_i hpanic
        exact h.reload (h.places _ hmem) hcurrent hpanic
      · simpa using h

/-- The invariant holds after any steps. -/
theorem Reflects.run {p : Place} (steps : List Step) {loads : List (World × Order)} {s : Shared}
    (h : Reflects p loads s) : Reflects p (loads ++ s.loads steps) (s.run steps) := by
  induction steps generalizing loads s with
  | nil =>
    rw [Shared.loads, List.append_nil]
    exact h
  | cons st steps ih =>
    rw [Shared.loads, ← List.append_assoc]
    exact ih (h.step st)

theorem Built.reflects {l : Loader} {w : World} {o : Order} (h : Built l w o) :
    Reflects l.place [(w, o)] (Shared.ofLoader l w) := by
  have hlast : LastLoaded l.place ([] ++ [(w, o)]) l.current := LastLoaded.ok h.loaded.2
  exact ⟨fun _ hq => List.mem_singleton.1 hq, hlast, by simpa using h.loaded.1⟩

/-! ## What the holder of a copy sees -/

theorem reload_result (l : Loader) (w : World) (o : Order) :
    (l.reload w o).1.result = (l.place.settings w o).map fun _ => () := by
  cases h : l.place.settings w o with
  | ok s => rw [(reload_ok h).1, Except.map]
  | error f => rw [(reload_error h).1, Except.map]

theorem reload_result_eq_start (l : Loader) (w : World) (o : Order) :
    (l.reload w o).1.result = (Loader.start l.place w o).result.map fun _ => () := by
  rw [reload_result, start_result]
  cases l.place.settings w o <;> rfl

theorem filter_of_start {p : Place} {w : World} {o : Order} {s : Settings}
    (h : (Loader.start p w o).result = .ok ⟨p, s⟩) :
    Text.trimmed s.logging.filter.toList ≠ [] := by
  obtain ⟨t, ht, hl⟩ := start_eq_ok h
  cases hl
  exact filter_of_settings ht

/-- Where no value is in the way of another, loading anew in one order succeeds or fails as a first
load in any other does, and leaves the same loader as in any other. -/
theorem reload_anyOrder (l : Loader) {w : World} (hvs : Layers.Overrides.Separate w.vars)
    (hsources : ∀ d ∈ l.place.sources w.files, Orderly d) (o o' : Order) :
    SameEnd (l.reload w o).1.result ((Loader.start l.place w o').result.map fun _ => ()) ∧
      (l.reload w o).2 = (l.reload w o').2 := by
  obtain ⟨hend, -⟩ := Place.settings_anyOrder hsources hvs (fun _ => rfl) o o'
  refine ⟨?_, ?_⟩
  · rw [← reload_result_eq_start, reload_result, reload_result]
    exact hend.map _
  · cases hs : l.place.settings w o with
    | ok s => rw [(reload_ok hs).2, (reload_ok ((hend.eq_ok_iff s).1 hs)).2]
    | error f =>
      cases hs' : l.place.settings w o' with
      | ok s => cases hs.symm.trans ((hend.eq_ok_iff s).2 hs')
      | error f' => rw [(reload_error hs).2, (reload_error hs').2]

/-- What the holder of a copy `l` sees when `p` is the place of the first loader, `loads` are all
loads until now and `s` is the state now. -/
structure Sees (p : Place) (loads : List (World × Order)) (s : Shared) (i : Nat) (l : Loader) :
    Prop where
  /-- The settings are those of the last load that succeeded. -/
  get : LastLoaded p loads l.get
  /-- None of the loads has panicked. -/
  sound : ∀ v ∈ loads, p.panic? v.1 v.2 = none
  /-- The place is still the one of the first loader, and so is the loader in words. -/
  place : l.place = p
  describe : ∀ t, l.describe = (Loader.mk p t).describe
  filter : Text.trimmed l.get.logging.filter.toList ≠ []
  /-- Loading anew through the copy succeeds or fails as a first load in the same order does
  now. -/
  reload : ∀ o, (l.reload s.world o).1.result =
    (Loader.start p s.world o).result.map fun _ => ()
  /-- A failure is one of the configuration, and no holder sees that anything happened. -/
  reload_error : ∀ o f, (l.reload s.world o).1.result = .error f →
    f.code = "CONFIGURATION_ERROR" ∧ s.step (.reload i o) = s
  /-- Nor does a holder see anything of a load that panics. -/
  reload_panic : ∀ o cause, p.panic? s.world o = some cause → s.step (.reload i o) = s
  /-- Where no value is in the way of another, the order does not matter: loading anew in one order
  panics, succeeds or fails as a first load in any other does, and leaves the same to see. -/
  anyOrder : Layers.Overrides.Separate s.world.vars → (∀ d ∈ p.sources s.world.files, Orderly d) →
    ∀ o o', p.panic? s.world o = p.panic? s.world o' ∧
      SameEnd (l.reload s.world o).1.result
        ((Loader.start p s.world o').result.map fun _ => ()) ∧
      s.step (.reload i o) = s.step (.reload i o')

/-- Whatever names the environment now has no part in what is loaded for a place: neither the
variable, nor a file of variables in any folder. -/
structure Fixed (p : Place) : Prop where
  set : ∀ w value, p.LoadsAlike ⟨w.files, w.vars.set environmentVariable value⟩ w
  unset : ∀ w, p.LoadsAlike ⟨w.files, w.vars.unset environmentVariable⟩ w
  put : ∀ w place content, w.files.node? (place ++ [variableFile]) ≠ some .folder →
    p.LoadsAlike ⟨w.files.put (place ++ [variableFile]) (.file content), w.vars⟩ w
  removeAt : ∀ w place, w.files.node? (place ++ [variableFile]) ≠ some .folder →
    p.LoadsAlike ⟨w.files.removeAt (place ++ [variableFile]), w.vars⟩ w
  /-- In the working folder it may be named by its path. -/
  write : ∀ w content, w.files.node? (w.files.home ++ [variableFile]) ≠ some .folder →
    p.LoadsAlike ⟨w.files.write variableFile (.file content), w.vars⟩ w
  remove : ∀ w, w.files.node? (w.files.home ++ [variableFile]) ≠ some .folder →
    p.LoadsAlike ⟨w.files.remove variableFile, w.vars⟩ w

theorem fixed (p : Place) : Fixed p where
  set := loadsAlike_set p
  unset := loadsAlike_unset p
  put w _ content h := loadsAlike_put p w h content
  removeAt w _ h := loadsAlike_removeAt p w h
  write w content h := by
    rw [Folder.write_name variableFile_steps]
    exact loadsAlike_put p w h content
  remove w h := by
    rw [Folder.remove_name variableFile_steps]
    exact loadsAlike_removeAt p w h

/-- **Everyone sees the last successful load.** After any steps from a loader that was built,
whoever holds a copy of it sees what was loaded last, for the place it was built for. -/
theorem handle_snapshot {l₀ l : Loader} {w₀ : World} {o₀ : Order} (h : Built l₀ w₀ o₀)
    (steps : List Step) {i : Nat}
    (hi : ((Shared.ofLoader l₀ w₀).run steps).handle? i = some l) :
    Sees l₀.place ((w₀, o₀) :: (Shared.ofLoader l₀ w₀).loads steps)
      ((Shared.ofLoader l₀ w₀).run steps) i l ∧ Fixed l₀.place := by
  have hr := h.reflects.run steps
  obtain ⟨hmem, hcurrent⟩ := handle?_eq_some hi
  have hplace := hr.places _ hmem
  have hget : l.get = ((Shared.ofLoader l₀ w₀).run steps).current := hcurrent
  rw [← hplace] at hr ⊢
  generalize (Shared.ofLoader l₀ w₀).run steps = s at hr hi hget
  refine ⟨?_, fixed l.place⟩
  exact {
    get := hget ▸ hr.current
    sound := hr.sound
    place := rfl
    describe := fun t => rfl
    filter := by
      obtain ⟨_, v, _, -, hv, -⟩ := hr.current
      rw [hget]
      exact filter_of_start hv
    reload := reload_result_eq_start l s.world
    reload_error := by
      intro o f hf
      cases hs : l.place.settings s.world o with
      | ok t =>
        rw [(reload_ok hs).1] at hf
        cases hf
      | error g =>
        rw [(reload_error hs).1] at hf
        obtain rfl := Except.error.inj hf
        refine ⟨code_of_settings hs, ?_⟩
        simp only [Shared.step, hi, (reload_error hs).2, hget, ite_self]
    reload_panic := by
      intro o cause hcause
      simp only [Shared.step, hi, hcause, reduceCtorEq, if_false]
    anyOrder := by
      intro hvs hsources o o'
      have hpanic := panic?_anyOrder hsources hvs (fun _ => rfl) rfl o o'
      obtain ⟨hend, hsame⟩ := reload_anyOrder l hvs hsources o o'
      refine ⟨hpanic, hend, ?_⟩
      simp only [Shared.step, hi, hsame]
      rw [hpanic] }

def oneFile : World :=
  ⟨Folder.empty.write "config/default.toml" (.file ⟨"[demo]\nid = 3\n", false⟩), .empty⟩

def oneFileLoader : Loader :=
  ⟨⟨"config", "development"⟩, { demo := { id := 3 } }⟩

/-- The file changes so that it cannot be used, and a copy of the loader tries to use it. -/
def failingReload : List Step :=
  [.write "config/default.toml" (.file ⟨"[observability]\nlog_filter = \" \"\n", false⟩),
    .clone 0, .reload 1 .listed]

theorem handle_snapshot_failingReload :
    (Loader.start oneFileLoader.place oneFile).result = .ok oneFileLoader ∧
      ((Shared.ofLoader oneFileLoader oneFile).run failingReload).handle? 1 = some oneFileLoader ∧
      Sees oneFileLoader.place
        ((oneFile, .listed) :: (Shared.ofLoader oneFileLoader oneFile).loads failingReload)
        ((Shared.ofLoader oneFileLoader oneFile).run failingReload) 1 oneFileLoader ∧
      Fixed oneFileLoader.place := by
  have hpanic : oneFileLoader.place.panic? oneFile .listed = none := by decide +kernel
  have hstart : (Loader.start oneFileLoader.place oneFile).result = .ok oneFileLoader := by
    decide +kernel
  have hhandle : ((Shared.ofLoader oneFileLoader oneFile).run failingReload).handle? 1 =
      some oneFileLoader := by
    decide +kernel
  exact ⟨hstart, hhandle, handle_snapshot (.start hpanic hstart) failingReload hhandle⟩

end UserRegistry.Configuration
