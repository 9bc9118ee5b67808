import UserRegistry.Configuration.Loader
import UserRegistry.Proofs.Layers.Fields
import UserRegistry.Proofs.World.Paths

/-!
# What loading depends on, and how it fails

Loading reads three files and the variables whose names start with `ROSTER__`. It fails in one way
only, with a configuration error (`code_of_settings`), and what it gives always has a filter that
is more than blanks (`filter_of_settings`).

Neither the variable that names the environment nor the file of variables is among what it reads:
`loadsAlike_set`, `loadsAlike_unset`, `loadsAlike_put`, `loadsAlike_removeAt`. The place decides
alone which files are looked for. All this holds in every order of a load.
-/

namespace UserRegistry

namespace Configuration

open UserRegistry.Layers

/-! ## Failures -/

theorem putSources_error {sources : List Source} {t : Tree} {ranks : Nat → Ranks} {f : Failure}
    (h : putSources t sources ranks = .error f) : f = Toml.unreadable := by
  induction sources generalizing t ranks with
  | nil => cases h
  | cons s rest ih =>
    simp only [putSources, layerOf] at h
    cases hp : Toml.parse s.text with
    | none =>
      rw [hp] at h
      exact (Except.error.inj h).symm
    | some document =>
      rw [hp] at h
      exact ih h

theorem decoded_eq_ok {t : Tree} {r : Ranks} {s : Settings} (h : decoded t r = .ok s) :
    t.read ((Settings.reader : Tree.Visitor Settings) r) = .ok s :=
  Result.mapError_eq_ok h

theorem decoded_error {t : Tree} {r : Ranks} {f : Failure} (h : decoded t r = .error f) :
    ∃ m, f = unfit m := by
  obtain ⟨m, -, hm⟩ := Result.mapError_eq_error h
  exact ⟨m, hm.symm⟩

theorem validated_eq_ok {s t : Settings} (h : validated s = .ok t) :
    t = s ∧ Text.isAllBlank s.logging.filter.toList = false := by
  unfold validated at h
  split at h
  · cases h
  · rename_i hb
    exact ⟨(Except.ok.inj h).symm, by simpa using hb⟩

theorem validated_error {s : Settings} {f : Failure} (h : validated s = .error f) :
    f = noFilter := by
  unfold validated at h
  split at h
  · exact (Except.error.inj h).symm
  · cases h

/-- A change that leaves the filter may be made after all checks. -/
theorem validated_map (f : Settings → Settings)
    (hf : ∀ c, (f c).logging.filter = c.logging.filter) (r : Except Misfit Settings) :
    ((r.map f).mapError unfit).bind validated = ((r.mapError unfit).bind validated).map f := by
  cases r with
  | error m => rfl
  | ok c =>
    simp only [Except.map, Except.mapError, Except.bind, validated, hf]
    split <;> rfl

theorem perm_variableLayer (vs : Variables) (r : Ranks) :
    (variableLayer vs r).Perm (Overrides.layer vs) :=
  r.perm_sort _ _

section
variable {environment : String} {sources : List Source} {vs : Variables} {o : Order}

/-- The variables are the last layer. -/
theorem tree_eq_ok {t : Tree} (h : tree environment sources vs o = .ok t) :
    ∃ t' : Tree, t = t'.putLayer (variableLayer vs o.overrides) := by
  obtain ⟨t', -, ht⟩ := Result.map_eq_ok h
  exact ⟨t', ht.symm⟩

/-- Whatever goes wrong while settings are made, it is an error of the configuration. -/
theorem code_of_settings {f : Failure} (h : settings environment sources vs o = .error f) :
    f.code = "CONFIGURATION_ERROR" := by
  rcases Result.bind_eq_error h with htree | ⟨t, -, h⟩
  · rw [putSources_error (Result.map_eq_error htree)]
    rfl
  · rcases Result.bind_eq_error h with hdecoded | ⟨s, -, hvalidated⟩
    · obtain ⟨m, rfl⟩ := decoded_error hdecoded
      rfl
    · rw [validated_error hvalidated]
      rfl

/-- Settings that were made have a filter with something in it. -/
theorem filter_of_settings {s : Settings} (h : settings environment sources vs o = .ok s) :
    Text.trimmed s.logging.filter.toList ≠ [] := by
  obtain ⟨t, -, h⟩ := Result.bind_eq_ok h
  obtain ⟨s', -, h⟩ := Result.bind_eq_ok h
  obtain ⟨rfl, hb⟩ := validated_eq_ok h
  rw [ne_eq, Text.trimmed_eq_nil_iff, hb]
  exact Bool.false_ne_true

end

theorem load_result (p : Place) (w : World) (o : Order) :
    (p.load w o).result = p.settings w o := by
  unfold Place.load
  cases p.settings w o <;> rfl

theorem start_result (p : Place) (w : World) (o : Order) :
    (Loader.start p w o).result = (p.settings w o).map fun s => ⟨p, s⟩ := by
  simp only [Loader.start, load_result]

/-- What is known of a place where it was loaded. -/
theorem start_eq_ok {p : Place} {w : World} {o : Order} {l : Loader}
    (h : (Loader.start p w o).result = .ok l) : ∃ s, p.settings w o = .ok s ∧ l = ⟨p, s⟩ := by
  rw [start_result] at h
  obtain ⟨s, hs, hl⟩ := Result.map_eq_ok h
  exact ⟨s, hs, hl.symm⟩

theorem start_get (p : Place) (w : World) (o : Order) :
    (Loader.start p w o).result.map Loader.get = p.settings w o := by
  rw [start_result]
  cases p.settings w o <;> rfl

/-- Loading depends on the settings of the place and on the files that are announced. -/
theorem load_eq_of_settings {p : Place} {w v : World} {o o' : Order}
    (hsettings : p.settings w o = p.settings v o') (hfound : p.found w.files = p.found v.files) :
    p.load w o = p.load v o' := by
  unfold Place.load
  rw [hsettings, hfound]

theorem start_eq_of_load {p : Place} {w v : World} {o o' : Order}
    (h : p.load w o = p.load v o') : Loader.start p w o = Loader.start p v o' := by
  unfold Loader.start
  rw [h]

theorem reload_eq_of_load {l : Loader} {w v : World} {o o' : Order}
    (h : l.place.load w o = l.place.load v o') : l.reload w o = l.reload v o' := by
  unfold Loader.reload
  rw [h]

/-! ## What is read of the files -/

theorem exists_of_mem_paths {p : Place} {path : String} (h : path ∈ p.paths) :
    ∃ x, path = x ++ ".toml" := by
  obtain ⟨name, -, rfl⟩ := List.mem_map.1 h
  obtain ⟨x, hx, -⟩ := Path.inFolder_toml p.folder name
  exact ⟨x, hx⟩

theorem source?_congr {f g : Folder} {path : String} (h : f.find? path = g.find? path)
    (h' : f.find? (path ++ ".toml") = g.find? (path ++ ".toml")) :
    source? f path = source? g path := by
  unfold source?
  rw [← h]
  split <;> simp only [textUnder?, Folder.file?, h, h']

/-- A place is loaded alike in two worlds: in every order the same is read and told, or it panics
for the same reason. -/
def Place.LoadsAlike (p : Place) (w v : World) : Prop :=
  ∀ o, p.load w o = p.load v o ∧ p.panic? w o = p.panic? v o

/-- Loading reads the variables that hold settings and what is under a path with `.toml` at its
end. -/
theorem loadsAlike {p : Place} {f g : Folder} {vs ws : Variables}
    (hvs : Overrides.layer vs = Overrides.layer ws) (hforeign : vs.foreign = ws.foreign)
    (hfg : ∀ x, f.find? (x ++ ".toml") = g.find? (x ++ ".toml")) :
    p.LoadsAlike ⟨f, vs⟩ ⟨g, ws⟩ := by
  intro o
  have hfound : p.found f = p.found g := by
    refine List.filter_congr fun path hpath => ?_
    obtain ⟨x, rfl⟩ := exists_of_mem_paths hpath
    simp only [Folder.contains, hfg]
  have hsources : p.sources f = p.sources g := by
    unfold Place.sources
    rw [hfound]
    refine List.filterMap_congr fun path hpath => ?_
    obtain ⟨x, rfl⟩ := exists_of_mem_paths (List.mem_of_mem_filter hpath)
    exact source?_congr (hfg x) (hfg (x ++ ".toml"))
  have hsettings : p.settings ⟨f, vs⟩ o = p.settings ⟨g, ws⟩ o := by
    simp only [Place.settings, settings, tree, variableLayer, hsources, hvs]
  have hpanic (t : Tree) (r : Ranks) : variablesPanic? t vs r = variablesPanic? t ws r := by
    rw [variablesPanic?, variablesPanic?, variableLayer, variableLayer, hvs, hforeign]
  refine ⟨load_eq_of_settings hsettings hfound, ?_⟩
  simp only [Place.panic?, panic?, hsources, hpanic]

/-- A file of variables has not the name of a file of configuration. -/
theorem tomlName_ne_variableFile (x : String) : Path.tomlName x ≠ variableFile := by
  intro h
  have hlen := congrArg (fun s => s.toList.length) h
  simp only [Path.tomlName, variableFile, String.toList_ofList, List.length_append] at hlen
  have h5 : ".toml".toList.length = 5 := rfl
  have h4 : ".env".toList.length = 4 := rfl
  omega

theorem variableFile_steps : Path.ofText variableFile = ⟨false, [.down variableFile]⟩ := by decide

theorem loadsAlike_of_alike {place : List String} {f g : Folder}
    (h : Folder.Alike (place ++ [variableFile]) f g) (p : Place) (vs : Variables) :
    p.LoadsAlike ⟨f, vs⟩ ⟨g, vs⟩ := by
  refine loadsAlike rfl rfl fun x => h.find?_toml ?_
  rw [List.getLast?_concat]
  exact fun hx => tomlName_ne_variableFile x (Option.some.inj hx).symm

section
variable (p : Place) (w : World) {place : List String}
  (h : w.files.node? (place ++ [variableFile]) ≠ some .folder)
include h

theorem loadsAlike_put (content : FileText) :
    p.LoadsAlike ⟨w.files.put (place ++ [variableFile]) (.file content), w.vars⟩ w :=
  loadsAlike_of_alike (Folder.alike_put h content).symm p w.vars

theorem loadsAlike_removeAt :
    p.LoadsAlike ⟨w.files.removeAt (place ++ [variableFile]), w.vars⟩ w :=
  loadsAlike_of_alike (Folder.alike_removeAt h).symm p w.vars

end

/-! ## What is read of the variables -/

theorem filterMap_put {f : κ × α → Option β} [DecidableEq κ] {key : κ} (h : ∀ a, f (key, a) = none)
    (a : α) (ms : List (κ × α)) : (Keyed.put key a ms).filterMap f = ms.filterMap f := by
  induction ms with
  | nil => simp [Keyed.put, h]
  | cons m ms ih =>
    unfold Keyed.put
    split
    · rename_i hm
      obtain ⟨k, b⟩ := m
      cases hm
      simp [h]
    · rw [List.filterMap_cons, List.filterMap_cons, ih]

theorem filterMap_remove {f : κ × α → Option β} [DecidableEq κ] {key : κ}
    (h : ∀ a, f (key, a) = none) (ms : List (κ × α)) :
    (Keyed.remove key ms).filterMap f = ms.filterMap f := by
  unfold Keyed.remove
  induction ms with
  | nil => rfl
  | cons m ms ih =>
    obtain ⟨k, a⟩ := m
    by_cases hk : k = key
    · subst hk
      simp [h, ih]
    · simp [hk, List.filterMap_cons, ih]

theorem key?_environmentVariable : Overrides.key? environmentVariable = none := by decide

theorem setting?_environmentVariable (value : String) :
    Overrides.setting? (environmentVariable, value) = none := by
  rw [Overrides.setting?, key?_environmentVariable, Option.map_none]

theorem loadsAlike_set (p : Place) (w : World) (value : String) :
    p.LoadsAlike ⟨w.files, w.vars.set environmentVariable value⟩ w := by
  refine loadsAlike (congrArg Keyed.ofList ?_) rfl fun _ => rfl
  exact filterMap_put setting?_environmentVariable value w.vars.entries

theorem loadsAlike_unset (p : Place) (w : World) :
    p.LoadsAlike ⟨w.files, w.vars.unset environmentVariable⟩ w := by
  refine loadsAlike (congrArg Keyed.ofList ?_) rfl fun _ => rfl
  exact filterMap_remove setting?_environmentVariable w.vars.entries

end Configuration

end UserRegistry
