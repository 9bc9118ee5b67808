import UserRegistry.Proofs.Configuration.Ordering

/-!
# Loading for the environment that is found

A loader can be made without naming an environment (`ConfigLoader::new`): the nearest file of
variables, in the working folder or above it, is read first, into the variables of the process, and
these name it. `given` says what that file assigns in terms of the variables as they were before:
nothing is said there of variables that change line by line, since of several assignments to a name
the first one counts both for what is set and for what the name stands for later
(`given_eq_readLines`).

All that the file does is to set variables. Finding the environment is the same as naming it, under
the variables that are there afterwards, whatever order these come in (`discovers`); a value that no
variable can hold makes it panic instead.
-/

namespace UserRegistry

namespace VariableFile

/-- The assignments on lines up to the first that is at fault, after those `before`. In a value a
name stands for the variable that was set, else for what was assigned to it first. -/
def given (vs : Variables) (before : List (String × String)) :
    List (Except Fault (List Char)) → List (String × String)
  | [] => before
  | .error _ :: _ => before
  | .ok line :: rest =>
    match assignment? line with
    | .error _ => before
    | .ok none => given vs before rest
    | .ok (some a) =>
      match value (meaning vs before) a.value with
      | .error _ => before
      | .ok v => given vs (before ++ [(a.name, String.ofList v)]) rest

/-- Variables are those of a process with what was assigned to others, first things first. -/
def Extends (vs env : Variables) (assigned : List (String × String)) : Prop :=
  ∀ n, vs.get? n = (env.get? n).or (assigned.lookup n)

theorem Extends.nil (vs : Variables) : Extends vs vs [] := fun n => by simp

/-- An assignment more is one that counts if the name has no value yet. -/
theorem Extends.setDefault {vs env : Variables} {before : List (String × String)}
    (h : Extends vs env before) (name value : String) :
    Extends (vs.setDefault name value) env (before ++ [(name, value)]) := by
  intro n
  have hlast : [(name, value)].lookup n = if n = name then some value else none := by
    rw [Keyed.lookup_cons]
    rfl
  rw [Variables.get?_setDefault, h n, List.lookup_append, hlast, Option.or_assoc]

theorem Extends.assign {vs env : Variables} {before : List (String × String)}
    (h : Extends vs env before) (more : List (String × String)) :
    Extends (assign vs more) env (before ++ more) := by
  induction more generalizing vs before with
  | nil =>
    rw [List.append_nil]
    exact h
  | cons a more ih =>
    have hmore := ih (h.setDefault a.1 a.2)
    rwa [List.append_assoc] at hmore

/-- What a name stands for while variables are being set is what it stands for by itself. -/
theorem Extends.meaning {vs env : Variables} {before assigned : List (String × String)}
    (h : Extends vs env before) (hset : ∀ n, (assigned.lookup n).isSome → (vs.get? n).isSome) :
    meaning vs assigned = meaning env before := by
  funext n
  have hsame : (vs.get? n).or (assigned.lookup n) = vs.get? n := by
    cases hvs : vs.get? n with
    | some v => rfl
    | none =>
      have hn := hset n
      rw [hvs] at hn
      cases ha : assigned.lookup n with
      | none => rfl
      | some v => simp [ha] at hn
  unfold VariableFile.meaning
  rw [hsame, h n]

/-- **Reading line by line assigns what the lines give.** -/
theorem given_eq_readLines {vs env : Variables} {before assigned : List (String × String)}
    (h : Extends vs env before) (hset : ∀ n, (assigned.lookup n).isSome → (vs.get? n).isSome)
    (ls : List (Except Fault (List Char))) :
    given env before ls = before ++ (readLines vs assigned ls).assignments := by
  induction ls generalizing vs before assigned with
  | nil => exact (List.append_nil before).symm
  | cons l ls ih =>
    cases l with
    | error f => exact (List.append_nil before).symm
    | ok line =>
      rw [readLines, given]
      cases ha : assignment? line with
      | error f => exact (List.append_nil before).symm
      | ok a =>
        cases a with
        | none => exact ih h hset
        | some a =>
          dsimp only
          rw [h.meaning hset]
          cases hv : value (meaning env before) a.value with
          | error f => exact (List.append_nil before).symm
          | ok v =>
            refine (ih (h.setDefault a.name (String.ofList v)) fun n hn => ?_).trans
              (List.append_assoc ..)
            rw [Keyed.lookup_put] at hn
            rw [Variables.get?_setDefault]
            by_cases hname : n = a.name
            · simp [hname]
            · rw [if_neg hname] at hn
              simp [Option.isSome_or, hset n hn]

/-- Assignments cannot all be made iff the first one to a variable that is not set gives it a text
that it cannot hold. -/
theorem isSome_unsettable? (vs : Variables) (assignments : List (String × String)) :
    (unsettable? vs assignments).isSome ↔ ∃ n v, vs.get? n = none ∧
      assignments.lookup n = some v ∧ Variables.canHold v = false := by
  induction assignments generalizing vs with
  | nil => simp [unsettable?]
  | cons a rest ih =>
    rw [unsettable?]
    split
    · rename_i h
      rw [Bool.and_eq_true, Option.isNone_iff_eq_none, Bool.not_eq_true'] at h
      refine iff_of_true rfl ⟨a.1, a.2, h.1, ?_, h.2⟩
      rw [Keyed.lookup_cons, if_pos rfl]
    · rename_i h
      rw [ih]
      refine exists_congr fun n => exists_congr fun v => ?_
      rw [Variables.get?_setDefault, Keyed.lookup_cons]
      by_cases hn : n = a.1
      · subst hn
        simp only [if_true, Option.or_eq_none_iff, reduceCtorEq, and_false, false_and, false_iff,
          not_and, Option.some.injEq]
        rintro hnone rfl
        simpa [hnone] using h
      · simp [hn]

end VariableFile

namespace Configuration

open UserRegistry.Layers

/-- What the nearest file of variables assigns, if there is one. -/
def declared (w : World) : List (String × String) :=
  match w.files.nearest? variableFile with
  | none => []
  | some file => VariableFile.given w.vars [] (VariableFile.lines file.text file.broken)

theorem declared_eq (w : World) : declared w = (variableReading w).assignments := by
  unfold declared variableReading
  cases w.files.nearest? variableFile with
  | none => rfl
  | some file => exact VariableFile.given_eq_readLines (.nil w.vars) (by simp) _

theorem foreign_assign (vs : Variables) (assignments : List (String × String)) :
    (VariableFile.assign vs assignments).foreign = vs.foreign := by
  induction assignments generalizing vs with
  | nil => rfl
  | cons a rest ih =>
    refine (ih (vs.setDefault a.1 a.2)).trans ?_
    unfold Variables.setDefault
    split <;> rfl

/-- The variables after the file of variables was read. -/
def extended (w : World) : Variables :=
  (readVariableFile w).2.vars

theorem extended_spec (w : World) :
    VariableFile.Extends (extended w) w.vars (declared w) ∧
      (extended w).foreign = w.vars.foreign := by
  refine ⟨?_, foreign_assign ..⟩
  rw [declared_eq]
  exact (VariableFile.Extends.nil w.vars).assign _

/-- What it is to make a loader for the environment that is found. Where that panics (`panics`),
there is neither a report nor anything afterwards. -/
structure Discovery (folder : String) (w : World) (o : Order) : Prop where
  /-- Afterwards a variable has the value it had, or else the first that the file gives it. -/
  vars : VariableFile.Extends (Loader.discover folder w o).2.vars w.vars (declared w)
  files : (Loader.discover folder w o).2.files = w.files
  /-- The report is that of a loader for the environment that these variables name, made under
  them, after what is told of the file itself. -/
  report : (Loader.discover folder w o).1 =
    (Loader.start ⟨folder, environmentIn (extended w)⟩ ⟨w.files, extended w⟩ o).after
      (readVariableFile w).1
  /-- That loader may be made in another order, of variables that are listed otherwise, if no value
  of a document and no variable is in the way of another: it is made or not in every order, and
  always the same. Of several values that do not fit another may be told, unless they are met in the
  same order. -/
  anyOrder : ∀ vs : Variables, VariableFile.Extends vs w.vars (declared w) →
    Overrides.Separate vs →
      (∀ d ∈ Place.sources ⟨folder, environmentIn vs⟩ w.files, Orderly d) → ∀ o',
        SameEnd (Loader.discover folder w o).1.result
            (Loader.start ⟨folder, environmentIn vs⟩ ⟨w.files, vs⟩ o').result ∧
          (o.settings = o'.settings → (Loader.discover folder w o).1 =
            (Loader.start ⟨folder, environmentIn vs⟩ ⟨w.files, vs⟩ o').after
              (readVariableFile w).1)
  /-- It panics if a variable would be set to a text that none can hold, or else if making that
  loader panics. -/
  panics : Loader.discoverPanic? folder w o =
    ((VariableFile.unsettable? w.vars (declared w)).map fun a => .unsettable a.1 a.2).or
      (Place.panic? ⟨folder, environmentIn (extended w)⟩ ⟨w.files, extended w⟩ o)
  panics_anyOrder : ∀ vs : Variables, VariableFile.Extends vs w.vars (declared w) →
    vs.foreign = w.vars.foreign → Overrides.Separate vs →
      (∀ d ∈ Place.sources ⟨folder, environmentIn vs⟩ w.files, Orderly d) → ∀ o',
        Place.panic? ⟨folder, environmentIn (extended w)⟩ ⟨w.files, extended w⟩ o =
          Place.panic? ⟨folder, environmentIn vs⟩ ⟨w.files, vs⟩ o'
  unsettable : (VariableFile.unsettable? w.vars (declared w)).isSome ↔
    ∃ n v, w.vars.get? n = none ∧ (declared w).lookup n = some v ∧ Variables.canHold v = false
  /-- The environment is the one that its variable named, else the one that the file names first,
  else the usual one. -/
  place : ∀ l, (Loader.discover folder w o).1.result = .ok l → l.place =
    ⟨folder, ((w.vars.get? environmentVariable).or
      ((declared w).lookup environmentVariable)).getD defaultEnvironment⟩
  /-- Loading anew does not look at a file of variables in any folder, whatever became of it. -/
  reload : ∀ place, w.files.node? (place ++ [variableFile]) ≠ some .folder →
    ∀ (l : Loader) (vs : Variables) content o',
      l.reload ⟨w.files.put (place ++ [variableFile]) (.file content), vs⟩ o' =
          l.reload ⟨w.files, vs⟩ o' ∧
        l.reload ⟨w.files.removeAt (place ++ [variableFile]), vs⟩ o' = l.reload ⟨w.files, vs⟩ o'

theorem place_of_start {p : Place} {w : World} {o : Order} {l : Loader}
    (h : (Loader.start p w o).result = .ok l) : l.place = p := by
  obtain ⟨c, -, rfl⟩ := start_eq_ok h
  rfl

theorem environmentIn_congr {vs ws : Variables} (h : ∀ n, vs.get? n = ws.get? n) :
    environmentIn vs = environmentIn ws := by
  rw [environmentIn, environmentIn, h]

/-- A file of variables that names the environment, gives a name out of a variable, and breaks off
before it gives an id. -/
def foundWorld : World :=
  ⟨Folder.empty.write variableFile
      (.file ⟨"ROSTER_ENVIRONMENT=staging\nROSTER__DEMO__NAME=\"$WHO!\"\n" ++
        "ROSTER_ENVIRONMENT=late\nno assignment\nROSTER__DEMO__ID=5\n", false⟩),
    .ofList [("WHO", "Ann")]⟩

example : (Loader.discover "config" foundWorld).1.result =
    .ok ⟨⟨"config", "staging"⟩,
      { app := { environment := "staging" }, demo := { name := "Ann!" } }⟩ := by
  decide +kernel

example : Overrides.Separate (Loader.discover "config" foundWorld).2.vars := by
  decide +kernel

/-! ## What finding the environment is not -/

/-- A working folder without a file of variables, in a folder with one. -/
def aboveWorld : World :=
  ⟨(Folder.emptyAt ["work", "here"]).write "../.env"
    (.file ⟨"ROSTER_ENVIRONMENT=production\n", false⟩), .empty⟩

def nulWorld : World :=
  ⟨Folder.empty.write variableFile (.file ⟨"A=\x00", false⟩), .empty⟩

def documentWorld (text : String) : World :=
  ⟨Folder.empty.write "config/default.toml" (.file ⟨text, false⟩), .empty⟩

def misfitWorld : World :=
  documentWorld "[demo]\nid = \"x\"\n[observability]\njson_logs = \"y\"\n"

/-- Two names that are equal up to case. -/
def twiceWorld : World :=
  documentWorld "[demo]\nid = 1\nID = 2\n"

/-- Variables neither of which speaks of what the other one does; but the section of both cannot be
a table and a list. -/
def besideWorld : World :=
  ⟨.empty, .ofList [("ROSTER__DEMO__ID", "5"), ("ROSTER__DEMO[0]", "7")]⟩

/-- The names of the demonstration after all others. -/
def demoLast : Order :=
  let ranks : Ranks := fun names =>
    if names ∈ [["demo"], ["demo", "id"], ["demo.id"]] then 1 else 0
  ⟨fun _ => ranks, ranks, ranks⟩

end Configuration

end UserRegistry
