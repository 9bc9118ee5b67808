import UserRegistry.Proofs.Configuration.Discovery
import UserRegistry.Proofs.Configuration.Precedence
import UserRegistry.Proofs.Layers.Marked
import UserRegistry.Proofs.Layers.Twice

/-!
# Environments without a file of their own

An environment may be named like one of the two files that are read for every environment. That
file is then put on twice in a row, which is the same as once. Such an environment has no file of
its own, like one whose file is missing (`AddsNothing`). All these are loaded alike, and nothing but
their name may tell them apart (`loaded_alike`).
-/

namespace UserRegistry.Configuration

open UserRegistry.Layers

def loaded (folder : String) (w : World) (name : String) (o : Order := .listed) :
    Result Settings :=
  (Loader.start ⟨folder, name⟩ w o).result.map Loader.get

/-- An environment has no file of its own: none is there, or it is one that is read anyway. -/
def AddsNothing (folder : String) (files : Folder) (name : String) : Prop :=
  name = "default" ∨ name = "local" ∨ files.find? (Place.path ⟨folder, name⟩ name) = none

instance (folder : String) (files : Folder) (name : String) :
    Decidable (AddsNothing folder files name) :=
  inferInstanceAs (Decidable (_ ∨ _ ∨ _))

theorem marked_base : Tree.Marked Tree.environmentPlace base := by
  have hpath : Layers.Step.ofText environmentKey = [.name "app", .name "environment"] := by decide
  have happ : Text.lowercase "app" = "app" := by decide
  have henvironment : Text.lowercase "environment" = "environment" := by decide
  have hbase : base = fun x => .table none ([] ++ ("app", .table none
      ([] ++ ("environment", .scalar none (.text x)) :: [])) :: []) := by
    funext x
    rw [base, Tree.putAtText, hpath]
    simp only [Tree.putAt, Tree.put, happ, henvironment]
    rfl
  rw [hbase]
  exact .under (List.not_mem_nil) (.under (List.not_mem_nil) .here []) []

/-- A document that is put on twice is put on once. -/
theorem withDocument_withDocument {d : Option Toml.Value} (h : ∀ v ∈ d, Simple v ∧ v.Distinct)
    (path : String) (t : Tree) :
    withDocument path d (withDocument path d t) = withDocument path d t := by
  cases d with
  | none => rfl
  | some v =>
    obtain ⟨hsimple, hdistinct⟩ := h v rfl
    exact hsimple.putLayer_putLayer hdistinct (originOf path) t

/-- The tree with the two documents that there are for every environment. -/
def withFixed (folder : String) (common here : Option Toml.Value) (t : Tree) : Tree :=
  withDocument (Path.inFolder folder "local.toml") here
    (withDocument (Path.inFolder folder "default.toml") common t)

theorem keeps_withDocument (path : String) (d : Option Toml.Value) :
    Tree.Keeps (withDocument path d) := by
  cases d with
  | none => exact fun _ _ hT => hT
  | some v => exact Tree.keeps_putLayer _

theorem marked_withFixed (folder : String) (common here : Option Toml.Value) :
    Tree.Marked Tree.environmentPlace fun x => withFixed folder common here (base x) :=
  keeps_withDocument _ _ _ _ (keeps_withDocument _ _ _ _ marked_base)

section
variable {folder : String} {files : Folder} {common here : Option Toml.Value}
  (hcommon : Holds files (Path.inFolder folder "default.toml") common)
  (hhere : Holds files (Path.inFolder folder "local.toml") here)
  (hsimple : ∀ d ∈ [common, here], ∀ v ∈ d, Simple v)
include hcommon hhere hsimple

/-- The files of an environment without a file of its own. -/
theorem putSources_of_addsNothing {x : String} (hx : AddsNothing folder files x) :
    putSources (base x) ((⟨folder, x⟩ : Place).sources files) =
      .ok (withFixed folder common here (base x)) := by
  have htwice {d : Option Toml.Value} (hd : d ∈ [common, here])
      (hdistinct : ∀ v, d = some v → v.Distinct) (path : String) (t : Tree) :=
    withDocument_withDocument (fun v hv => ⟨hsimple d hd v hv, hdistinct v hv⟩) path t
  have hsources {own : Option Toml.Value}
      (hown : Holds files (Place.path ⟨folder, x⟩ x) own) :=
    putSources_listed (p := ⟨folder, x⟩) (w := ⟨files, .empty⟩) hcommon hown hhere
  rcases hx with rfl | rfl | hnone
  · refine (hsources hcommon).trans (congrArg Except.ok ?_)
    have hnamed : ("default" != "" && "default".toList.getLast? != some '/') = true := by decide
    simp only [Place.isNamed, hnamed, counted, if_true]
    exact congrArg (withDocument _ here) (htwice (by simp) (fun _ => hcommon.distinct) _ _)
  · refine (hsources hhere).trans (congrArg Except.ok ?_)
    have hnamed : ("local" != "" && "local".toList.getLast? != some '/') = true := by decide
    simp only [Place.isNamed, hnamed, counted, if_true]
    exact htwice (by simp) (fun _ => hhere.distinct) _ _
  · have hown : Holds files (Place.path ⟨folder, x⟩ x) none := .inl ⟨hnone, rfl⟩
    refine (hsources hown).trans (congrArg Except.ok ?_)
    simp only [counted, ite_self]
    rfl

/-- What is read for an environment without a file of its own. -/
theorem holds_of_addsNothing {x : String} (hx : AddsNothing folder files x) :
    ∃ own, Holds files (Place.path ⟨folder, x⟩ x) own ∧ ∀ v ∈ own, Simple v := by
  rcases hx with rfl | rfl | hnone
  · exact ⟨common, hcommon, hsimple common (by simp)⟩
  · exact ⟨here, hhere, hsimple here (by simp)⟩
  · exact ⟨none, .inl ⟨hnone, rfl⟩, by simp⟩

/-- No value in the files of such an environment is in the way of another. -/
theorem orderly_of_addsNothing {x : String} (hx : AddsNothing folder files x) :
    ∀ s ∈ (⟨folder, x⟩ : Place).sources files, Orderly s := by
  obtain ⟨own, hown, hownSimple⟩ := holds_of_addsNothing hcommon hhere hsimple hx
  intro s hs layer hlayer
  obtain ⟨d, hd, v, hv, hdistinct, hlayer'⟩ :=
    layerOf_of_mem_sources (p := ⟨folder, x⟩) (w := ⟨files, .empty⟩) hcommon hown hhere hs
  have hv' : Simple v := by
    simp only [List.mem_cons, List.not_mem_nil, or_false] at hd
    rcases hd with rfl | rfl | rfl
    · exact hsimple _ (by simp) v hv
    · exact hownSimple v hv
    · exact hsimple _ (by simp) v hv
  rw [hlayer'] at hlayer
  obtain rfl := Option.some.inj hlayer
  exact hv'.separate hdistinct s.origin

section
variable {x : String} (hx : AddsNothing folder files x) {vs ws : Variables}
  (hvs : Overrides.Separate vs) (hget : ∀ n, vs.get? n = ws.get? n)
include hx hvs hget

/-- Such an environment is loaded alike in every order, if each variable speaks of something of its
own. -/
theorem loaded_anyOrder (o o' : Order) :
    SameEnd (loaded folder ⟨files, vs⟩ x o) (loaded folder ⟨files, ws⟩ x o') := by
  have horderly := orderly_of_addsNothing hcommon hhere hsimple hx
  rw [loaded, loaded, start_get, start_get]
  exact (Place.settings_anyOrder horderly hvs hget o o').1

/-- Whether it panics turns on the variables and the two files alone. -/
theorem panic?_of_addsNothing (hforeign : vs.foreign = ws.foreign) (o : Order) (y : String) :
    Place.panic? ⟨folder, x⟩ ⟨files, vs⟩ o =
      variablesPanic? (withFixed folder common here (base y)) ws .listed := by
  obtain ⟨own, hown, hownSimple⟩ := holds_of_addsNothing hcommon hhere hsimple hx
  have horderly := orderly_of_addsNothing hcommon hhere hsimple hx
  have hput := putSources_of_addsNothing hcommon hhere hsimple hx
  have hnames : ∀ d ∈ [common, own, here], ∀ v ∈ d, ∀ m ∈ v.members, '[' ∉ m.1.toList := by
    simp only [List.forall_mem_cons, List.not_mem_nil, false_implies, implies_true, and_true]
      at hsimple ⊢
    exact ⟨fun v hv m hm => ((hsimple.1 v hv).names m hm).2,
      fun v hv m hm => ((hownSimple v hv).names m hm).2,
      fun v hv m hm => ((hsimple.2 v hv).names m hm).2⟩
  have hpanic : Place.panic? ⟨folder, x⟩ ⟨files, ws⟩ =
      variablesPanic? (withFixed folder common here (base x)) ws .listed :=
    panic?_place (p := ⟨folder, x⟩) (w := ⟨files, ws⟩) hcommon hown hhere hnames hput
  rw [panic?_anyOrder horderly hvs hget hforeign o .listed, hpanic, variablesPanic?,
    variablesPanic?, (marked_withFixed folder common here).layerPanics _ x y]

end

end

/-- Two documents that give some of the same names values of different kinds. -/
def kindsCommon : String :=
  "a = 1\n[demo.name]\nx = 2\n"

def kindsHere : String :=
  "a = \x7b\x7d\ndemo.name = \"Si\"\n"

def kindsFiles : Folder :=
  (Folder.empty.write "config/default.toml" (.file ⟨kindsCommon, false⟩)).write
    "config/local.toml" (.file ⟨kindsHere, false⟩)

/-- Two variables, in the other order for one of the environments. -/
def kindsVariables (x : String) : Variables :=
  if x = "local" then .ofList [("ROSTER__DEMO__EMAIL", "c"), ("ROSTER__APP__VERSION", "v2")]
  else .ofList [("ROSTER__APP__VERSION", "v2"), ("ROSTER__DEMO__EMAIL", "c")]

end UserRegistry.Configuration
