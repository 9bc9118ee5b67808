import UserRegistry.Configuration.Source
import UserRegistry.Layers.Decode
import UserRegistry.Layers.FromToml
import UserRegistry.Layers.Overrides
import UserRegistry.Log.Action
import UserRegistry.Panic
import UserRegistry.Text.Blank
import UserRegistry.Toml.Parse
import UserRegistry.World.Basic

/-!
# Loading a configuration

A configuration is read from layers, each on top of those before it: the name of the environment,
the files of the place in their order, and the variables of the process. `settings` is what the
layers make; `load` also tells what it does, and the advisories on what it made. Every load has an
`Order` of its own.

Loading may also panic (`panic?`); what `settings` gives then is of no meaning.

| here | there |
| --- | --- |
| `base` | `Config::builder` with `set_default` |
| `putSources`, `variableLayer` | the sources `File` and `Environment` of the crate `config` |
| `tree`, `decoded` | `build`, `try_deserialize` |
| `validated` | `validate_config` |
| `Place.load` | `load_config` |
-/

namespace UserRegistry.Configuration

open UserRegistry.Layers

def environmentKey : String := "app.environment"

/-- The tree that starts from the name of the environment (`set_default`). -/
def base (environment : String) : Tree :=
  Tree.putAtText environmentKey (.scalar none (.text environment)) .empty

def layerOf (s : Source) : Result (List (String × Tree)) :=
  match Toml.parse s.text with
  | some document => .ok (Tree.layerOfToml s.origin document)
  | none => .error Toml.unreadable

/-- The tree with several files on top, up to the first that cannot be read. The names in each come
in an order of its own. -/
def putSources (t : Tree) (sources : List Source) (ranks : Nat → Ranks := fun _ => .listed) :
    Result Tree :=
  match sources with
  | [] => .ok t
  | s :: rest =>
    match layerOf s with
    | .error f => .error f
    | .ok layer =>
      putSources (t.putLayer (Tree.arrangedLayer (ranks 0) layer)) rest fun i => ranks (i + 1)

/-- The variables as the last layer. -/
def variableLayer (vs : Variables) (r : Ranks := .listed) : List (String × Tree) :=
  r.sort Prod.fst (Overrides.layer vs)

/-- The tree of all layers. -/
def tree (environment : String) (sources : List Source) (vs : Variables) (o : Order := .listed) :
    Result Tree :=
  (putSources (base environment) sources o.documents).map fun t =>
    t.putLayer (variableLayer vs o.overrides)

def unfit (m : Misfit) : Failure :=
  .configuration m.message

def noFilter : Failure :=
  .configuration "observability.log_filter must not be empty"

/-- The settings that a tree holds (`try_deserialize`). -/
def decoded (t : Tree) (r : Ranks := .listed) : Result Settings :=
  (t.read ((Settings.reader : Tree.Visitor Settings) r)).mapError unfit

/-- Settings that can be used: the filter for events is not blank (`validate_config`). -/
def validated (s : Settings) : Result Settings :=
  if Text.isAllBlank s.logging.filter.toList then .error noFilter else .ok s

/-- The settings that the layers make. -/
def settings (environment : String) (sources : List Source) (vs : Variables)
    (o : Order := .listed) : Result Settings :=
  (tree environment sources vs o).bind fun t => (decoded t o.settings).bind validated

/-- Whether putting several files on a tree panics, up to the first that cannot be read. -/
def sourcesPanic (t : Tree) (sources : List Source) (ranks : Nat → Ranks) : Bool :=
  match sources with
  | [] => false
  | s :: rest =>
    match layerOf s with
    | .error _ => false
    | .ok layer =>
      let arranged := Tree.arrangedLayer (ranks 0) layer
      t.layerPanics arranged ||
        sourcesPanic (t.putLayer arranged) rest fun i => ranks (i + 1)

/-- Why putting the variables on a tree panics, if it does. -/
def variablesPanic? (t : Tree) (vs : Variables) (r : Ranks) : Option Panic :=
  if vs.foreign then some .foreignVariable
  else if t.layerPanics (variableLayer vs r) then some .beforeStart
  else none

/-- Why making settings of the layers panics, if it does: some key asks for a position before the
start of a list, or a variable is not in UTF-8. -/
def panic? (environment : String) (sources : List Source) (vs : Variables)
    (o : Order := .listed) : Option Panic :=
  if sourcesPanic (base environment) sources o.documents then some .beforeStart
  else match putSources (base environment) sources o.documents with
    | .error _ => none
    | .ok t => variablesPanic? t vs o.overrides

/-- The files that are read for a place. -/
def Place.sources (p : Place) (files : Folder) : List Source :=
  (p.found files).filterMap (source? files)

def Place.settings (p : Place) (w : World) (o : Order := .listed) : Result Settings :=
  Configuration.settings p.environment (p.sources w.files) w.vars o

/-- Loads the settings of a place and tells of that (`load_config`), unless it panics. -/
def Place.load (p : Place) (w : World) (o : Order := .listed) : Report Settings :=
  let announced := .loadingEnvironment p.environment :: (p.found w.files).map .loadingFile
  match p.settings w o with
  | .ok s => ⟨.ok s, announced ++ s.warnings.map .loadedAdvisory⟩
  | .error f => ⟨.error f, announced⟩

def Place.panic? (p : Place) (w : World) (o : Order := .listed) : Option Panic :=
  Configuration.panic? p.environment (p.sources w.files) w.vars o

end UserRegistry.Configuration
