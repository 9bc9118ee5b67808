import UserRegistry.Text.OrderMark
import UserRegistry.World.Folder

/-!
# Where configuration is found

Three files of a folder hold configuration: one for every environment, one for the environment in
use, and one for this place only. Each may be missing. A path that leads to something that cannot
be read as a text is announced like any other, and adds nothing.

| here | there |
| --- | --- |
| `Place` | `config_dir` and `environment` of a `ConfigLoader` |
| `paths`, `found` | the `candidates` of `load_config`, and those that exist |
| `source?` | `File::from(path).required(false)` of the crate `config` |

Beside a folder only the ending `.toml` is tried (`source?`). The library goes on to the endings of
its other formats (`json`, `yaml`, `ini`, `ron`, `json5`), none of which is read here.
-/

namespace UserRegistry.Configuration

/-- A folder with configuration and the environment it is read for. -/
structure Place where
  folder : String
  environment : String
deriving DecidableEq, Repr

/-- The text of a file of configuration, and what messages call it. -/
structure Source where
  origin : String
  text : String
deriving DecidableEq, Repr

namespace Place

/-- The paths of the three files, the later ones of more weight. -/
def paths (p : Place) : List String :=
  ["default", p.environment, "local"].map fun name => Path.inFolder p.folder (name ++ ".toml")

/-- Those of the three that lead anywhere. -/
def found (p : Place) (files : Folder) : List String :=
  p.paths.filter files.contains

end Place

/-- Whether a name has something before its ending. -/
def hasStem (name : String) : Bool :=
  name != ".toml"

/-- The text under a path, without a byte order mark, if it is one and its name has an ending. -/
def textUnder? (files : Folder) (path : String) : Option String := do
  let name ← (Path.ofText path).lastName?
  let file ← files.file? path
  let text ← file.whole?
  if hasStem name then some (String.ofList (Text.withoutOrderMark text.toList)) else none

/-- What is read for a path: the text under it, or where it leads to a folder, the text beside
that folder whose name has one ending more. -/
def source? (files : Folder) (path : String) : Option Source :=
  let path := if files.find? path = some .folder then path ++ ".toml" else path
  (textUnder? files path).map fun text => ⟨(Path.ofText path).text, text⟩

end UserRegistry.Configuration
