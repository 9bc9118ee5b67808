import UserRegistry.Layers.Tree
import UserRegistry.Toml.Value

/-!
# Trees of documents

A value of a document as a tree of settings, all of whose parts have one origin. A moment in time
becomes a text.

The crate `config` makes a `Value` of a document in this way.
-/

namespace UserRegistry.Layers.Tree

mutual

def ofToml (origin : String) : Toml.Value → Tree
  | .text s => scalar (some origin) (.text s)
  | .int i => scalar (some origin) (.int i)
  | .float x => scalar (some origin) (.float x)
  | .flag b => scalar (some origin) (.flag b)
  | .moment s => scalar (some origin) (.text s)
  | .list vs => list (some origin) (ofTomlItems origin vs)
  | .table ms => table (some origin) (ofTomlMembers origin ms)

def ofTomlItems (origin : String) : List Toml.Value → List Tree
  | [] => []
  | v :: vs => ofToml origin v :: ofTomlItems origin vs

def ofTomlMembers (origin : String) : List (String × Toml.Value) → List (String × Tree)
  | [] => []
  | (n, v) :: ms => (n, ofToml origin v) :: ofTomlMembers origin ms

end

/-- The layer that a document is. -/
def layerOfToml (origin : String) (document : Toml.Value) : List (String × Tree) :=
  (ofToml origin document).members

end UserRegistry.Layers.Tree
