import UserRegistry.Text.Split

/-!
# Paths of files

A path is written as names with strokes between them. Empty names and single points add nothing,
two points lead to the folder above. A path that starts with a stroke begins at the root.
-/

namespace UserRegistry

inductive PathStep where
  | up
  | down (name : String)
deriving DecidableEq, Repr

/-- Where a path begins, and its steps. -/
structure Path where
  absolute : Bool
  steps : List PathStep
deriving DecidableEq, Repr

namespace Path

/-- The step that a written name stands for, if any. -/
def step? (name : List Char) : Option PathStep :=
  if name = [] ∨ name = ['.'] then none
  else if name = ['.', '.'] then some .up
  else some (.down (String.ofList name))

/-- The path that a text is. -/
def ofText (text : String) : Path :=
  ⟨text.toList.head? == some '/', (Text.split '/' text.toList).filterMap step?⟩

def stepText : PathStep → String
  | .up => ".."
  | .down name => name

/-- The path as it is written, without what adds nothing. -/
def text (p : Path) : String :=
  (if p.absolute then "/" else "") ++ String.intercalate "/" (p.steps.map stepText)

/-- The text of a path inside a folder, where a path from the root stays as it is. No stroke is
added where the folder has no name or its text ends in one. -/
def inFolder (folder name : String) : String :=
  if name.toList.head? = some '/' then name
  else if folder = "" ∨ folder.toList.getLast? = some '/' then folder ++ name
  else folder ++ "/" ++ name

/-- The last name of a path, if it ends in one. -/
def lastName? (p : Path) : Option String :=
  match p.steps.getLast? with
  | some (.down name) => some name
  | _ => none

end Path

end UserRegistry
