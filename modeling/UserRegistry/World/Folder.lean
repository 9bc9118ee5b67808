import UserRegistry.Keyed
import UserRegistry.Text.Split
import UserRegistry.World.Path

/-!
# Files

The files and folders that a process may meet, by the names that lead to them from the root, and
the folder it works in. A path is followed step by step, from the root or from the working folder;
every step but the last has to reach a folder.
-/

namespace UserRegistry

/-- The text of a file up to its first line that is not in UTF-8, and whether there is such a
line. -/
structure FileText where
  text : String
  broken : Bool
deriving DecidableEq, Repr

namespace FileText

/-- The text of several lines of bytes. -/
def ofLines : List (List UInt8) → FileText
  | [] => ⟨"", false⟩
  | l :: ls =>
    match String.fromUTF8? ⟨l.toArray⟩ with
    | none => ⟨"", true⟩
    | some t =>
      let rest := ofLines ls
      ⟨t ++ rest.text, rest.broken⟩

def ofBytes (bytes : ByteArray) : FileText :=
  match String.fromUTF8? bytes with
  | some t => ⟨t, false⟩
  | none => ofLines (Text.cutAfter (· = 10) bytes.toList)

/-- The whole text of a file, if all of it is in UTF-8. -/
def whole? (f : FileText) : Option String :=
  if f.broken then none else some f.text

end FileText

/-- What is kept at a place. -/
inductive Node where
  | file (content : FileText)
  | folder
deriving DecidableEq, Repr

/-- The files and folders by the names that lead to them from the root, and the place of the
working folder, which is there with all folders above it. -/
structure Folder where
  home : List String
  entries : List (List String × Node)
deriving DecidableEq, Repr

namespace Folder

/-- Nothing but a working folder and what is above it. -/
def emptyAt (home : List String) : Folder := ⟨home, []⟩

/-- Nothing at all; the working folder is the root. -/
def empty : Folder := emptyAt []

/-- What is kept at a place. -/
def node? (f : Folder) (place : List String) : Option Node :=
  if place.isPrefixOf f.home then some .folder else f.entries.lookup place

/-- The place that steps lead to from a place. There is nothing above the root but the root. -/
def follow (f : Folder) (place : List String) : List PathStep → Option (List String)
  | [] => some place
  | s :: ss =>
    if f.node? place = some .folder then
      match s with
      | .down name => follow f (place ++ [name]) ss
      | .up => follow f place.dropLast ss
    else none

def origin (f : Folder) (p : Path) : List String :=
  if p.absolute then [] else f.home

def find? (f : Folder) (path : String) : Option Node :=
  let p := Path.ofText path
  (f.follow (f.origin p) p.steps).bind f.node?

def contains (f : Folder) (path : String) : Bool :=
  (f.find? path).isSome

def file? (f : Folder) (path : String) : Option FileText :=
  match f.find? path with
  | some (.file content) => some content
  | _ => none

/-- A place and all places above it, the nearest first. -/
def upward (place : List String) : List (List String) :=
  (List.range (place.length + 1)).reverse.map place.take

/-- The file of a name in the working folder, or else in the nearest folder above that has one. A
folder of that name is passed over. -/
def nearest? (f : Folder) (name : String) : Option FileText :=
  (upward f.home).findSome? fun place =>
    match f.node? (place ++ [name]) with
    | some (.file content) => some content
    | _ => none

def put (f : Folder) (place : List String) (n : Node) : Folder :=
  { f with entries := Keyed.put place n f.entries }

/-- Makes the folders on the way along steps from a place, and gives the place they lead to. -/
def prepare (f : Folder) (place : List String) : List PathStep → Folder × List String
  | [] => (f, place)
  | .up :: ss => prepare f place.dropLast ss
  | [.down name] => (f, place ++ [name])
  | .down name :: ss =>
    let next := place ++ [name]
    prepare (if (f.node? next).isSome then f else f.put next .folder) next ss

/-- Keeps something under a path, with all folders on the way. -/
def write (f : Folder) (path : String) (n : Node) : Folder :=
  let p := Path.ofText path
  let (f, place) := f.prepare (f.origin p) p.steps
  f.put place n

/-- Removes what is kept at a place, with all that is in it. -/
def removeAt (f : Folder) (place : List String) : Folder :=
  { f with entries := f.entries.filter fun e => !place.isPrefixOf e.1 }

/-- Removes what a path leads to, with all that is in it. -/
def remove (f : Folder) (path : String) : Folder :=
  let p := Path.ofText path
  match f.follow (f.origin p) p.steps with
  | some place => f.removeAt place
  | none => f

end Folder

end UserRegistry
