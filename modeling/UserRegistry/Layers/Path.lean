import UserRegistry.Layers.Tree

/-!
# Paths into the tree

The names at the top of a layer are read as paths: names with points between them, and positions
in lists between brackets. A text that is no path is one plain name. Putting a value at a path
makes tables and lists on the way as they are needed.

The paths are the `Expression`s of the crate `config`, and putting a value is their `set`.
-/

namespace UserRegistry.Layers

/-- One step down the tree. -/
inductive Step where
  | name (value : String)
  | position (negative : Bool) (value : Nat)
deriving DecidableEq, Repr

namespace Step

def isNameChar (c : Char) : Bool :=
  Text.isAsciiLetterOrDigit c || c == '_' || c == '-' || c == ' '

/-- A blank between brackets. -/
def isGap (c : Char) : Bool :=
  c == ' ' || c == '\t'

/-- A position between brackets and what is left of the text. -/
def position? (s : List Char) : Option (Step × List Char) :=
  let s := s.dropWhile isGap
  let (signed, s) := match s with
    | '-' :: cs => (true, cs)
    | _ => (false, s)
  let ds := Decimal.digits s
  let n := Decimal.value ds
  let most := if signed then 9223372036854775808 else 9223372036854775807
  match (Decimal.afterDigits s).dropWhile isGap with
  | ']' :: rest =>
    if ds.isEmpty || most < n then none else some (.position (signed && n != 0) n, rest)
  | _ => none

/-- The steps after the first one, where the whole text is steps. -/
def stepsFrom : Nat → List Char → Option (List Step)
  | 0, _ => none
  | _, [] => some []
  | fuel + 1, '.' :: s =>
    let n := s.takeWhile isNameChar
    if n.isEmpty then none
    else (stepsFrom fuel (s.dropWhile isNameChar)).map (.name (String.ofList n) :: ·)
  | fuel + 1, '[' :: s =>
    match position? s with
    | none => none
    | some (p, rest) => (stepsFrom fuel rest).map (p :: ·)
  | _, _ => none

/-- The path that a text is: a name and further steps, or else one plain name. -/
def ofText (text : String) : List Step :=
  let s := text.toList
  let first := s.takeWhile isNameChar
  let steps :=
    if first.isEmpty then none
    else (stepsFrom (s.length + 1) (s.dropWhile isNameChar)).map (.name (String.ofList first) :: ·)
  steps.getD [.name text]

/-- The index of a position in a list, counted from the end where it is negative. A position before
the start has none: whoever asks for it panics (`Tree.panicsAt`). -/
def index (negative : Bool) (n length : Nat) : Nat :=
  if negative then length - n else n

end Step

namespace Tree

def changeItem (negative : Bool) (n : Nat) (change : Tree → Tree) (t : Tree) : Tree :=
  match t.asList with
  | list o ts =>
    let i := Step.index negative n ts.length
    let grown := ts ++ List.replicate (i + 1 - ts.length) void
    list o (grown.modify i change)
  | other => other

def putAt (value : Tree) : List Step → Tree → Tree
  | [], t => t
  | [.name n], t => put n value t
  | [.position negative n], t => changeItem negative n (fun _ => value) t
  | .name n :: s :: steps, t =>
    changeMember (Text.lowercase n) void (putAt value (s :: steps)) t
  | .position negative n :: s :: steps, t =>
    changeItem negative n (putAt value (s :: steps)) t

def putAtText (key : String) (value : Tree) (t : Tree) : Tree :=
  putAt value (Step.ofText key) t

/-- Puts a whole layer on top: its values in order, each at the path that its name is. -/
def putLayer (layer : List (String × Tree)) (t : Tree) : Tree :=
  layer.foldl (fun t m => putAtText m.1 m.2 t) t

/-- Whether putting a value at a path panics: a position counted from the end of a list lies before
its start. -/
def panicsAt : List Step → Tree → Bool
  | [], _ => false
  | .name n :: steps, t => panicsAt steps ((t.members.lookup (Text.lowercase n)).getD void)
  | .position negative n :: steps, t =>
    (negative && t.items.length < n) ||
      panicsAt steps (t.items[Step.index negative n t.items.length]?.getD void)

/-- Whether putting a layer on top panics at one of its values. -/
def layerPanics (layer : List (String × Tree)) (t : Tree) : Bool :=
  match layer with
  | [] => false
  | m :: ms => panicsAt (Step.ofText m.1) t || layerPanics ms (putAtText m.1 m.2 t)

end Tree

end UserRegistry.Layers
