import UserRegistry.Toml.Value
import UserRegistry.Toml.Word

/-!
# Statements

A document is a sequence of statements, each on lines of its own: a header that opens a table, a
header that adds a table to a list of tables, or an assignment. Keys are paths of names. Reading
gives the statements of a text; what they make is another matter.
-/

namespace UserRegistry.Toml

/-- What one or more lines of a document state. -/
inductive Statement where
  /-- Opens the table at a path. -/
  | table (path : List String)
  /-- Adds a table to the list at a path. -/
  | item (path : List String)
  /-- Gives a value to a path below the open table. -/
  | assign (path : List String) (value : Value)

/-! ## Keys -/

def isNameChar (c : Char) : Bool :=
  Text.isAsciiLetterOrDigit c || c == '_' || c == '-'

def name : List Char → Step String
  | '"' :: s => basicFrom 0 [] s
  | '\'' :: s => literalFrom [] s
  | s =>
    let w := s.takeWhile isNameChar
    if w.isEmpty then none else some (String.ofList w, s.dropWhile isNameChar)

/-- How deep keys and values may be nested. -/
def depthLimit : Nat := 80

/-- Reads names with points between them, and the blanks around them. -/
def namesFrom : Nat → List Char → Step (List String)
  | 0, _ => none
  | fuel + 1, s =>
    match name (skipSpace s) with
    | none => none
    | some (first, rest) =>
      match skipSpace rest with
      | '.' :: rest => (namesFrom fuel rest).map fun (names, rest) => (first :: names, rest)
      | rest => some ([first], rest)

/-- Reads a key: fewer names than the depth limit. -/
def key (s : List Char) : Step (List String) :=
  namesFrom (depthLimit - 1) s

/-! ## Tables under construction -/

/-- How a table came to be: by the path of a header, by a path in an assignment, or by a header or
braces of its own. -/
inductive Origin where
  | implied
  | dotted
  | defined
deriving DecidableEq, Repr

/-- A table under construction holds values, tables that may still grow, and lists of tables the
last of which may still grow. -/
inductive Node where
  | leaf (value : Value)
  | table (origin : Origin) (members : List (String × Node))
  | tables (items : List (List (String × Node)))

abbrev Members : Type := List (String × Node)

/-- The members with another node under a name they have. -/
def Members.replace (ms : Members) (name : String) (node : Node) : Members :=
  ms.map fun m => if m.1 = name then (name, node) else m

/-- Changes the table at a path, where tables that are missing on the way come to be. A path in
an assignment does not lead through tables with a definition of their own. -/
def alter (inAssignment : Bool) (change : Origin → Members → Option Members) :
    List String → Origin → Members → Option Members
  | [], origin, ms => change origin ms
  | n :: ns, _, ms =>
    match ms.lookup n with
    | none =>
      let origin := if inAssignment then .dotted else .implied
      (alter inAssignment change ns origin []).map fun sub => ms ++ [(n, .table origin sub)]
    | some (.leaf _) => none
    | some (.tables items) =>
      (alter inAssignment change ns .defined (items.getLastD [])).map fun sub =>
        ms.replace n (.tables (items.dropLast ++ [sub]))
    | some (.table origin sub) =>
      if inAssignment ∧ origin = .defined then none
      else (alter inAssignment change ns origin sub).map fun sub => ms.replace n (.table origin sub)

/-- Gives a value to a path. The last table on the way has to have come to be in the same way as
the path says: by assignments if the path is longer than a name, else by a definition. -/
def assign (path : List String) (value : Value) (origin : Origin) (ms : Members) :
    Option Members :=
  let last := path.getLastD ""
  let way := path.dropLast
  alter true (fun origin ms =>
    if (origin = .dotted) = way.isEmpty then none
    else if (ms.lookup last).isSome then none
    else some (ms ++ [(last, .leaf value)])) way origin ms

/-- Opens the table at a path, which must not have been defined before. -/
def openTable (path : List String) (ms : Members) : Option Members :=
  let last := path.getLastD ""
  alter false (fun _ ms =>
    match ms.lookup last with
    | none => some (ms ++ [(last, .table .defined [])])
    | some (.table .implied sub) => some (Members.replace ms last (.table .defined sub))
    | _ => none) path.dropLast .defined ms

def addTable (path : List String) (ms : Members) : Option Members :=
  let last := path.getLastD ""
  alter false (fun _ ms =>
    match ms.lookup last with
    | none => some (ms ++ [(last, .tables [[]])])
    | some (.tables items) => some (Members.replace ms last (.tables (items ++ [[]])))
    | _ => none) path.dropLast .defined ms

mutual

/-- The value that a node is when nothing more is added. -/
def Node.value : Node → Value
  | .leaf v => v
  | .table _ ms => .table (memberValues ms)
  | .tables items => .list (itemValues items)

/-- The members of a table when nothing more is added. -/
def memberValues : List (String × Node) → List (String × Value)
  | [] => []
  | (n, node) :: ms => (n, node.value) :: memberValues ms

/-- The tables of a list when nothing more is added. -/
def itemValues : List (List (String × Node)) → List Value
  | [] => []
  | ms :: items => .table (memberValues ms) :: itemValues items

end

/-- The table that assignments between braces make. -/
def inlineTable (assignments : List (List String × Value)) : Option Value :=
  (assignments.foldlM (fun ms a => assign a.1 a.2 .defined ms) ([] : Members)).map fun ms =>
    .table (memberValues ms)

/-- What statements make: the table that was opened last, and all members so far. -/
def Statement.apply (opened : List String) (ms : Members) :
    Statement → Option (List String × Members)
  | table path => (openTable path ms).map fun ms => (path, ms)
  | item path => (addTable path ms).map fun ms => (path, ms)
  | assign path v =>
    (alter false (Toml.assign path v) opened .defined ms).map fun ms => (opened, ms)

/-- The members that statements make in order, from those there are already. -/
def membersOf : List Statement → List String → Members → Option Members
  | [], _, ms => some ms
  | st :: sts, opened, ms =>
    match st.apply opened ms with
    | none => none
    | some (opened, ms) => membersOf sts opened ms

/-- The document that statements make, if none of them contradicts an earlier one. -/
def ofStatements (statements : List Statement) : Option Value :=
  (membersOf statements [] []).map fun ms => .table (memberValues ms)

end UserRegistry.Toml
