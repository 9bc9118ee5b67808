import UserRegistry.Failure
import UserRegistry.Text.OrderMark
import UserRegistry.Toml.Statement

/-!
# Reading TOML documents

Values nest in lists and between braces up to a limit; everything else of a document is read line
by line. `parse` gives the value of a whole text, or nothing where it is not well formed.

What is well formed is what the crate `toml` takes.
-/

namespace UserRegistry.Toml

def isWordChar (c : Char) : Bool :=
  Text.isAsciiLetterOrDigit c || c == '_' || c == '-' || c == '+' || c == '.' || c == ':'

/-- The value that an unquoted word stands for. -/
def wordValue (w : List Char) : Option Value :=
  if w = "true".toList then some (.flag true)
  else if w = "false".toList then some (.flag false)
  else match moment? w, float? w, integer? w with
    | some m, _, _ => some (.moment m)
    | none, some x, _ => some (.float x)
    | none, none, some i => some (.int i)
    | none, none, none => none

/-- Reads an unquoted word. The day and the time of a moment may have a blank between them. -/
def unquoted (s : List Char) : Step Value :=
  let w := s.takeWhile isWordChar
  let rest := s.dropWhile isWordChar
  let alone : Step Value := (wordValue w).map (·, rest)
  match date w, rest with
  | some (day, []), ' ' :: after =>
    match clockAndOffset? (after.takeWhile isWordChar) with
    | some time =>
      some (.moment (String.ofList (day ++ 'T' :: time)), after.dropWhile isWordChar)
    | none => alone
  | _, _ => alone

/-- Reads the items of a list up to its bracket, each with `item`. -/
def listItems (item : List Char → Step Value) : Nat → List Char → Step (List Value)
  | 0, _ => none
  | fuel + 1, s =>
    match skipLines (s.length + 1) s with
    | none => none
    | some (']' :: rest) => some ([], rest)
    | some rest =>
      match item rest with
      | none => none
      | some (v, rest) =>
        match skipLines (rest.length + 1) rest with
        | some (',' :: rest) => (listItems item fuel rest).map fun (vs, rest) => (v :: vs, rest)
        | some (']' :: rest) => some ([v], rest)
        | _ => none

/-- Reads a key, the sign after it and a value with `item`. -/
def assignment (item : List Char → Step Value) (s : List Char) : Step (List String × Value) :=
  match key s with
  | some (path, '=' :: rest) =>
    (item (skipSpace rest)).map fun (v, rest) => ((path, v), rest)
  | _ => none

/-- Reads assignments with commas between them, up to the brace. -/
def braceItems (item : List Char → Step Value) : Nat → List Char → Step (List (List String × Value))
  | 0, _ => none
  | fuel + 1, s =>
    match assignment item s with
    | none => none
    | some (a, rest) =>
      match skipSpace rest with
      | ',' :: rest => (braceItems item fuel rest).map fun (as, rest) => (a :: as, rest)
      | '\x7d' :: rest => some ([a], rest)
      | _ => none

/-- Reads a value in which lists and braces nest at most to the given depth. -/
def value : Nat → List Char → Step Value
  | depth, s =>
    match s with
    | '"' :: _ | '\'' :: _ => (quotedText s).map fun (t, rest) => (.text t, rest)
    | '[' :: rest =>
      match depth with
      | 0 => none
      | d + 1 =>
        (listItems (value d) (rest.length + 1) rest).map fun (vs, rest) => (.list vs, rest)
    | '\x7b' :: rest =>
      match depth with
      | 0 => none
      | d + 1 =>
        match skipSpace rest with
        | '\x7d' :: rest => some (.table [], rest)
        | rest =>
          match braceItems (value d) (rest.length + 1) rest with
          | none => none
          | some (as, rest) => (inlineTable as).map (·, rest)
    | _ => unquoted s

def header (s : List Char) : Step Statement :=
  match s with
  | '[' :: '[' :: s =>
    match key s with
    | some (path, ']' :: ']' :: rest) => (lineEnd rest).map (.item path, ·)
    | _ => none
  | '[' :: s =>
    match key s with
    | some (path, ']' :: rest) => (lineEnd rest).map (.table path, ·)
    | _ => none
  | _ => none

def statements : Nat → List Char → Option (List Statement)
  | 0, _ => none
  | fuel + 1, s =>
    match skipSpace s with
    | [] => some []
    | c :: cs =>
      if c = '#' then (lineEnd (c :: cs)).bind (statements fuel)
      else if c = '\n' ∨ c = '\r' then (newline? (c :: cs)).bind (statements fuel)
      else if c = '[' then
        match header (c :: cs) with
        | none => none
        | some (st, rest) => (statements fuel rest).map (st :: ·)
      else
        match assignment (value (depthLimit - 1)) (c :: cs) with
        | none => none
        | some ((path, v), rest) =>
          match lineEnd rest with
          | none => none
          | some rest => (statements fuel rest).map (.assign path v :: ·)

/-- The document that a text is, a table always. -/
def parse (text : String) : Option Value :=
  let s := Text.withoutOrderMark text.toList
  (statements (s.length + 1) s).bind ofStatements

/-- The failure of reading a document, whatever is wrong with it. -/
def unreadable : Failure :=
  .configuration "TOML parse error"

def read (r : Reader α) (text : String) : Result α :=
  match (parse text).bind r with
  | some a => .ok a
  | none => .error unreadable

end UserRegistry.Toml
