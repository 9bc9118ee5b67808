import UserRegistry.Text.Class
import UserRegistry.VariableFile.Line

/-!
# Values in a file of variables

A value is a word. Within single quotes every character stands for itself; elsewhere a backslash
escapes a few characters, and a dollar sign with a name, which may stand in braces, is replaced by
what the name stands for. After white space only a comment may follow.

Values are parsed as by `parse_value` of `dotenvy`.
-/

namespace UserRegistry.VariableFile

/-- What a value is in the middle of; `quoted` says whether double quotes are open. -/
inductive ValueState where
  | plain (quoted : Bool)
  | strong
  | escape (quoted : Bool)
  /-- The letters of a name after a dollar sign. -/
  | name (quoted : Bool) (letters : List Char)
  /-- The characters of a name in braces. -/
  | braced (quoted : Bool) (letters : List Char)
  /-- White space after the value. -/
  | ended
deriving DecidableEq, Repr

/-- Whether a value may not end here. -/
def ValueState.isOpen : ValueState → Bool
  | plain quoted | escape quoted | name quoted _ => quoted
  | strong | braced _ _ => true
  | ended => false

def escaped? (c : Char) : Option Char :=
  if c = 'n' then some '\n'
  else if ['\\', '\'', '"', '$', ' '].contains c then some c
  else none

/-- A step of reading a value: what it adds, and what the value is in the middle of then. A name
ends before the first character that is no letter or number; that character stands for itself,
unless it starts another name. -/
def ValueState.next (lookup : String → String) (c : Char) :
    ValueState → Option (List Char × ValueState)
  | plain quoted =>
    if c = '$' then some ([], name quoted [])
    else if c = '\\' then some ([], escape quoted)
    else if c = '"' then some ([], plain (!quoted))
    else if quoted then some ([c], plain quoted)
    else if c = '\'' then some ([], strong)
    else if c = ' ' ∨ c = '\t' then some ([], ended)
    else some ([c], plain quoted)
  | strong => if c = '\'' then some ([], plain false) else some ([c], strong)
  | escape quoted => (escaped? c).map fun d => ([d], plain quoted)
  | name quoted letters =>
    if Text.isLetterOrNumber c then some ([], name quoted (letters ++ [c]))
    else if c = '\x7b' ∧ letters = [] then some ([], braced quoted [])
    else
      let found := (lookup (String.ofList letters)).toList
      if c = '$' then some (found, name quoted []) else some (found ++ [c], plain quoted)
  | braced quoted letters =>
    if c = '\x7d' then some ((lookup (String.ofList letters)).toList, plain quoted)
    else some ([], braced quoted (letters ++ [c]))
  | ended => if c = ' ' ∨ c = '\t' then some ([], ended) else none

/-- What a value adds at its end. -/
def ValueState.last (lookup : String → String) : ValueState → List Char
  | name _ letters => (lookup (String.ofList letters)).toList
  | _ => []

/-- Reads what is left of a value from a place on. -/
def valueFrom (lookup : String → String) (whole : List Char) :
    ValueState → Nat → List Char → Except Fault (List Char)
  | state, _, [] =>
    if state.isOpen then .error (malformedAt whole (Text.byteCount whole - 1))
    else .ok (state.last lookup)
  | state, place, c :: cs =>
    if state = .ended ∧ c = '#' then .ok []
    else match state.next lookup c with
      | none => .error (malformedAt whole place)
      | some (added, state) => (valueFrom lookup whole state (place + 1) cs).map (added ++ ·)

/-- Reads a value, where names stand for what `lookup` gives. -/
def value (lookup : String → String) (cs : List Char) : Except Fault (List Char) :=
  valueFrom lookup cs (.plain false) 0 cs

end UserRegistry.VariableFile
