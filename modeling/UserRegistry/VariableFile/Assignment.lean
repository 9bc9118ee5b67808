import UserRegistry.Text.Class
import UserRegistry.VariableFile.Line

/-!
# Assignments in a file of variables

A line is blank, a comment, or a name, an equals sign and a value. The word `export` may stand
before the name; followed by an equals sign it is a name itself.

Assignments are parsed as by `dotenvy`.
-/

namespace UserRegistry.VariableFile

/-- What is left of a line, and how many bytes of it were read. -/
structure Rest where
  chars : List Char
  place : Nat
deriving DecidableEq, Repr

namespace Rest

def past (r : Rest) (cs : List Char) : Rest :=
  ⟨r.chars.drop cs.length, r.place + Text.byteCount cs⟩

def pastBlanks (r : Rest) : Rest :=
  r.past (r.chars.takeWhile Text.isBlank)

def isOver (r : Rest) : Bool :=
  r.chars.isEmpty || r.chars.head? == some '#'

def isNameStart (c : Char) : Bool :=
  Text.isAsciiLetter c || c == '_'

def isNameChar (c : Char) : Bool :=
  Text.isAsciiLetterOrDigit c || c == '_' || c == '.'

/-- A name, and the white space after it. -/
def name? (r : Rest) : Option (String × Rest) :=
  let name := r.chars.takeWhile isNameChar
  if r.chars.head?.any isNameStart then some (String.ofList name, (r.past name).pastBlanks)
  else none

/-- An equals sign, and the white space after it. -/
def equals? (r : Rest) : Option Rest :=
  if r.chars.head? = some '=' then some (r.past ['=']).pastBlanks else none

end Rest

/-- A name and the text of its value. -/
structure Assignment where
  name : String
  value : List Char
deriving DecidableEq, Repr

/-- Reads a line, if there is an assignment on it. -/
def assignment? (line : List Char) : Except Fault (Option Assignment) :=
  let wrong (r : Rest) : Except Fault (Option Assignment) := .error (malformedAt line r.place)
  let given (name : String) (r : Rest) : Except Fault (Option Assignment) :=
    .ok (some ⟨name, if r.isOver then [] else r.chars⟩)
  let start := (Rest.mk (Text.trimmedEnd line) 0).pastBlanks
  if start.isOver then .ok none
  else match start.name? with
    | none => wrong start
    | some (first, afterFirst) =>
      match afterFirst.equals? with
      | some r => given first r
      | none =>
        if first = "export" then
          match afterFirst.name? with
          | none => wrong afterFirst
          | some (name, afterName) =>
            match afterName.equals? with
            | none => wrong afterName
            | some r => given name r
        else wrong afterFirst

end UserRegistry.VariableFile
