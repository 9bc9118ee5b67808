import UserRegistry.Text.Blank
import UserRegistry.Text.Bytes
import UserRegistry.Text.OrderMark
import UserRegistry.Text.Split

/-!
# Lines of a file of variables

A file of variables is read line by line, where a line goes on after its end as long as a quote or
an escape is open, or white space at the very end of the file leaves it unfinished. A comment
starts with `#` at the beginning of a line or after white space, and is dropped with the rest of
its line. Every line is read by itself; the first fault ends the reading.

Lines and their faults are those of `dotenvy`.
-/

namespace UserRegistry.VariableFile

/-- Why the reading of a file of variables ended early. -/
inductive Fault where
  /-- There is no such file. -/
  | missing
  /-- A line is not in UTF-8. -/
  | notText
  /-- A text does not have its form from a place on. -/
  | malformed (text : String) (place : Nat)
deriving DecidableEq, Repr

def Fault.message : Fault → String
  | missing => "path not found"
  | notText => "stream did not contain valid UTF-8"
  | malformed text place =>
    "Error parsing line: '" ++ text ++ "', error at line index: " ++ toString place

def malformedAt (cs : List Char) (place : Nat) : Fault :=
  .malformed (String.ofList cs) place

/-- What a line is in the middle of. -/
inductive LineState where
  /-- Nothing: the line may end here. -/
  | plain
  | blank
  | escape
  | strong
  | strongEscape
  | weak
  | weakEscape
deriving DecidableEq, Repr

namespace LineState

/-- What follows on the first character of a word. -/
def opening (c : Char) : LineState :=
  if c = '\\' then escape else if c = '"' then weak else if c = '\'' then strong else plain

/-- What a line is in the middle of after one more character. -/
def next (c : Char) : LineState → LineState
  | plain => if Text.isBlank c && c != '\n' && c != '\r' then blank else opening c
  | blank => opening c
  | escape => plain
  | strong => if c = '\\' then strongEscape else if c = '\'' then plain else strong
  | strongEscape => strong
  | weak => if c = '\\' then weakEscape else if c = '"' then plain else weak
  | weakEscape => weak

end LineState

/-- How a piece of a line ends: in the middle of something, or in a comment after some text. -/
inductive PieceEnd where
  | inState (state : LineState)
  | inComment (before : List Char)
deriving DecidableEq, Repr

/-- Reads a piece of a line. -/
def pieceEnd (state : LineState) : List Char → PieceEnd
  | [] => .inState state
  | c :: cs =>
    if state = .blank ∧ c = '#' then .inComment []
    else match pieceEnd (state.next c) cs with
      | .inComment before => .inComment (c :: before)
      | .inState s => .inState s

/-- A line without the line feed at its end and a carriage return before it. -/
def withoutEnd (cs : List Char) : List Char :=
  match cs.reverse with
  | '\n' :: '\r' :: rest | '\n' :: rest => rest.reverse
  | _ => cs

def isComment (cs : List Char) : Bool :=
  (Text.trimmedStart cs).head? == some '#'

/-- The lines that pieces make up, after a part of a line that was read already. `broken` says
that something follows which is not in UTF-8. -/
def linesFrom (broken : Bool) : LineState → List Char → List (List Char) →
    List (Except Fault (List Char))
  | state, before, [] =>
    if broken then [.error .notText]
    else if state = .plain then []
    else [.error (malformedAt before (Text.byteCount before))]
  | state, before, p :: ps =>
    let line := before ++ p
    if isComment line then .ok [] :: linesFrom broken .plain [] ps
    else match pieceEnd state p with
      | .inComment kept => .ok (before ++ kept) :: linesFrom broken .plain [] ps
      | .inState .plain => .ok (withoutEnd line) :: linesFrom broken .plain [] ps
      | .inState s => linesFrom broken s line ps

/-- The lines of a file, each or the fault that it ends with. -/
def lines (text : String) (broken : Bool) : List (Except Fault (List Char)) :=
  linesFrom broken .plain []
    (Text.cutAfter (· == '\n') (Text.withoutOrderMark text.toList))

end UserRegistry.VariableFile
