import UserRegistry.VariableFile.Assignment
import UserRegistry.VariableFile.Value
import UserRegistry.World.Variables

/-!
# Reading a file of variables

Assignments are made in their order. A variable that is set already stays as it is, so of several
assignments to a name the first one counts. In a value a name stands for the variable as it is
then, else for what the file assigned to it last, else for nothing.

| here | there |
| --- | --- |
| `read` | `dotenvy::Iter` |
| `assign`, `unsettable?` | `Iter::load`, which sets what is not set |
| `meaning` | `apply_substitution` |
-/

namespace UserRegistry.VariableFile

/-- What a name stands for in a value. -/
def meaning (vs : Variables) (assigned : List (String × String)) (name : String) : String :=
  ((vs.get? name).or (assigned.lookup name)).getD ""

/-- What a file assigns up to its first fault, in order, and that fault. -/
structure Reading where
  assignments : List (String × String)
  fault : Option Fault
deriving DecidableEq, Repr

/-- Reads lines. `assigned` holds what the lines before assigned. -/
def readLines (vs : Variables) (assigned : List (String × String)) :
    List (Except Fault (List Char)) → Reading
  | [] => ⟨[], none⟩
  | .error f :: _ => ⟨[], some f⟩
  | .ok line :: rest =>
    match assignment? line with
    | .error f => ⟨[], some f⟩
    | .ok none => readLines vs assigned rest
    | .ok (some a) =>
      match value (meaning vs assigned) a.value with
      | .error f => ⟨[], some f⟩
      | .ok v =>
        let v := String.ofList v
        let r := readLines (vs.setDefault a.name v) (Keyed.put a.name v assigned) rest
        ⟨(a.name, v) :: r.assignments, r.fault⟩

def read (vs : Variables) (text : String) (broken : Bool) : Reading :=
  readLines vs [] (lines text broken)

/-- The variables after assignments, none of which changes one that is set. -/
def assign (vs : Variables) (assignments : List (String × String)) : Variables :=
  assignments.foldl (fun vs a => vs.setDefault a.1 a.2) vs

/-- The first of several assignments that would set a variable to a text it cannot hold. -/
def unsettable? (vs : Variables) : List (String × String) → Option (String × String)
  | [] => none
  | a :: rest =>
    if (vs.get? a.1).isNone && !Variables.canHold a.2 then some a
    else unsettable? (vs.setDefault a.1 a.2) rest

end UserRegistry.VariableFile
