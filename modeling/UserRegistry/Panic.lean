import UserRegistry.Text.Quoted

/-!
# Panics

The ways in which an operation does not come back at all, neither with a result nor with a
failure.
-/

namespace UserRegistry

/-- Why an operation panics. -/
inductive Panic where
  /-- A variable would have to be set to a text with a NUL in it, which no variable can hold. -/
  | unsettable (name value : String)
  /-- A variable among those that are gone through is not in UTF-8. -/
  | foreignVariable
  /-- A position counted from the end of a list lies before its start. -/
  | beforeStart
  /-- A text would have to be cut inside a character. -/
  | insideCharacter
deriving DecidableEq, Repr

/-- The cause in words; where in a source it was met is left out, and so is the text at fault where
it is no variable's. -/
def Panic.message : Panic → String
  | unsettable name value =>
    "failed to set environment variable `" ++ Text.quoted name ++ "` to `" ++ Text.quoted value ++
      "`: file name contained an unexpected NUL byte"
  | foreignVariable => "called `Result::unwrap()` on an `Err` value"
  | beforeStart => "attempt to subtract with overflow"
  | insideCharacter => "byte index is not a char boundary"

end UserRegistry
