/-!
# Failures

Why an operation of the registry fails, in four kinds. `code` names the kind for a machine,
`message` says it to a reader.

| here | there |
| --- | --- |
| `Failure`, `Result` | `RosterError`, `RosterResult` |
| `code`, `message` | `error_code`, `Display` |
| `isNotFound`, `isInvalidArgument` | `is_not_found`, `is_invalid_argument` |
-/

namespace UserRegistry

/-- Why an operation failed (`RosterError`). -/
inductive Failure where
  /-- Nothing of this kind is kept under this id. -/
  | notFound (resource id : String)
  /-- A required argument is missing or unusable. -/
  | invalidArgument (message : String)
  /-- The configuration cannot be used. -/
  | configuration (message : String)
  /-- Something that a caller cannot mend. -/
  | internal (message : String)
deriving DecidableEq, Repr

/-- What an operation without an answer of interest answers: done, or why not. -/
abbrev Result (α : Type) : Type := Except Failure α

/-! What an answer that was made from others tells of them, whatever it fails with. -/
namespace Result

variable {α β γ ε ε' : Type}

theorem bind_eq_ok {x : Except ε α} {f : α → Except ε β} {b : β} (h : x.bind f = .ok b) :
    ∃ a, x = .ok a ∧ f a = .ok b := by
  cases x with
  | error e => cases h
  | ok a => exact ⟨a, rfl, h⟩

theorem bind_eq_error {x : Except ε α} {f : α → Except ε β} {e : ε} (h : x.bind f = .error e) :
    x = .error e ∨ ∃ a, x = .ok a ∧ f a = .error e := by
  cases x with
  | error e' =>
    cases h
    exact .inl rfl
  | ok a => exact .inr ⟨a, rfl, h⟩

theorem map_eq_ok {x : Except ε α} {f : α → β} {b : β} (h : x.map f = .ok b) :
    ∃ a, x = .ok a ∧ f a = b := by
  cases x with
  | error e => cases h
  | ok a => exact ⟨a, rfl, Except.ok.inj h⟩

theorem map_eq_error {x : Except ε α} {f : α → β} {e : ε} (h : x.map f = .error e) :
    x = .error e := by
  cases x with
  | error e' => exact congrArg _ (Except.error.inj h)
  | ok a => cases h

theorem mapError_eq_ok {x : Except ε α} {f : ε → ε'} {a : α} (h : x.mapError f = .ok a) :
    x = .ok a := by
  cases x with
  | error e => cases h
  | ok a' => exact congrArg _ (Except.ok.inj h)

theorem mapError_eq_error {x : Except ε α} {f : ε → ε'} {e' : ε'} (h : x.mapError f = .error e') :
    ∃ e, x = .error e ∧ f e = e' := by
  cases x with
  | error e => exact ⟨e, rfl, Except.error.inj h⟩
  | ok a => cases h

theorem map_of_bind (g : β → γ) (x : Except ε α) (f : α → Except ε β) :
    (x >>= f).map g = x >>= fun a => (f a).map g := by
  cases x <;> rfl

end Result

namespace Failure

/-- The kind of failure, for a machine (`error_code`). -/
def code : Failure → String
  | notFound _ _ => "NOT_FOUND"
  | invalidArgument _ => "INVALID_ARGUMENT"
  | configuration _ => "CONFIGURATION_ERROR"
  | internal _ => "INTERNAL_ERROR"

def message : Failure → String
  | notFound resource id => "Resource not found: " ++ resource ++ " with id " ++ id
  | invalidArgument m => "Invalid argument: " ++ m
  | configuration m => "Configuration error: " ++ m
  | internal m => "Internal error: " ++ m

def isNotFound : Failure → Bool
  | notFound _ _ => true
  | _ => false

def isInvalidArgument : Failure → Bool
  | invalidArgument _ => true
  | _ => false

end Failure

end UserRegistry
