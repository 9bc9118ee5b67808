import UserRegistry.Layers.Path
import UserRegistry.World.Variables

/-!
# Settings in environment variables

A variable whose name starts with `ROSTER__`, in letters of any case, holds a setting: the rest of
the name is its key, in which two low lines stand for a point. Its text counts as a truth value, as
an integer or as a floating-point number where it can be read as one.

| here | there |
| --- | --- |
| `key?` | `Environment::with_prefix`, `separator` |
| `scalar` | `try_parsing` |
| `layer` | `Source::collect` |
-/

namespace UserRegistry.Layers.Overrides

open UserRegistry.Text

/-- What messages call a value that a variable gave. -/
def origin : String := "the environment"

/-- What the names of such variables start with, in lower case. -/
def nameStart : List Char := "roster__".toList

def points : List Char → List Char
  | '_' :: '_' :: cs => '.' :: points cs
  | c :: cs => c :: points cs
  | [] => []

/-- The key that a variable is for, if it holds a setting. -/
def key? (name : String) : Option String :=
  let cs := (lowercase name).toList
  if nameStart.isPrefixOf cs then some (String.ofList (points (cs.drop nameStart.length)))
  else none

def exponent? (cs : List Char) : Option Int :=
  match cs with
  | '-' :: ds => (Decimal.nat? ds).map fun n => -(n : Int)
  | '+' :: ds => (Decimal.nat? ds).map fun n => (n : Int)
  | ds => (Decimal.nat? ds).map fun n => (n : Int)

/-- A number without its sign: digits with or without a point, and an exponent where there is a
mark. -/
def unsignedFloat? (negative : Bool) (cs : List Char) : Option Binary :=
  let whole := Decimal.digits cs
  let (places, rest) := match Decimal.afterDigits cs with
    | '.' :: s => (Decimal.digits s, Decimal.afterDigits s)
    | s => ([], s)
  let power := match rest with
    | [] => some 0
    | 'e' :: s | 'E' :: s => exponent? s
    | _ => none
  if whole.isEmpty && places.isEmpty then none
  else power.map fun e =>
    Binary.nearest negative (Decimal.value (whole ++ places)) (e - places.length)

/-- A floating-point number, which may be infinite or none in words of any case. -/
def float? (cs : List Char) : Option Binary :=
  let (negative, s) := match cs with
    | '-' :: s => (true, s)
    | '+' :: s => (false, s)
    | s => (false, s)
  let word := asciiLowercase (String.ofList s)
  if word = "inf" ∨ word = "infinity" then some (.infinite negative)
  else if word = "nan" then some .nan
  else unsignedFloat? negative s

/-- What the text of a variable stands for. -/
def scalar (value : String) : Scalar :=
  let word := lowercase value
  if word = "true" then .flag true
  else if word = "false" then .flag false
  else match Decimal.int64? value.toList, float? value.toList with
    | some i, _ => .int i
    | none, some x => .float x
    | none, none => .text value

/-- The setting that a variable holds, with its key. -/
def setting? (v : String × String) : Option (String × Tree) :=
  (key? v.1).map fun k => (k, .scalar (some origin) (scalar v.2))

/-- The settings that variables hold; of two with one key the later one counts. -/
def layer (vs : Variables) : List (String × Tree) :=
  Keyed.ofList (vs.entries.filterMap setting?)

theorem exists_of_mem_layer {vs : Variables} {m : String × Tree} (h : m ∈ layer vs) :
    ∃ e ∈ vs.entries, setting? e = some m :=
  List.mem_filterMap.1 (Keyed.mem_of_mem_ofList h)

theorem nodup_layer (vs : Variables) : ((layer vs).map Prod.fst).Nodup :=
  Keyed.nodup_ofList _

end UserRegistry.Layers.Overrides
