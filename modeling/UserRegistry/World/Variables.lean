import UserRegistry.Keyed

/-!
# Environment variables

The variables of a process: texts under names, at most one under each. A process may be handed
others that are not in UTF-8; nothing asks for one of these by its name, but whoever goes through
all variables meets them.
-/

namespace UserRegistry

structure Variables where
  entries : List (String × String)
  distinct : (entries.map Prod.fst).Nodup
  /-- Whether there is a variable besides these whose name or value is not in UTF-8. -/
  foreign : Bool := false

namespace Variables

def empty : Variables := { entries := [], distinct := .nil }

def get? (vs : Variables) (name : String) : Option String :=
  vs.entries.lookup name

def set (vs : Variables) (name value : String) : Variables :=
  { vs with
    entries := Keyed.put name value vs.entries
    distinct := Keyed.nodup_put vs.distinct }

def unset (vs : Variables) (name : String) : Variables :=
  { vs with
    entries := Keyed.remove name vs.entries
    distinct := Keyed.nodup_remove vs.distinct }

/-- Sets a variable that is not set yet. -/
def setDefault (vs : Variables) (name value : String) : Variables :=
  if (vs.get? name).isSome then vs else vs.set name value

/-- Whether a text can be the value of a variable: there is no NUL in it. -/
def canHold (value : String) : Bool :=
  !value.toList.contains '\x00'

/-- Variables of which the later one of a name stays. -/
def ofList (entries : List (String × String)) : Variables :=
  entries.foldl (fun vs e => vs.set e.1 e.2) empty

theorem get?_set (vs : Variables) (name value n : String) :
    (vs.set name value).get? n = if n = name then some value else vs.get? n :=
  Keyed.lookup_put name value vs.entries n

theorem get?_setDefault (vs : Variables) (name value n : String) :
    (vs.setDefault name value).get? n =
      (vs.get? n).or (if n = name then some value else none) := by
  unfold setDefault
  split
  · rename_i h
    by_cases hn : n = name
    · subst hn
      simp [Option.or_eq_left_of_isSome h]
    · simp [hn]
  · rename_i h
    have h : vs.get? name = none := by simpa using h
    by_cases hn : n = name
    · subst hn
      simp [get?_set, h]
    · simp [get?_set, hn]

end Variables

end UserRegistry
