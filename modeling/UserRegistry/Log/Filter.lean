import UserRegistry.Log.Directive
import UserRegistry.Text.Split

/-!
# Filters of events

A filter is made of directives. The most specific rule that fits an event decides on it: a rule
for a longer target goes before one for a shorter one, and then one with more fields before one
with fewer. A directive on a span or on the value of a field fits no event.

The filter is an `EnvFilter` of `tracing_subscriber`.
-/

namespace UserRegistry

/-- A rule on events: their target starts in a certain way and they have certain fields. -/
structure Rule where
  target : Option String
  fields : List String
  limit : LevelLimit
deriving DecidableEq, Repr

namespace Rule

/-- The rule that a directive makes on events, if any. -/
def ofDirective? (d : Directive) : Option Rule :=
  if d.span.isSome || d.fields.any FieldTest.hasValue then none
  else some ⟨d.target, d.fields.map FieldTest.name, d.limit⟩

/-- The order of two texts that may be missing. -/
def compareTexts : Option String → Option String → Ordering
  | none, none => .eq
  | none, some _ => .lt
  | some _, none => .gt
  | some a, some b => compare a b

def compareNames : List String → List String → Ordering
  | [], [] => .eq
  | [], _ :: _ => .lt
  | _ :: _, [] => .gt
  | a :: as, b :: bs => (compare a b).then (compareNames as bs)

/-- How much a target tells: none tells less than an empty one. -/
def targetSize (r : Rule) : Nat :=
  match r.target with
  | none => 0
  | some t => t.utf8ByteSize + 1

/-- Whether a rule is less (`lt`) or more (`gt`) specific than another. -/
def compareSpecific (r s : Rule) : Ordering :=
  (compare r.targetSize s.targetSize).then
    ((compare r.fields.length s.fields.length).then
      ((compareTexts r.target s.target).then (compareNames r.fields s.fields)))

/-- Whether an event is one the rule is for. -/
def fits (r : Rule) (e : Event) : Bool :=
  r.target.all (fun t => t.toList.isPrefixOf e.target.toList) &&
    r.fields.all fun f => e.fieldNames.contains f

end Rule

/-- Rules, the most specific one first. -/
structure Filter where
  rules : List Rule
deriving DecidableEq, Repr

namespace Filter

def none : Filter := ⟨[]⟩

/-- Rules with one more at its place, where it replaces one for the same events. -/
def insertRule (r : Rule) : List Rule → List Rule
  | [] => [r]
  | s :: rest =>
    match r.compareSpecific s with
    | .gt => r :: s :: rest
    | .eq => r :: rest
    | .lt => s :: insertRule r rest

def insert (f : Filter) (r : Rule) : Filter :=
  ⟨insertRule r f.rules⟩

/-- The filter of directives; of two for the same events the later one counts. -/
def ofDirectives (ds : List Directive) : Filter :=
  (ds.filterMap Rule.ofDirective?).foldl insert none

section
variable [Patterns]

def readAll : List (List Char) → Except DirectiveFault (List Directive)
  | [] => .ok []
  | p :: ps =>
    match Directive.read p with
    | .error e => .error e
    | .ok d => (readAll ps).map (d :: ·)

/-- Reads a filter: directives with commas between them. -/
def read (text : String) : Except DirectiveFault Filter :=
  (readAll ((Text.split ',' text.toList).filter fun p => !p.isEmpty)).map ofDirectives

end

def enables (f : Filter) (e : Event) : Bool :=
  match f.rules.find? fun r => r.fits e with
  | some r => r.limit.allows e.level
  | Option.none => false

end Filter

end UserRegistry
