import UserRegistry.Log.Action
import UserRegistry.Log.Filter

/-!
# Writing events

Events that a filter lets through are written in their order, each with the time, either as text
for a reader or as a document of one line. In a text the characters that would steer a terminal
are written by their codes; a line feed in a message stays one.

| here | there |
| --- | --- |
| `Console` | the global subscriber of `tracing` |
| `chooseFilter` | `build_filter` |
| `setUp` | `init_logging` |
| `entry` | the layer `fmt`, with `json` or without |
-/

namespace UserRegistry

/-- How events are written, and which. -/
structure Console where
  filter : Filter
  json : Bool
deriving DecidableEq, Repr

namespace Console

/-- A character of a message; those that steer a terminal are written by their codes. -/
def shownChar (c : Char) : List Char :=
  let n := c.toNat
  if n = 0x1b then "\\x1b".toList
  else if n = 0x07 then "\\x07".toList
  else if n = 0x08 then "\\x08".toList
  else if n = 0x0c then "\\x0c".toList
  else if n = 0x7f then "\\x7f".toList
  else if 0x80 ≤ n ∧ n ≤ 0x9f then ['\\', 'u', '\x7b'] ++ Text.hexDigits n ++ ['\x7d']
  else [c]

def shown (message : String) : String :=
  String.ofList (message.toList.flatMap shownChar)

def alignedLevel (l : Level) : String :=
  String.ofList (List.replicate (5 - l.name.length) ' ') ++ l.name

def plainText (time : String) (e : Event) : String :=
  time ++ " " ++ alignedLevel e.level ++ " " ++ e.target ++ ": " ++ shown e.message ++
    String.join (e.fields.map fun f => " " ++ f.1 ++ "=" ++ Json.flagWord f.2)

def document (time : String) (e : Event) : Json :=
  .object [("timestamp", .text time), ("level", .text e.level.name),
    ("fields", .object (("message", .text e.message) ::
      e.fields.map fun f => (f.1, .flag f.2))),
    ("target", .text e.target)]

/-- An event as it is written, with a line feed at its end. -/
def entry (json : Bool) (time : String) (e : Event) : String :=
  (if json then (document time e).render else plainText time e) ++ "\n"

def passed (c : Console) (es : List Event) : List Event :=
  es.filter c.filter.enables

def write (c : Console) (time : String) (es : List Event) : String :=
  String.join ((c.passed es).map (entry c.json time))

def badFilter (filter : String) (fault : DirectiveFault) : Failure :=
  .configuration ("Invalid log filter '" ++ filter ++ "': " ++ fault.message)

def alreadySet : Failure :=
  .internal ("Failed to install subscriber: " ++
    "a global default trace dispatcher has already been set")

section
variable [Patterns]

/-- The filter in use (`build_filter`): the one of the process environment if there is a well-formed
one, else the one of the settings. -/
def chooseFilter (override : Option String) (filter : String) : Result Filter :=
  match override.map Filter.read with
  | some (.ok f) => .ok f
  | _ =>
    match Filter.read filter with
    | .ok f => .ok f
    | .error e => .error (badFilter filter e)

/-- Whether choosing the filter panics: a piece of one of the two texts would have to be cut inside
a character. The second one is read only if the first one gives no filter. -/
def choosingPanics (override : Option String) (filter : String) : Bool :=
  match override.map Filter.read with
  | some (.error .split) => true
  | some (.ok _) => false
  | _ =>
    match Filter.read filter with
    | .error .split => true
    | _ => false

/-- Sets up logging, which is possible once (`init_logging`). -/
def setUp (override : Option String) (l : LoggingSection) : Action (Option Console) Unit := do
  let filter ← .ofReport (.ofResult (chooseFilter override l.filter))
  match ← Action.get with
  | some _ => .fail alreadySet
  | none =>
    .set (some ⟨filter, l.json⟩)
    .tell (.loggingInitialized l.json)

end

/-- What is written of events where logging may not be set up. -/
def writeAny (c : Option Console) (time : String) (es : List Event) : String :=
  match c with
  | some c => c.write time es
  | none => ""

end Console

end UserRegistry
