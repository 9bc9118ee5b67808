import UserRegistry.Number.Decimal

/-!
# Documents and their text

`Json` is a document of objects, lists, texts, integers and truth values; `Json.render` writes it on
one line without blanks. The members of an object keep their order. A text is written between
quotes: the quote, the backslash and the controls are escaped and every other character stands
for itself, so a written document never holds a line break.

The text is the one that `serde_json::to_string` writes.
-/

namespace UserRegistry

inductive Json where
  | flag (value : Bool)
  | int (value : Int64)
  | text (value : String)
  | list (items : List Json)
  | object (members : List (String × Json))

namespace Json

/-- A character as it stands in a written text. -/
def escapedChar (c : Char) : List Char :=
  if c = '"' then ['\\', '"']
  else if c = '\\' then ['\\', '\\']
  else if c = Char.ofNat 8 then ['\\', 'b']
  else if c = '\t' then ['\\', 't']
  else if c = '\n' then ['\\', 'n']
  else if c = Char.ofNat 12 then ['\\', 'f']
  else if c = '\r' then ['\\', 'r']
  else if c.toNat < 32 then
    ['\\', 'u', '0', '0', Nat.digitChar (c.toNat / 16), Nat.digitChar (c.toNat % 16)]
  else [c]

/-- A text between quotes. -/
def quote (s : String) : List Char :=
  '"' :: s.toList.flatMap escapedChar ++ ['"']

/-- Whether a truth value holds, as a word. -/
def flagWord (b : Bool) : String :=
  if b then "true" else "false"

mutual

def chars : Json → List Char
  | flag b => (flagWord b).toList
  | int i => (Decimal.ofInt64 i).toList
  | text s => quote s
  | list xs => '[' :: itemChars xs ++ [']']
  | object ms => '\x7b' :: memberChars ms ++ ['\x7d']

/-- The items of a list, with commas between them. -/
def itemChars : List Json → List Char
  | [] => []
  | [x] => chars x
  | x :: y :: xs => chars x ++ ',' :: itemChars (y :: xs)

/-- The members of an object, with commas between them. -/
def memberChars : List (String × Json) → List Char
  | [] => []
  | [(k, v)] => quote k ++ ':' :: chars v
  | (k, v) :: m :: ms => quote k ++ ':' :: chars v ++ ',' :: memberChars (m :: ms)

end

def render (j : Json) : String :=
  String.ofList (chars j)

end Json

end UserRegistry
