/-!
# Bytes

A text as it stands in UTF-8: how many bytes it takes, and what is cut out of it from one byte to
another.
-/

namespace UserRegistry.Text

def byteCount : List Char → Nat
  | [] => 0
  | c :: cs => c.utf8Size + byteCount cs

/-- What follows after some bytes, if they end between two characters. -/
def dropBytes? : Nat → List Char → Option (List Char)
  | 0, cs => some cs
  | _ + 1, [] => none
  | n + 1, c :: cs => if c.utf8Size ≤ n + 1 then dropBytes? (n + 1 - c.utf8Size) cs else none

/-- The characters that some bytes make up, if they end between two characters. -/
def takeBytes? : Nat → List Char → Option (List Char)
  | 0, _ => some []
  | _ + 1, [] => none
  | n + 1, c :: cs =>
    if c.utf8Size ≤ n + 1 then (takeBytes? (n + 1 - c.utf8Size) cs).map (c :: ·) else none

/-- The characters from one byte to another, if neither is in the middle of a character. -/
def cut? (cs : List Char) (first last : Nat) : Option (List Char) :=
  (dropBytes? first cs).bind (takeBytes? (last - first))

end UserRegistry.Text
