/-!
# Byte order marks

A text may start with a mark that tells the order of its bytes and is not part of what it says.
-/

namespace UserRegistry.Text

/-- A text without a byte order mark at its start. -/
def withoutOrderMark : List Char → List Char
  | [] => []
  | c :: cs => if c.toNat = 0xfeff then cs else c :: cs

end UserRegistry.Text
