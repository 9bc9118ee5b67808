import UserRegistry.Text.Class
import UserRegistry.Text.PrintableTable

/-!
# Quoted text

A text between double quotes in which every character is visible: the quote and the backslash
are escaped, tab, line feed, carriage return and NUL have letters, and a character without a
printed form of its own is written as its code point in hexadecimal.
-/

namespace UserRegistry.Text

/-- Whether a character is written as its code point between quotes. -/
def isUnprintable (c : Char) : Bool :=
  c.toNat < 0x20 || c.toNat == 0x7f || inRanges unprintableRanges c.toNat

def quotedChar (c : Char) : List Char :=
  if c = Char.ofNat 0 then ['\\', '0']
  else if c = '\t' then ['\\', 't']
  else if c = '\r' then ['\\', 'r']
  else if c = '\n' then ['\\', 'n']
  else if c = '\\' then ['\\', '\\']
  else if c = '"' then ['\\', '"']
  else if isUnprintable c then ['\\', 'u', '\x7b'] ++ hexDigits c.toNat ++ ['\x7d']
  else [c]

def quoted (s : String) : String :=
  String.ofList ('"' :: s.toList.flatMap quotedChar ++ ['"'])

end UserRegistry.Text
