import UserRegistry.Json.Fault
import UserRegistry.Number.Binary
import UserRegistry.Text.Bytes
import UserRegistry.Text.Quoted

/-!
# The words of a document

Reading the parts of a document that hold no other parts: blanks, fixed words, texts and numbers.
Each reader takes what is left of the text and gives what it read and what is left then, or the
fault and its place.

The faults, and the numbers that are rounded, are those of `serde_json`.
-/

namespace UserRegistry.Json

open UserRegistry.Text

/-- The characters that may stand between the words of a document. -/
def isGap (c : Char) : Bool :=
  c == ' ' || c == '\n' || c == '\t' || c == '\r'

/-- The text without the gap it starts with. -/
def skipGap (s : List Char) : List Char :=
  s.dropWhile isGap

/-- Reads the rest of a fixed word. -/
def word : List Char → List Char → Except Fault (List Char)
  | [], s => .ok s
  | _ :: _, [] => faultAt .endInValue []
  | w :: ws, c :: cs => if c = w then word ws cs else faultOn .expectedWord (c :: cs)

/-! ## Texts -/

/-- How many bytes the next four characters have. -/
def fewBytes (s : List Char) : Nat :=
  Text.byteCount (s.take 4)

def hexQuad (s : List Char) : Except Fault Nat :=
  if fewBytes s < 4 then faultAt .endInText []
  else match (s.take 4).mapM hexValue? with
    | some [a, b, c, d] => .ok (((a * 16 + b) * 16 + c) * 16 + d)
    | _ => .error ⟨.badEscape, s, 4⟩

/-- The second half of a character above U+FFFF, after the four digits of the first half. Gives
the character and how many characters of the text it took. -/
def lowHalf (high : Nat) (s : List Char) : Except Fault (Char × Nat) :=
  match s with
  | [] => faultAt .endInText []
  | c :: cs =>
    if c ≠ '\\' then faultOn .halfSurrogate s
    else match cs with
      | [] => faultAt .endInText []
      | d :: ds =>
        if d ≠ 'u' then faultOn .halfSurrogate cs
        else match hexQuad ds with
          | .error e => .error e
          | .ok low =>
            if low < 0xdc00 ∨ 0xdfff < low then faultAt .loneSurrogate (ds.drop 4)
            else .ok (Char.ofNat (0x10000 + (high - 0xd800) * 0x400 + (low - 0xdc00)), 6)

/-- What is written after a backslash: the character meant and how many characters it takes. -/
def escape (s : List Char) : Except Fault (Char × Nat) :=
  match s with
  | [] => faultAt .endInText []
  | c :: cs =>
    if c = '"' ∨ c = '\\' ∨ c = '/' then .ok (c, 1)
    else if c = 'b' then .ok (Char.ofNat 8, 1)
    else if c = 'f' then .ok (Char.ofNat 12, 1)
    else if c = 'n' then .ok ('\n', 1)
    else if c = 'r' then .ok ('\r', 1)
    else if c = 't' then .ok ('\t', 1)
    else if c = 'u' then
      match hexQuad cs with
      | .error e => .error e
      | .ok n =>
        if 0xdc00 ≤ n ∧ n ≤ 0xdfff then faultAt .loneSurrogate (cs.drop 4)
        else if 0xd800 ≤ n ∧ n ≤ 0xdbff then
          (lowHalf n (cs.drop 4)).map fun (d, k) => (d, k + 5)
        else .ok (Char.ofNat n, 5)
    else faultOn .badEscape s

/-- The rest of a text up to its closing quote. The first `pending` characters belong to an escape
that was read already; `before` holds the characters read so far, last first. -/
def textFrom (pending : Nat) (before : List Char) : List Char → Step String
  | [] => faultAt .endInText []
  | c :: cs =>
    match pending with
    | k + 1 => textFrom k before cs
    | 0 =>
      if c = '"' then .ok (String.ofList before.reverse, cs)
      else if c = '\\' then
        match escape cs with
        | .error e => .error e
        | .ok (d, k) => textFrom k (d :: before) cs
      else if c.toNat < 32 then faultAt .controlCharacter cs
      else textFrom 0 (c :: before) cs

def textAfterQuote (s : List Char) : Step String :=
  textFrom 0 [] s

/-- How many characters an escape takes in a text that nobody reads: any four hexadecimal digits
are good. -/
def escapeLength (s : List Char) : Except Fault Nat :=
  match s with
  | [] => faultAt .endInText []
  | c :: cs =>
    if ['"', '\\', '/', 'b', 'f', 'n', 'r', 't'].contains c then .ok 1
    else if c = 'u' then (hexQuad cs).map fun _ => 5
    else faultOn .badEscape s

/-- Passes over the rest of a text up to its closing quote. -/
def skipTextFrom (pending : Nat) : List Char → Except Fault (List Char)
  | [] => faultAt .endInText []
  | c :: cs =>
    match pending with
    | k + 1 => skipTextFrom k cs
    | 0 =>
      if c = '"' then .ok cs
      else if c = '\\' then
        match escapeLength cs with
        | .error e => .error e
        | .ok k => skipTextFrom k cs
      else if c.toNat < 32 then faultAt .controlCharacter (c :: cs)
      else skipTextFrom 0 cs

/-! ## Numbers -/

/-- A number as it is told apart by its size: within 64 bits, or in floating point. -/
inductive Numeral where
  | natural (n : Nat)
  | negative (n : Nat)
  | float (x : Binary)

/-- The greatest number that the digits of a numeral are counted in. -/
def significandLimit : Nat := 18446744073709551615

/-- The number that digits write as far as it stays within the limit, and how many digits were
left over then. -/
def significand (n : Nat) : List Char → Nat × Nat
  | [] => (n, 0)
  | c :: cs =>
    let m := 10 * n + Decimal.digitValue c
    if significandLimit < m then (n, cs.length + 1) else significand m cs

/-- The product `x * 10 ^ e` in steps of powers of ten up to `10 ^ 308`, each of which rounds, or
nothing where that is beyond the greatest number. -/
def scaled (x : Binary) (e : Int) : Nat → Option Binary
  | 0 => some x
  | fuel + 1 =>
    if e.natAbs ≤ 308 then
      if 0 ≤ e then
        match x.times (.nearest false 1 e) with
        | .infinite _ => none
        | y => some y
      else some (x.dividedBy (.nearest false 1 (-e)))
    else if x.isZero then some x
    else if 0 ≤ e then none
    else scaled (x.dividedBy (.nearest false 1 308)) (e + 308) fuel

/-- The number of a significand and a power of ten, at the end of its text. -/
def float (negative : Bool) (n : Nat) (e : Int) (s : List Char) : Step Numeral :=
  match scaled (.ofNat n) e 8 with
  | none => faultAt .numberOutOfRange s
  | some x => .ok (.float (if negative then x.negated else x), s)

/-- The number that an exponent's digits write, stopping where it leaves 32 bits; then what is left
after the digit that did it. -/
def exponentFrom (n : Nat) : List Char → Nat × Option (List Char)
  | [] => (n, none)
  | c :: cs =>
    let m := 10 * n + Decimal.digitValue c
    if 2147483647 < m then (n, some cs) else exponentFrom m cs

/-- An exponent after its mark. -/
def exponent (negative : Bool) (n : Nat) (e : Int) (s : List Char) : Step Numeral :=
  let (down, s) := match s with
    | '+' :: cs => (false, cs)
    | '-' :: cs => (true, cs)
    | _ => (false, s)
  match s with
  | [] => faultAt .endInValue []
  | c :: _ =>
    if !isDigit c then faultOn .badNumber s
    else match exponentFrom 0 (Decimal.digits s) with
      | (_, some beyond) =>
        if n ≠ 0 ∧ !down then faultAt .numberOutOfRange (beyond ++ Decimal.afterDigits s)
        else .ok (.float (.zero negative), Decimal.afterDigits s)
      | (k, none) =>
        float negative n (if down then e - k else e + k) (Decimal.afterDigits s)

/-- The digits after a point. `e` counts digits of the whole part that were left over. -/
def fraction (negative : Bool) (n : Nat) (e : Int) (s : List Char) : Step Numeral :=
  let ds := Decimal.digits s
  let rest := Decimal.afterDigits s
  if ds.isEmpty then
    match rest with
    | [] => faultAt .endInValue []
    | _ => faultOn .badNumber rest
  else
    let (m, leftOver) := significand n ds
    let e := e - ((ds.length - leftOver : Nat) : Int)
    match rest with
    | 'e' :: cs | 'E' :: cs => exponent negative m e cs
    | _ => float negative m e rest

/-- A number after its sign. -/
def numeral (negative : Bool) (s : List Char) : Step Numeral :=
  match s with
  | [] => faultAt .endInValue []
  | c :: cs =>
    if !isDigit c then faultOn .badNumber s
    else if c = '0' ∧ (cs.head?.any isDigit) then faultOn .badNumber cs
    else
      let (n, leftOver) := significand 0 (Decimal.digits s)
      match Decimal.afterDigits s with
      | '.' :: rest => fraction negative n leftOver rest
      | 'e' :: rest | 'E' :: rest => exponent negative n leftOver rest
      | rest =>
        if leftOver ≠ 0 then float negative n leftOver rest
        else if !negative then .ok (.natural n, rest)
        else if n = 0 ∨ 9223372036854775808 < n then .ok (.float (Binary.ofNat n).negated, rest)
        else .ok (.negative n, rest)

def skipExponent (s : List Char) : Except Fault (List Char) :=
  let s := match s with
    | '+' :: cs | '-' :: cs => cs
    | _ => s
  match s with
  | [] => faultAt .badNumber []
  | c :: _ => if isDigit c then .ok (Decimal.afterDigits s) else faultOn .badNumber s

def skipNumeral (s : List Char) : Except Fault (List Char) :=
  match s with
  | [] => faultAt .badNumber []
  | c :: cs =>
    if !isDigit c then faultOn .badNumber s
    else if c = '0' ∧ (cs.head?.any isDigit) then faultOn .badNumber cs
    else match (if c = '0' then cs else Decimal.afterDigits s) with
      | '.' :: rest =>
        if (Decimal.digits rest).isEmpty then faultOn .badNumber rest
        else match Decimal.afterDigits rest with
          | 'e' :: cs | 'E' :: cs => skipExponent cs
          | after => .ok after
      | 'e' :: rest | 'E' :: rest => skipExponent rest
      | rest => .ok rest

end UserRegistry.Json
