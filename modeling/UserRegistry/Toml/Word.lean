import UserRegistry.Number.Binary

/-!
# The words of a TOML document

Blanks, comments, quoted texts in their four forms, and the unquoted words for numbers, truth
values and moments in time. Each reader takes what is left of the text and gives what it read and
what is left then, or nothing where the text is not well formed.
-/

namespace UserRegistry.Toml

open UserRegistry.Text

/-- What is read from a text and what is left of it. -/
abbrev Step (α : Type) : Type := Option (α × List Char)

/-! ## Blanks and lines -/

def isSpace (c : Char) : Bool :=
  c == ' ' || c == '\t'

def skipSpace (s : List Char) : List Char :=
  s.dropWhile isSpace

/-- A character that may stand in a comment. -/
def isComment (c : Char) : Bool :=
  c == '\t' || (0x20 ≤ c.toNat && c.toNat ≠ 0x7f)

def newline? : List Char → Option (List Char)
  | '\n' :: s => some s
  | '\r' :: '\n' :: s => some s
  | _ => none

/-- The text without the comment it starts with, if it does. -/
def skipComment : List Char → List Char
  | '#' :: s => s.dropWhile isComment
  | s => s

/-- Reads the rest of a line that may hold blanks and a comment only. -/
def lineEnd (s : List Char) : Option (List Char) :=
  match skipComment (skipSpace s) with
  | [] => some []
  | s => newline? s

/-- Passes over blanks, comments and line breaks. A comment has to end with its line. -/
def skipLines : Nat → List Char → Option (List Char)
  | 0, _ => none
  | fuel + 1, s =>
    match skipSpace s with
    | '#' :: cs => (newline? (cs.dropWhile isComment)).bind (skipLines fuel)
    | rest =>
      match newline? rest with
      | some after => skipLines fuel after
      | none => some rest

/-! ## Quoted texts -/

/-- Hexadecimal digits of a fixed count as a character. -/
def hexChar (count : Nat) (s : List Char) : Option Char :=
  if s.length < count then none
  else match (s.take count).mapM hexValue? with
    | none => none
    | some ds =>
      let n := ds.foldl (fun n d => 16 * n + d) 0
      if n < 0xd800 ∨ (0xdfff < n ∧ n < 0x110000) then some (Char.ofNat n) else none

/-- What is written after a backslash: the character meant and how many characters it takes. -/
def escape : List Char → Option (Char × Nat)
  | 'b' :: _ => some (Char.ofNat 8, 1)
  | 't' :: _ => some ('\t', 1)
  | 'n' :: _ => some ('\n', 1)
  | 'f' :: _ => some (Char.ofNat 12, 1)
  | 'r' :: _ => some ('\r', 1)
  | '"' :: _ => some ('"', 1)
  | '\\' :: _ => some ('\\', 1)
  | 'u' :: s => (hexChar 4 s).map fun c => (c, 5)
  | 'U' :: s => (hexChar 8 s).map fun c => (c, 9)
  | _ => none

/-- A character that may stand for itself in a text. -/
def isPlain (c : Char) : Bool :=
  isComment c

/-- The rest of a text on one line, up to its closing quote. The first `pending` characters belong
to an escape that was read already; `before` holds the characters read so far, last first. -/
def basicFrom (pending : Nat) (before : List Char) : List Char → Step String
  | [] => none
  | c :: cs =>
    match pending with
    | k + 1 => basicFrom k before cs
    | 0 =>
      if c = '"' then some (String.ofList before.reverse, cs)
      else if c = '\\' then
        match escape cs with
        | none => none
        | some (d, k) => basicFrom k (d :: before) cs
      else if isPlain c then basicFrom 0 (c :: before) cs
      else none

/-- The rest of a text on one line without escapes, up to its closing quote. -/
def literalFrom (before : List Char) : List Char → Step String
  | [] => none
  | c :: cs =>
    if c = '\'' then some (String.ofList before.reverse, cs)
    else if isPlain c then literalFrom (c :: before) cs
    else none

/-- Three to five quotes end a text of several lines; those before the last three belong to it.
Gives the quotes that belong to it and what is left. -/
def closing? (quote : Char) (s : List Char) : Option (List Char × List Char) :=
  let n := min 5 (s.takeWhile (· == quote)).length
  if n < 3 then none else some (List.replicate (n - 3) quote, s.drop n)

/-- How many characters after a backslash lead over the end of a line to the next text. -/
def continuation? (s : List Char) : Option Nat :=
  let rest := skipSpace s
  match newline? rest with
  | none => none
  | some after =>
    let left := after.dropWhile fun c => isSpace c || c == '\n' || c == '\r'
    some (s.length - left.length)

/-- Whether each carriage return in the text belongs to a line break. -/
def returnsPaired : List Char → Bool
  | [] => true
  | '\r' :: '\n' :: s => returnsPaired s
  | '\r' :: _ => false
  | _ :: s => returnsPaired s

/-- The rest of a text of several lines, up to its closing quotes. -/
def longBasicFrom (pending : Nat) (before : List Char) : List Char → Step String
  | [] => none
  | c :: cs =>
    match pending with
    | k + 1 => longBasicFrom k before cs
    | 0 =>
      if c = '"' then
        match closing? '"' (c :: cs) with
        | some (quotes, rest) => some (String.ofList (before.reverse ++ quotes), rest)
        | none => longBasicFrom 0 (c :: before) cs
      else if c = '\\' then
        match continuation? cs with
        | some k => if returnsPaired (cs.take k) then longBasicFrom k before cs else none
        | none =>
          match escape cs with
          | none => none
          | some (d, k) => longBasicFrom k (d :: before) cs
      else if isPlain c then longBasicFrom 0 (c :: before) cs
      else match newline? (c :: cs) with
        | some rest => longBasicFrom (cs.length - rest.length) ('\n' :: before) cs
        | none => none

/-- The rest of a text of several lines without escapes, up to its closing quotes. -/
def longLiteralFrom (pending : Nat) (before : List Char) : List Char → Step String
  | [] => none
  | c :: cs =>
    match pending with
    | k + 1 => longLiteralFrom k before cs
    | 0 =>
      if c = '\'' then
        match closing? '\'' (c :: cs) with
        | some (quotes, rest) => some (String.ofList (before.reverse ++ quotes), rest)
        | none => longLiteralFrom 0 (c :: before) cs
      else if isPlain c then longLiteralFrom 0 (c :: before) cs
      else match newline? (c :: cs) with
        | some rest => longLiteralFrom (cs.length - rest.length) ('\n' :: before) cs
        | none => none

/-- A text of several lines does not hold the line break right after its opening quotes. -/
def skipFirstBreak (s : List Char) : List Char :=
  (newline? s).getD s

def quotedText : List Char → Step String
  | '"' :: '"' :: '"' :: s => longBasicFrom 0 [] (skipFirstBreak s)
  | '\'' :: '\'' :: '\'' :: s => longLiteralFrom 0 [] (skipFirstBreak s)
  | '"' :: s => basicFrom 0 [] s
  | '\'' :: s => literalFrom [] s
  | _ => none

/-! ## Numbers -/

/-- Digits with single underscores between them, without the underscores. -/
def spacedDigits (isDigit : Char → Bool) (s : List Char) : Option (List Char) :=
  let rec go (afterDigit : Bool) : List Char → Option (List Char)
    | [] => if afterDigit then some [] else none
    | c :: cs =>
      if c = '_' then if afterDigit then go false cs else none
      else if isDigit c then (go true cs).map (c :: ·)
      else none
  go false s

def inBase (base : Nat) (ds : List Char) : Option Nat :=
  ds.foldlM (fun n c => (hexValue? c).map (base * n + ·)) 0

/-- A sign at the start of a word: whether it is a minus, and the rest. -/
def splitSign : List Char → Bool × List Char
  | '-' :: s => (true, s)
  | '+' :: s => (false, s)
  | s => (false, s)

/-- The digits of a whole number, which has no leading zero. -/
def wholeDigits (s : List Char) : Option (List Char) :=
  match spacedDigits isDigit s with
  | some ('0' :: _ :: _) => none
  | ds => ds

def integer? (w : List Char) : Option Int64 :=
  let radix (base : Nat) (ok : Char → Bool) (s : List Char) : Option Int64 :=
    ((spacedDigits ok s).bind (inBase base)).bind fun n => Decimal.fit? n
  match w with
  | '0' :: 'x' :: s => radix 16 (fun c => (hexValue? c).isSome) s
  | '0' :: 'o' :: s => radix 8 (fun c => '0' ≤ c && c ≤ '7') s
  | '0' :: 'b' :: s => radix 2 (fun c => c == '0' || c == '1') s
  | _ =>
    let (negative, s) := splitSign w
    (wholeDigits s).bind fun ds =>
      let n : Int := Decimal.value ds
      Decimal.fit? (if negative then -n else n)

def exponent? (s : List Char) : Option Int :=
  let (negative, s) := splitSign s
  (spacedDigits isDigit s).map fun ds =>
    let n : Int := Decimal.value ds
    if negative then -n else n

/-- A word for a floating-point number. One that is written in digits has to be below infinity. -/
def float? (w : List Char) : Option Binary :=
  let (negative, s) := splitSign w
  if s = "inf".toList then some (.infinite negative)
  else if s = "nan".toList then some .nan
  else
    let whole := s.takeWhile fun c => isDigit c || c == '_'
    let rest := s.dropWhile fun c => isDigit c || c == '_'
    let number (fraction : List Char) (e : Int) : Option Binary :=
      (wholeDigits whole).bind fun ds =>
        let x := Binary.nearest negative (Decimal.value (ds ++ fraction)) (e - fraction.length)
        if x = .infinite false then none else some x
    match rest with
    | '.' :: s =>
      let places := s.takeWhile fun c => isDigit c || c == '_'
      (spacedDigits isDigit places).bind fun fraction =>
        match s.dropWhile fun c => isDigit c || c == '_' with
        | [] => number fraction 0
        | 'e' :: s | 'E' :: s => (exponent? s).bind (number fraction)
        | _ => none
    | 'e' :: s | 'E' :: s => (exponent? s).bind (number [])
    | _ => none

/-! ## Moments in time -/

def twoDigits : List Char → Step Nat
  | a :: b :: s =>
    if isDigit a && isDigit b then some (Decimal.value [a, b], s) else none
  | _ => none

def mark (c : Char) : List Char → Option (List Char)
  | d :: s => if d = c then some s else none
  | [] => none

def daysIn (year month : Nat) : Nat :=
  if month = 2 then
    if year % 4 = 0 ∧ (year % 100 ≠ 0 ∨ year % 400 = 0) then 29 else 28
  else if month = 4 ∨ month = 6 ∨ month = 9 ∨ month = 11 then 30 else 31

/-- Reads a day in the calendar, and gives it as it is written. -/
def date (s : List Char) : Option (List Char × List Char) := do
  let (century, s) ← twoDigits s
  let (years, s) ← twoDigits s
  let (month, s) ← twoDigits (← mark '-' s)
  let (day, s) ← twoDigits (← mark '-' s)
  let year := 100 * century + years
  if 1 ≤ month ∧ month ≤ 12 ∧ 1 ≤ day ∧ day ≤ daysIn year month then
    some (Decimal.padded 4 year ++ '-' :: Decimal.padded 2 month ++ '-' :: Decimal.padded 2 day, s)
  else none

def stripZeros (ds : List Char) : List Char :=
  (ds.reverse.dropWhile (· == '0')).reverse

/-- Reads a time of day, and gives it as it is written, to the nanosecond at most. -/
def clock (s : List Char) : Option (List Char × List Char) := do
  let (hour, s) ← twoDigits s
  let (minute, s) ← twoDigits (← mark ':' s)
  let (second, s) ← twoDigits (← mark ':' s)
  if 23 < hour ∨ 59 < minute ∨ 60 < second then none
  let written := Decimal.padded 2 hour ++ ':' :: Decimal.padded 2 minute ++ ':' ::
    Decimal.padded 2 second
  match s with
  | '.' :: rest =>
    let ds := Decimal.digits rest
    if ds.isEmpty then none
    let kept := stripZeros (ds.take 9)
    some (written ++ (if kept.isEmpty then [] else '.' :: kept), Decimal.afterDigits rest)
  | _ => some (written, s)

/-- The distance from universal time as it is written, at the end of a word. -/
def offset? (s : List Char) : Option (List Char) :=
  match s with
  | [] => some []
  | ['Z'] | ['z'] => some ['Z']
  | sign :: s => do
    if sign ≠ '+' ∧ sign ≠ '-' then none
    let (hours, s) ← twoDigits s
    let (minutes, s) ← twoDigits (← mark ':' s)
    if 23 < hours ∨ 59 < minutes ∨ !s.isEmpty then none
    let sign := if hours = 0 ∧ minutes = 0 then '+' else sign
    some (sign :: Decimal.padded 2 hours ++ ':' :: Decimal.padded 2 minutes)

/-- A word for a time of day, with or without a distance from universal time. -/
def clockAndOffset? (w : List Char) : Option (List Char) := do
  let (time, rest) ← clock w
  return time ++ (← offset? rest)

/-- A word for a moment in time: a day, a time of day, or both. -/
def moment? (w : List Char) : Option String :=
  match date w with
  | some (day, []) => some (String.ofList day)
  | some (day, c :: rest) =>
    if c = 'T' ∨ c = 't' then
      (clockAndOffset? rest).map fun time => String.ofList (day ++ 'T' :: time)
    else none
  | none =>
    match clock w with
    | some (time, []) => some (String.ofList time)
    | _ => none

end UserRegistry.Toml
