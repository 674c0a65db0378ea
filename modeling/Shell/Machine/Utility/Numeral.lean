/-! # Numerals

Numbers as programs read them at the start of a text, and as they write them in different bases. A whole number
may have a sign, and a leading `0` or `0x` names its base.
-/

namespace Shell.Machine.Numeral

/-- The value of a digit in a base, if it is one. -/
def digit? (base : Nat) (c : Char) : Option Nat :=
  let value? :=
    if c.isDigit then some (c.toNat - '0'.toNat)
    else if 'a' ≤ c && c ≤ 'z' then some (c.toNat - 'a'.toNat + 10)
    else if 'A' ≤ c && c ≤ 'Z' then some (c.toNat - 'A'.toNat + 10)
    else none
  value?.filter (· < base)

/-- At most so many digits at the start of a text: their value, their count, and what follows them. -/
def digits (base : Nat) : Nat → Nat → Nat → List Char → Nat × Nat × List Char
  | 0, value, count, rest => (value, count, rest)
  | _ + 1, value, count, [] => (value, count, [])
  | most + 1, value, count, c :: rest =>
    match digit? base c with
    | some digit => digits base most (value * base + digit) (count + 1) rest
    | none => (value, count, c :: rest)

/-- True for the blanks that may come before a number. -/
def isBlank (c : Char) : Bool :=
  " \t\n\r\x0b\x0c".contains c

/-- A sign at the start of a text: whether it is a minus, and what follows. -/
def sign : List Char → Bool × List Char
  | '-' :: rest => (true, rest)
  | '+' :: rest => (false, rest)
  | text => (false, text)

/-- A number that has been read. -/
structure Reading where
  value : Int
  /-- What follows the number. -/
  rest : List Char
  /-- Whether there was no number at all. -/
  isEmpty : Bool
deriving Repr, DecidableEq, Inhabited

/-- The base that a text without a sign is in, and its digits. -/
def baseOf : List Char → Nat × List Char
  | '0' :: x :: c :: rest =>
    if (x = 'x' || x = 'X') && (digit? 16 c).isSome then (16, c :: rest) else (8, '0' :: x :: c :: rest)
  | '0' :: rest => (8, '0' :: rest)
  | text => (10, text)

/-- Reads a whole number at the start of a text. Without a base the text names it itself. -/
def readInt (base : Option Nat) (text : String) : Reading :=
  let (negative, chars) := sign (text.toList.dropWhile isBlank)
  let (base, chars) := match base with
    | some base => (base, chars)
    | none => baseOf chars
  let (value, count, rest) := digits base chars.length 0 0 chars
  if count = 0 then { value := 0, rest := text.toList, isEmpty := true }
  else { value := if negative then -(value : Int) else value, rest, isEmpty := false }

/-- The number that a text is in full, in base ten. -/
def whole? (text : String) : Option Int :=
  let reading := readInt (some 10) text
  if !reading.isEmpty && reading.rest.all isBlank then some reading.value else none

/-- The number without a sign that a text is in full, in base ten. -/
def natural? (text : String) : Option Nat :=
  if text.isEmpty || !text.all Char.isDigit then none else text.toNat?

/-- The digits of a number in a base, in small letters. -/
def inBase (base value : Nat) : String :=
  String.ofList (Nat.toDigits base value)

/-- A text of at least so many characters, with others before it. -/
def padLeft (width : Nat) (filler : Char) (text : String) : String :=
  "".pushn filler (width - text.length) ++ text

/-- A text of at least so many characters, with blanks after it. -/
def padRight (width : Nat) (text : String) : String :=
  text.pushn ' ' (width - text.length)

end Shell.Machine.Numeral
