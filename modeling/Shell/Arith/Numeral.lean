import Shell.Text.Space

/-! # Numerals

How integers are written: hexadecimal after `0x`, octal after a further `0`, decimal otherwise, with at most
one sign. `Numeral.read?` takes such text to a word and `Numeral.render` writes a word in decimal.
-/

namespace Shell.Arith.Numeral

/-- The value of a digit in a base of at most sixteen. -/
def digit? (base : Nat) (c : Char) : Option Nat :=
  let value :=
    if '0' ≤ c && c ≤ '9' then some (c.toNat - '0'.toNat)
    else if 'a' ≤ c && c ≤ 'f' then some (c.toNat - 'a'.toNat + 10)
    else if 'A' ≤ c && c ≤ 'F' then some (c.toNat - 'A'.toNat + 10)
    else none
  value.filter (· < base)

/-- Continues a number with further digits. -/
def accumulate (base : Nat) : Nat → List Char → Option Nat
  | sofar, [] => some sofar
  | sofar, c :: rest =>
    match digit? base c with
    | some d => accumulate base (sofar * base + d) rest
    | none => none

/-- One or more digits. -/
def digits? (base : Nat) : List Char → Option Nat
  | [] => none
  | c :: rest => accumulate base 0 (c :: rest)

/-- A numeral without a sign. -/
def unsigned? : List Char → Option Nat
  | '0' :: 'x' :: rest => digits? 16 rest
  | '0' :: 'X' :: rest => digits? 16 rest
  | '0' :: d :: rest => digits? 8 (d :: rest)
  | text => digits? 10 text

/-- The word for an integer in range. -/
def word? (n : Int) : Option Int64 :=
  if Int64.minValue.toInt ≤ n ∧ n ≤ Int64.maxValue.toInt then some (Int64.ofInt n) else none

/-- Reads a numeral with an optional sign. White space around it does not matter. -/
def read? (text : List Char) : Option Int64 :=
  match Text.trim text with
  | '-' :: rest => (unsigned? rest).bind fun n => word? (-(n : Int))
  | '+' :: rest => (unsigned? rest).bind fun n => word? n
  | rest => (unsigned? rest).bind fun n => word? n

/-- The digit for a number below ten. -/
def digitChar (n : Nat) : Char :=
  Char.ofNat ('0'.toNat + n)

/-- The decimal digits of a number, the most significant first. -/
def digits (n : Nat) : List Char :=
  if n < 10 then [digitChar n] else digits (n / 10) ++ [digitChar (n % 10)]

/-- The decimal digits of an integer, after a minus sign if it is negative. -/
def signedDigits (n : Int) : List Char :=
  if n < 0 then '-' :: digits n.natAbs else digits n.natAbs

/-- A word in decimal. -/
def render (n : Int64) : String :=
  String.ofList (signedDigits n.toInt)

end Shell.Arith.Numeral
