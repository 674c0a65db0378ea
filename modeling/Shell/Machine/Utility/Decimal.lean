import Shell.Machine.Utility.Numeral

/-! # Numbers with a point

Numbers with a fraction as programs read and write them. A number is rounded to a binary significand of a
given size when it is read and to a given count of decimal places when it is written; both times a tie goes to
the even neighbour.
-/

namespace Shell.Machine.Decimal

/-- A quotient rounded to the nearest whole number, to the even one of two that are as near. -/
def divideRounded (dividend divisor : Nat) : Nat :=
  let quotient := dividend / divisor
  let twice := 2 * (dividend % divisor)
  if divisor < twice || (twice = divisor && quotient % 2 = 1) then quotient + 1 else quotient

/-- A number that is not negative: a quotient of whole numbers. -/
structure Ratio where
  dividend : Nat
  divisor : Nat
deriving Repr, DecidableEq, Inhabited

namespace Ratio

def scale (base : Nat) (exponent : Int) (ratio : Ratio) : Ratio :=
  if 0 ≤ exponent then { ratio with dividend := ratio.dividend * Nat.pow base exponent.toNat }
  else { ratio with divisor := ratio.divisor * Nat.pow base (-exponent).toNat }

/-- The exponent that brings a ratio between one power of a base and the next one. -/
def magnitude (base : Nat) (ratio : Ratio) : Int :=
  let guess : Int :=
    (Nat.toDigits base ratio.dividend).length - (Nat.toDigits base ratio.divisor).length
  let scaled := ratio.scale base (-guess)
  if scaled.dividend < scaled.divisor then guess - 1 else guess

def roundBinary (digits : Nat) (ratio : Ratio) : Ratio :=
  if ratio.dividend = 0 then ratio
  else
    let shift : Int := ratio.magnitude 2 - (digits - 1)
    let scaled := ratio.scale 2 (-shift)
    Ratio.scale 2 shift ⟨divideRounded scaled.dividend scaled.divisor, 1⟩

end Ratio

/-- A number that has been read. -/
inductive Value where
  | finite (negative : Bool) (ratio : Ratio)
  | infinite (negative : Bool)
  | undefined (negative : Bool)
deriving Repr, DecidableEq, Inhabited

/-- The exponent after a letter, and what follows it. -/
def exponent (letter : Char) (text : List Char) : Int × List Char :=
  match text with
  | c :: rest =>
    if c.toLower ≠ letter then (0, text)
    else
      let (negative, rest) := Numeral.sign rest
      let (value, count, rest) := Numeral.digits 10 rest.length 0 0 rest
      if count = 0 then (0, text)
      else (if negative then -(value : Int) else value, rest)
  | [] => (0, [])

/-- Digits with a point among them: the digits as a number, how many there are, and how many follow the point. -/
def pointed (base : Nat) (text : List Char) : Nat × Nat × Nat × List Char :=
  let (whole, count, rest) := Numeral.digits base text.length 0 0 text
  match rest with
  | '.' :: after =>
    let (value, places, left) := Numeral.digits base after.length whole 0 after
    if count + places = 0 then (0, 0, 0, text) else (value, count + places, places, left)
  | _ => (whole, count, 0, rest)

/-- Whether a text starts with a word, whatever the size of its letters, and what follows it. -/
def startsWith? (word : String) (text : List Char) : Option (List Char) :=
  if String.ofList ((text.take word.length).map Char.toLower) = word then some (text.drop word.length)
  else none

/-- Reads a number at the start of a text, to so many binary digits. Also gives what follows it. -/
def read (precision : Nat) (text : String) : Option (Value × List Char) :=
  let (negative, chars) := Numeral.sign (text.toList.dropWhile Numeral.isBlank)
  match startsWith? "infinity" chars, startsWith? "inf" chars, startsWith? "nan" chars with
  | some rest, _, _ => some (.infinite negative, rest)
  | none, some rest, _ => some (.infinite negative, rest)
  | none, none, some rest => some (.undefined negative, rest)
  | none, none, none =>
    let finish (ratio : Ratio) (rest : List Char) : Option (Value × List Char) :=
      some (.finite negative (ratio.roundBinary precision), rest)
    match startsWith? "0x" chars with
    | some after =>
      let (value, count, places, rest) := pointed 16 after
      if count = 0 then finish ⟨0, 1⟩ (chars.drop 1)
      else
        let (power, rest) := exponent 'p' rest
        finish (Ratio.scale 2 (power - 4 * places) ⟨value, 1⟩) rest
    | none =>
      let (value, count, places, rest) := pointed 10 chars
      if count = 0 then none
      else
        let (power, rest) := exponent 'e' rest
        let power := max (-6000) (min 6000 power)
        finish (Ratio.scale 10 (power - places) ⟨value, 1⟩) rest

/-! ## Writing -/

/-- A ratio with so many decimal places. The point is left out if there are none, unless it is asked for. -/
def fixed (places : Nat) (keepsPoint : Bool) (ratio : Ratio) : String :=
  let scaled := ratio.scale 10 places
  let digits := Numeral.padLeft (places + 1) '0' (toString (divideRounded scaled.dividend scaled.divisor))
  let whole := (digits.take (digits.length - places)).toString
  let fraction := (digits.drop (digits.length - places)).toString
  if places = 0 then whole ++ (if keepsPoint then "." else "") else whole ++ "." ++ fraction

/-- The digits of a ratio, one of them before the point, and its power of ten. -/
def digitsAndPower (places : Nat) (ratio : Ratio) : String × Int :=
  if ratio.dividend = 0 then ("".pushn '0' (places + 1), 0)
  else
    let power := ratio.magnitude 10
    let scaled := ratio.scale 10 (places - power)
    let digits := toString (divideRounded scaled.dividend scaled.divisor)
    if digits.length = places + 1 then (digits, power)
    else ((digits.take (places + 1)).toString, power + 1)

/-- The power of ten at the end of a number. -/
def powerText (letter : Char) (power : Int) : String :=
  let sign := if power < 0 then "-" else "+"
  String.singleton letter ++ sign ++ Numeral.padLeft 2 '0' (toString power.natAbs)

/-- Digits with a point after the first one. -/
def withPoint (keepsPoint : Bool) (digits : String) : String :=
  let fraction := (digits.drop 1).toString
  (digits.take 1).toString ++
    if fraction.isEmpty then (if keepsPoint then "." else "") else "." ++ fraction

/-- A ratio as digits and a power of ten. -/
def scientific (letter : Char) (places : Nat) (keepsPoint : Bool) (ratio : Ratio) : String :=
  let (digits, power) := digitsAndPower places ratio
  withPoint keepsPoint digits ++ powerText letter power

/-- A text without the zeros at its end. -/
def trimZeros (text : String) : String :=
  (text.dropEndWhile (· = '0')).toString

/-- A ratio with so many digits in all, in whichever form is shorter. -/
def general (letter : Char) (precision : Nat) (keepsZeros : Bool) (ratio : Ratio) : String :=
  let precision := max precision 1
  let (digits, power) := digitsAndPower (precision - 1) ratio
  if power < -4 || (precision : Int) ≤ power then
    let digits := if keepsZeros then digits
      else (digits.take 1).toString ++ trimZeros (digits.drop 1).toString
    withPoint keepsZeros digits ++ powerText letter power
  else
    let text := fixed ((precision : Int) - 1 - power).toNat keepsZeros ratio
    if keepsZeros || !text.contains '.' then text
    else ((trimZeros text).dropEndWhile (· = '.')).toString

end Shell.Machine.Decimal

/-! ## Floating point

Numbers as machines calculate with them, and the exact numbers that they stand for. What is read is rounded to a
significand of 53 binary digits.
-/

namespace Shell.Machine.Double

/-- The bits of a significand, the highest one of which is not written down. -/
def digits : Nat := 53

def ofRatio (ratio : Decimal.Ratio) : Float :=
  if ratio.dividend = 0 then 0
  else
    let shift : Int := ratio.magnitude 2 - (digits - 1)
    let scaled := ratio.scale 2 (-shift)
    Float.scaleB (Float.ofNat (Decimal.divideRounded scaled.dividend scaled.divisor)) shift

/-- The float that is as great as a number. -/
def ofValue : Decimal.Value → Float
  | .finite negative ratio => if negative then -ofRatio ratio else ofRatio ratio
  | .infinite negative => if negative then -1.0 / 0.0 else 1.0 / 0.0
  | .undefined _ => 0.0 / 0.0

/-- The number that a float is, exactly. -/
def toValue (x : Float) : Decimal.Value :=
  let bits := x.toBits.toNat
  let negative := bits / Nat.pow 2 63 = 1
  let power := bits / Nat.pow 2 52 % 2048
  let fraction := bits % Nat.pow 2 52
  if power = 2047 then if fraction = 0 then .infinite negative else .undefined negative
  else if power = 0 then .finite negative (Decimal.Ratio.scale 2 (-1074) ⟨fraction, 1⟩)
  else .finite negative (Decimal.Ratio.scale 2 ((power : Int) - 1075) ⟨fraction + Nat.pow 2 52, 1⟩)

/-- A float without its fraction. -/
def truncate (x : Float) : Float :=
  if x < 0 then x.ceil else x.floor

/-- The whole number that a float is nearest to on the side of zero. Nothing for what is no number or has no end. -/
def whole? (x : Float) : Option Int :=
  match toValue x with
  | .finite negative ratio =>
    let size : Nat := ratio.dividend / ratio.divisor
    some (if negative then -(size : Int) else size)
  | _ => none

/-- A float as a whole number between two others. What is no number counts as the lower one. -/
def clamp (low high : Int) (x : Float) : Int :=
  match toValue x with
  | .infinite negative => if negative then low else high
  | .undefined _ => low
  | .finite _ _ => max low (min high ((whole? x).getD 0))

/-- What is left of a float when another one is taken away from it as often as possible. The sign stays. -/
def remainder (x y : Float) : Float :=
  match toValue x, toValue y with
  | .finite negative one, .finite _ other =>
    if other.dividend = 0 then 0.0 / 0.0
    else
      let divisor := one.divisor * other.divisor
      let rest := one.dividend * other.divisor % (other.dividend * one.divisor)
      ofValue (.finite negative ⟨rest, divisor⟩)
  | .finite _ _, .infinite _ => x
  | _, _ => 0.0 / 0.0

/-- So many decimal digits make up a number that a float can hold. -/
def safeDigits : Nat := 15

/-- Reads a float at the start of a text. Also gives what follows it. -/
def read (text : String) : Option (Float × List Char) :=
  let (value, count, rest) := Numeral.digits 10 text.length 0 0 text.toList
  if 0 < count && count ≤ safeDigits && rest.isEmpty then some (Float.ofNat value, [])
  else (Decimal.read digits text).map fun (value, rest) => (ofValue value, rest)

end Shell.Machine.Double
