import Shell.Machine.Tools.Perl.Words
import Shell.Machine.Utility.Format

/-! # Values of general programs

What variables hold: numbers, texts and references. A text counts as the number that it begins with, and a number as
the shortest text that fifteen digits allow.
-/

namespace Shell.Machine.Perl

/-- What a reference leads to. -/
inductive Target where
  | cell (id : Nat)
  | array (id : Nat)
  | hash (id : Nat)
  | code (id : Nat)
  | handle (id : Nat)
  | pattern (id : Nat)
deriving Repr, DecidableEq, Inhabited, Hashable

namespace Target

def sort : Target → String
  | cell _ => "SCALAR"
  | array _ => "ARRAY"
  | hash _ => "HASH"
  | code _ => "CODE"
  | handle _ => "GLOB"
  | pattern _ => "Regexp"

/-- A number that no other target has. -/
def address : Target → Nat
  | cell id => 94000000000000 + id * 64
  | array id => 94000000000008 + id * 64
  | hash id => 94000000000016 + id * 64
  | code id => 94000000000024 + id * 64
  | handle id => 94000000000032 + id * 64
  | pattern id => 94000000000040 + id * 64

end Target

/-- A value. -/
inductive Value where
  | undefined
  | whole (value : Int)
  | decimal (value : Float)
  | string (text : String)
  /-- Something that counts as a number but reads otherwise. -/
  | dual (number : Int) (text : String)
  | reference (target : Target)
deriving Repr, Inhabited

namespace Value

def truth (holds : Bool) : Value := if holds then .whole 1 else .dual 0 ""

def ofNat (number : Nat) : Value := .whole number

/-- True for all values but the undefined one. -/
def isDefined : Value → Bool
  | undefined => false
  | _ => true

/-- The least whole number that is kept as one. -/
def leastWhole : Int := -9223372036854775808

/-- A whole number if it is not too great, and a decimal one otherwise. -/
def ofInt (value : Int) : Value :=
  if leastWhole ≤ value && value ≤ greatestWhole then .whole value
  else .decimal (Double.ofValue (.finite (value < 0) ⟨value.natAbs, 1⟩))

/-- A decimal number as text. -/
def decimalText (value : Float) : String :=
  match Double.toValue value with
  | .undefined _ => "NaN"
  | .infinite negative => if negative then "-Inf" else "Inf"
  | exact =>
    let layout : Format.Layout := { precision := some 15 }
    let text := layout.decimal 'g' exact
    if text = "-0" then "0" else text

/-- The number that a text begins with, and whether that is all of it. -/
def readNumber (text : String) : Value × Bool :=
  let chars := text.toList.dropWhile Char.isWhitespace
  let (sign, digits) := match chars with
    | '-' :: rest => (['-'], rest)
    | '+' :: rest => ([], rest)
    | rest => ([], rest)
  let whole := digits.takeWhile Char.isDigit
  let rest := digits.drop whole.length
  let isPlain := match rest with
    | '.' :: _ => false
    | 'e' :: _ | 'E' :: _ => whole.isEmpty
    | _ => true
  let atEnd (rest : List Char) : Bool := rest.all Char.isWhitespace
  if isPlain && !whole.isEmpty then
    let size : Int := (String.ofList whole).toNat?.getD 0
    (ofInt (if sign.isEmpty then size else -size), atEnd rest)
  else
    let lowered := digits.map Char.toLower
    let signed (value : Float) : Value := .decimal (if sign.isEmpty then value else -value)
    if lowered.take 3 = "inf".toList then
      let rest := if lowered.take 8 = "infinity".toList then digits.drop 8 else digits.drop 3
      (signed (1.0 / 0.0), atEnd rest)
    else if lowered.take 3 = "nan".toList then (.decimal (0.0 / 0.0), atEnd (digits.drop 3))
    else
      let fraction := match rest with
        | '.' :: after => '.' :: after.takeWhile Char.isDigit
        | _ => []
      if whole.isEmpty && fraction.length ≤ 1 then (.whole 0, false)
      else
        let after := rest.drop fraction.length
        let power := match after with
          | e :: sign :: more =>
            if e = 'e' || e = 'E' then
              if (sign = '+' || sign = '-') && more.head?.any Char.isDigit then
                e :: sign :: more.takeWhile Char.isDigit
              else if sign.isDigit then e :: (sign :: more).takeWhile Char.isDigit
              else []
            else []
          | _ => []
        let text := String.ofList ((if whole.isEmpty then ['0'] else whole) ++ fraction ++ power)
        (signed (((Double.read text).map (·.1)).getD 0), atEnd (after.drop power.length))

/-- True for text that looks like a number. -/
def looksNumeric : Value → Bool
  | undefined => false
  | string text => (readNumber text).2
  | reference _ => false
  | _ => true

def number : Value → Value
  | undefined => .whole 0
  | whole value => .whole value
  | decimal value => .decimal value
  | string text => (readNumber text).1
  | dual value _ => .whole value
  | reference target => .whole target.address

/-- A value as a number with a fraction. -/
def float (value : Value) : Float :=
  match value.number with
  | whole value => if value < 0 then -(Float.ofNat value.natAbs) else Float.ofNat value.toNat
  | decimal value => value
  | _ => 0

/-- A value as a whole number, without its fraction. -/
def int (value : Value) : Int :=
  match value.number with
  | whole value => value
  | decimal value => Double.clamp leastWhole greatestWhole value
  | _ => 0

/-- A value as a number that is not negative. -/
def nat (value : Value) : Nat := value.int.toNat

/-- The text of a value that is no reference. -/
def plainText : Value → String
  | undefined => ""
  | whole value => toString value
  | decimal value => decimalText value
  | string text => text
  | dual _ text => text
  | reference target => target.sort ++ "(0x" ++ Numeral.inBase 16 target.address ++ ")"

/-- Whether a value counts as true. -/
def holds : Value → Bool
  | undefined => false
  | whole value => value ≠ 0
  | decimal value => value != 0
  | string text => text ≠ "" && text ≠ "0"
  | dual _ text => text ≠ "" && text ≠ "0"
  | reference _ => true

/-- A decimal number, as a whole one if it is one and not too great. -/
def ofFloat (value : Float) : Value := .decimal value

/-! ## Calculating -/

/-- What comes of two numbers by an operation on whole ones and on others. -/
def calculate (exact : Int → Int → Int) (near : Float → Float → Float) (left right : Value) : Value :=
  match left.number, right.number with
  | whole one, whole other => ofInt (exact one other)
  | one, other => .decimal (near one.float other.float)

def power (left right : Value) : Value :=
  match left.number, right.number with
  | whole base, whole exponent =>
    if 0 ≤ exponent && exponent ≤ 64 * 64 && (base.natAbs ≤ 1 || exponent ≤ 64) then
      let size := Nat.pow base.natAbs exponent.toNat
      let value : Int := if base < 0 && exponent % 2 = 1 then -(size : Int) else size
      ofInt value
    else .decimal (Float.pow left.float right.float)
  | _, _ => .decimal (Float.pow left.float right.float)

/-- A quotient; the divisor is not zero. -/
def quotient (left right : Value) : Value :=
  match left.number, right.number with
  | whole one, whole other =>
    if Int.tmod one other = 0 then ofInt (Int.tdiv one other) else .decimal (left.float / right.float)
  | _, _ => .decimal (left.float / right.float)

/-- A value as a word of 64 bits. -/
def bits (value : Value) : Nat := (value.int % 18446744073709551616).toNat

/-- The order of two numbers. Nothing means that there is none. -/
def numberOrder (left right : Value) : Option Ordering :=
  match left.number, right.number with
  | whole one, whole other => some (compare one other)
  | _, _ =>
    let one := left.float
    let other := right.float
    if one < other then some .lt else if one == other then some .eq else if other < one then some .gt else none

/-- The text after another one, where letters and digits are counted up from the end. -/
def textAfter (text : String) : String :=
  let rec up : List Char → List Char × Bool
    | [] => ([], true)
    | c :: rest =>
      let (rest, carries) := up rest
      if !carries then (c :: rest, false)
      else if c = 'z' then ('a' :: rest, true)
      else if c = 'Z' then ('A' :: rest, true)
      else if c = '9' then ('0' :: rest, true)
      else (Char.ofNat (c.toNat + 1) :: rest, false)
  let (chars, carries) := up text.toList
  if !carries then String.ofList chars
  else
    let first := match text.toList.head? with
      | some c => if c.isDigit then '1' else if c.isUpper then 'A' else 'a'
      | none => '1'
    String.ofList (first :: chars)

def countsAsText (text : String) : Bool :=
  let letters := text.toList.dropWhile Char.isAlpha
  text ≠ "" && letters.all Char.isDigit && (text.toList.head?.any Char.isAlpha)

/-- The value after another one. -/
def successor (value : Value) : Value :=
  match value with
  | string text =>
    if countsAsText text then .string (textAfter text)
    else calculate (· + ·) (· + ·) value (.whole 1)
  | value => calculate (· + ·) (· + ·) value (.whole 1)

def textsUpTo (last : String) : Nat → String → List String → List String
  | 0, _, sofar => sofar.reverse
  | fuel + 1, text, sofar =>
    if text = last then (text :: sofar).reverse
    else if last.length < text.length then sofar.reverse
    else textsUpTo last fuel (textAfter text) (text :: sofar)

def range (first last : Value) : List Value :=
  let isText (value : Value) : Bool := match value with
    | string text => text ≠ "" && !(readNumber text).2
    | _ => false
  let startsWithZero := match first with
    | string text => text.startsWith "0" && 1 < text.length
    | _ => false
  if isText first || (startsWithZero && !(last matches .whole _)) then
    (textsUpTo last.plainText 1000000 first.plainText []).map Value.string
  else
    let low := first.int
    (List.range (last.int + 1 - low).toNat).map fun (place : Nat) => Value.whole (low + place)

end Value

/-! ## Formats -/

/-- The layout of a conversion, given the numbers for stars, and what comes after it. -/
def layoutOf (text : List Char) (stars : List Int) : Format.Layout × Nat × List Char :=
  let (layout, rest) := Format.Printer.flags {} text
  let number (stars : List Int) : List Char → Option Int × List Int × List Char
    | '*' :: rest => (some (stars.headD 0), stars.drop 1, rest)
    | rest =>
      let (value, count, rest) := Numeral.digits 10 rest.length 0 0 rest
      (if count = 0 then none else some (value : Int), stars, rest)
  let before := stars.length
  let (width, stars, rest) := number stars rest
  let width := width.getD 0
  let layout := { layout with left := layout.left || width < 0, width := width.natAbs }
  let (layout, stars, rest) := match rest with
    | '.' :: rest =>
      let (precision, stars, rest) := number stars rest
      let precision := precision.getD 0
      ({ layout with precision := if precision < 0 then none else some precision.toNat }, stars, rest)
    | _ => (layout, stars, rest)
  (layout, before - stars.length, rest.dropWhile fun c => c = 'l' || c = 'h' || c = 'L' || c = 'q' || c = 'V')

def formatNumber (layout : Format.Layout) (letter : Char) (value : Value) : String :=
  if letter = 'd' || letter = 'i' then
    match value.number with
    | .decimal number =>
      if number != number then layout.pad "-1" else layout.signed value.int
    | _ => layout.signed value.int
  else if letter = 'b' || letter = 'B' then
    let zeros := layout.zeros && layout.precision.isNone
    let start := if layout.alternate && value.bits ≠ 0 then String.ofList ['0', letter] else ""
    layout.padNumber zeros start (layout.digits (Numeral.inBase 2 value.bits))
  else if "ouxX".contains letter then layout.unsigned letter value.bits
  else
    match Double.toValue value.float with
    | .undefined _ => layout.pad "NaN"
    | .infinite negative => layout.pad (layout.sign negative ++ "Inf")
    | exact => layout.decimal letter exact

/-- Texts as a format says. `textOf` gives the text of a value. -/
def formatWith {m : Type → Type} [Monad m] (textOf : Value → m String) :
    Nat → List Char → List Value → String → m String
  | 0, _, _, sofar => return sofar
  | _, [], _, sofar => return sofar
  | fuel + 1, '%' :: '%' :: rest, values, sofar => formatWith textOf fuel rest values (sofar.push '%')
  | fuel + 1, '%' :: rest, values, sofar => do
    let (_, _, after) := layoutOf rest []
    let stars := ((rest.take (rest.length - after.length)).filter (· = '*')).length
    let (layout, _, _) := layoutOf rest ((values.take stars).map Value.int)
    let values := values.drop stars
    match after with
    | [] => return sofar ++ String.ofList ('%' :: rest)
    | letter :: after =>
      let value := values.headD .undefined
      if letter = 's' then
        let text ← textOf value
        formatWith textOf fuel after (values.drop 1) (sofar ++ layout.text text)
      else if letter = 'c' then
        let char := String.singleton (Char.ofNat (value.nat % 256))
        formatWith textOf fuel after (values.drop 1) (sofar ++ layout.pad char)
      else if "dioxXufFeEgGbBU".contains letter then
        formatWith textOf fuel after (values.drop 1) (sofar ++ formatNumber layout letter value)
      else if letter = 'v' then
        let shown ← textOf value
        let numbers := shown.toList.map fun c => toString c.toNat
        formatWith textOf fuel (after.drop 1) (values.drop 1) (sofar ++ layout.pad (".".intercalate numbers))
      else
        let shown := rest.take (rest.length - after.length)
        formatWith textOf fuel after values (sofar ++ String.ofList ('%' :: shown))
  | fuel + 1, c :: rest, values, sofar => formatWith textOf fuel rest values (sofar.push c)

end Shell.Machine.Perl
