import Shell.Machine.Tools.Lines
import Shell.Machine.Utility.Decimal

/-! # Programs for numbers

Programs that divide numbers into primes and that write numbers with units.
-/

namespace Shell.Machine

/-! ## Primes -/

namespace Primes

/-- A power in the arithmetic of remainders; the exponent has at most so many binary digits. -/
def powerMod (modulus : Nat) : Nat → Nat → Nat → Nat → Nat
  | 0, _, _, result => result
  | digits + 1, base, exponent, result =>
    if exponent = 0 then result
    else
      powerMod modulus digits (base * base % modulus) (exponent / 2)
        (if exponent % 2 = 1 then result * base % modulus else result)

/-- The odd part of a number and how often two divides it. -/
def oddPart : Nat → Nat → Nat → Nat × Nat
  | 0, value, twos => (value, twos)
  | fuel + 1, value, twos =>
    if value ≠ 0 && value % 2 = 0 then oddPart fuel (value / 2) (twos + 1) else (value, twos)

/-- True when squaring so often at most leads to minus one. -/
def reachesMinusOne (modulus : Nat) : Nat → Nat → Bool
  | 0, _ => false
  | squares + 1, value =>
    value + 1 = modulus || reachesMinusOne modulus squares (value * value % modulus)

/-- The bases that tell primes from other numbers below ten to the power of 24. -/
def bases : List Nat := [2, 3, 5, 7, 11, 13, 17, 19, 23, 29, 31, 37, 41]

/-- True for numbers that no base tells from a prime. -/
def isPrime (value : Nat) : Bool :=
  if value < 2 then false
  else if bases.contains value then true
  else if bases.any fun base => value % base = 0 then false
  else
    let (odd, twos) := oddPart (value.log2 + 1) (value - 1) 0
    bases.all fun base =>
      let power := powerMod value (value.log2 + 1) base odd 1
      power = 1 || reachesMinusOne value twos power

/-- Looks for a divisor along a sequence of remainders, one place of which moves twice as fast as the other. -/
def walk (value step : Nat) : Nat → Nat → Nat → Option Nat
  | 0, _, _ => none
  | fuel + 1, slow, fast =>
    let advance (x : Nat) : Nat := (x * x + step) % value
    let slow := advance slow
    let fast := advance (advance fast)
    let common := Nat.gcd (if slow < fast then fast - slow else slow - fast) value
    if common = 1 then walk value step fuel slow fast
    else if common = value then none else some common

/-- A divisor of a number that is no prime. -/
def divisor (value : Nat) : Nat :=
  if value % 2 = 0 then 2
  else
    let fuel := 4 * root (root value) + 1000
    ((List.range 40).findSome? fun step => walk value (step + 1) fuel 2 2).getD value
where
  /-- The whole part of a square root. -/
  root (value : Nat) : Nat :=
    let rec go : Nat → Nat → Nat
      | 0, guess => guess
      | fuel + 1, guess =>
        let next := (guess + value / guess) / 2
        if next < guess then go fuel next else guess
    if value < 2 then value else go (value.log2 + 2) (Nat.pow 2 (value.log2 / 2 + 1))

/-- The prime factors of a number, in no order. -/
def split : Nat → Nat → List Nat
  | 0, value => [value]
  | fuel + 1, value =>
    if value < 2 then []
    else if isPrime value then [value]
    else
      let part := divisor value
      if part = value then [value] else split fuel part ++ split fuel (value / part)

/-- The prime factors of a number in ascending order. -/
def factors (value : Nat) : List Nat :=
  (split (value.log2 + 1) value).mergeSort

end Primes

/-! ## Units -/

namespace Units

/-- A number that may be negative. -/
structure Signed where
  negative : Bool
  ratio : Decimal.Ratio
deriving Repr, DecidableEq, Inhabited

/-- The ways to write units. -/
inductive Scale where
  | none
  | automatic
  | decimal
  | binary
  /-- With a letter that marks it as binary. -/
  | marked
deriving Repr, DecidableEq, Inhabited

def Scale.names : List (String × Scale) :=
  [("none", .none), ("auto", .automatic), ("si", .decimal), ("iec", .binary), ("iec-i", .marked)]

/-- How many of one unit make up the next. -/
def Scale.base : Scale → Nat
  | .decimal => 1000
  | _ => 1024

def letters : List Char := "KMGTPEZY".toList

/-- How numbers are rounded. -/
inductive Rounding where
  | up
  | down
  | fromZero
  | towardsZero
  | nearest
deriving Repr, DecidableEq, Inhabited

def Rounding.names : List (String × Rounding) := [
  ("up", .up), ("down", .down), ("from-zero", .fromZero), ("towards-zero", .towardsZero), ("nearest", .nearest)]

/-- A number rounded to a whole one, its sign left aside. -/
def Rounding.round (rounding : Rounding) (value : Signed) : Nat :=
  let ratio := value.ratio
  let low := ratio.dividend / ratio.divisor
  let high := (ratio.dividend + ratio.divisor - 1) / ratio.divisor
  match rounding with
  | .up => if value.negative then low else high
  | .down => if value.negative then high else low
  | .fromZero => high
  | .towardsZero => low
  | .nearest => if ratio.divisor ≤ 2 * (ratio.dividend % ratio.divisor) then low + 1 else low

def roundPlaces (rounding : Rounding) (places : Nat) (value : Signed) : Decimal.Ratio :=
  let scaled : Signed := { value with ratio := value.ratio.scale 10 places }
  ⟨rounding.round scaled, Nat.pow 10 places⟩

/-- The power of a base that brings a number below the base. -/
def powerOf (base : Nat) : Nat → Decimal.Ratio → Nat
  | 0, _ => 0
  | fuel + 1, ratio =>
    if ratio.dividend < base * ratio.divisor then 0
    else powerOf base fuel { ratio with divisor := ratio.divisor * base } + 1

/-- A number as text with a unit. -/
def write (scale : Scale) (rounding : Rounding) (places : Option Nat) (own : Nat) (value : Signed) : String :=
  let sign := if value.negative && value.ratio.dividend ≠ 0 then "-" else ""
  match scale with
  | .none =>
    let places := places.getD own
    sign ++ Decimal.fixed places false (roundPlaces rounding places value)
  | _ =>
    let base := scale.base
    let power := powerOf base 8 value.ratio
    let small : Decimal.Ratio := { value.ratio with divisor := value.ratio.divisor * Nat.pow base power }
    let adjust := match places with
      | some places => min (power * 3) places
      | none => if small.dividend < 10 * small.divisor then 1 else 0
    let rounded := roundPlaces rounding adjust { value with ratio := small }
    let isOver := base * rounded.divisor ≤ rounded.dividend
    let rounded : Decimal.Ratio :=
      if isOver then { rounded with divisor := rounded.divisor * base } else rounded
    let power := if isOver then power + 1 else power
    let showsPlace := rounded.dividend ≠ 0 && rounded.dividend < 10 * rounded.divisor && power ≠ 0
    let unit := if power = 0 then "" else
      String.singleton (letters.getD (power - 1) '?') ++ (if scale = .marked then "i" else "")
    sign ++ Decimal.fixed (places.getD (if showsPlace then 1 else 0)) false rounded ++ unit

/-- Reads a number with a unit: its value and how many places it has, or a report. -/
def read (scale : Scale) (text : String) : Except String (Signed × Nat) :=
  let (negative, chars) := match text.toList with
    | '-' :: rest => (true, rest)
    | '+' :: rest => (false, rest)
    | chars => (false, chars)
  let (value, count, places, rest) := Decimal.pointed 10 chars
  let invalid : Except String (Signed × Nat) := .error ("invalid number: " ++ Quote.text text)
  if count = 0 then invalid
  else
    -- With a unit, the places do not count any more.
    let scaled (factor : Nat) : Except String (Signed × Nat) :=
      .ok ({ negative, ratio := ⟨value * factor, Nat.pow 10 places⟩ }, if factor = 1 then places else 0)
    match rest with
    | [] => scaled 1
    | c :: after =>
      match letters.idxOf? c.toUpper with
      | none => .error ("invalid suffix in input: " ++ Quote.text text)
      | some place =>
        let power (base : Nat) : Nat := Nat.pow base (place + 1)
        match scale, after with
        | .none, _ =>
          .error ("rejecting suffix in input: " ++ Quote.text text ++ " (consider using --from)")
        | .automatic, [] | .decimal, [] => scaled (power 1000)
        | .automatic, ['i'] | .marked, ['i'] | .binary, [] => scaled (power 1024)
        | .marked, [] => .error ("missing 'i' suffix in input: " ++ Quote.text text ++ " (e.g Ki/Mi/Gi)")
        | _, _ => .error ("invalid suffix in input " ++ Quote.text text ++ ": " ++ Quote.text (String.ofList after))

end Units

namespace ToolM

/-- Writes the prime factors of a number. -/
def printFactors (exponents : Bool) (text : String) : ToolM Unit := do
  let digits := (text.toList.dropWhile Numeral.isBlank)
  let digits := match digits with
    | '+' :: rest => rest
    | digits => digits
  match Numeral.natural? (String.ofList digits) with
  | none => complain (Quote.text text ++ " is not a valid positive integer")
  | some value =>
    let factors := Primes.factors value
    let distinct := factors.eraseDups
    let shown := if exponents then
        distinct.map fun factor =>
          let count := factors.count factor
          toString factor ++ (if count = 1 then "" else "^" ++ toString count)
      else factors.map toString
    print (toString value ++ ":" ++ String.join (shown.map (" " ++ ·)) ++ "\n")

/-- Writes the prime factors of numbers. -/
def factor : ToolM Unit := do
  let arguments ← readArguments 1 false ["h,exponents", ",-debug"]
  let exponents := arguments.has "h"
  if arguments.operands.isEmpty then
    let (text, _) ← readAll 0
    for word in (text.split Numeral.isBlank).toList.map (·.toString) do
      if !word.isEmpty then printFactors exponents word
  else arguments.operands.forM (printFactors exponents)

/-- How numbers are to be written. -/
structure NumberPlan where
  source : Units.Scale
  target : Units.Scale
  sourceUnit : Nat
  targetUnit : Nat
  rounding : Units.Rounding
  suffix : String
  /-- The width, and whether the number stands on the left. -/
  width : Option (Nat × Bool)
  places : Option Nat
  /-- The texts around the number. -/
  around : String × String
  zeros : Bool
  fields : String
  delimiter : Option Char
  /-- What is done with what is no number: `abort`, `fail`, `warn` or `ignore`. -/
  invalid : String

/-- A field with a number as it is to be written. -/
def numberField (plan : NumberPlan) (isFirst : Bool) (text : String) : ToolM String := do
  let body := (text.dropWhile Numeral.isBlank).toString
  let ownWidth := if plan.delimiter.isNone && (body.length < text.length || !isFirst) then text.length else 0
  let number := if !plan.suffix.isEmpty && body.endsWith plan.suffix then
      (body.dropEnd plan.suffix.length).toString else body
  match Units.read plan.source number with
  | .error report_ =>
    match plan.invalid with
    | "abort" => fail 2 report_
    | "ignore" => return text
    | kind =>
      flush
      report report_
      if kind = "fail" then modify fun tool => { tool with status := 2 }
      return text
  | .ok (value, places) =>
    let ratio : Decimal.Ratio :=
      ⟨value.ratio.dividend * plan.sourceUnit, value.ratio.divisor * plan.targetUnit⟩
    let shown := Units.write plan.target plan.rounding plan.places places { value with ratio } ++ plan.suffix
    let padded := match plan.width with
      | some (width, true) => Numeral.padRight width shown
      | some (width, false) => Numeral.padLeft width (if plan.zeros then '0' else ' ') shown
      | none => Numeral.padLeft ownWidth ' ' shown
    return plan.around.1 ++ padded ++ plan.around.2

/-- Divides a line into fields. A blank that separates fields is left out, others stay. -/
def numberFields (delimiter : Option Char) (line : String) : List String :=
  match delimiter with
  | some c => line.splitOn (String.singleton c)
  | none =>
    let rec go : Nat → List Char → List String
      | 0, _ => []
      | fuel + 1, chars =>
        let blanks := chars.takeWhile Numeral.isBlank
        let rest := chars.drop blanks.length
        let word := rest.takeWhile (!Numeral.isBlank ·)
        let after := rest.drop word.length
        String.ofList (blanks ++ word) :: (match after with
          | [] => []
          | _ :: after => go fuel after)
    go (line.length + 1) line.toList

def printNumbers (plan : NumberPlan) (picks : Nat → Bool) (line : String) : ToolM Unit := do
  let fields := numberFields plan.delimiter line
  let changed ← fields.zipIdx.mapM fun (field, place) =>
    if picks (place + 1) then numberField plan (place == 0) field else pure field
  print ((String.singleton (plan.delimiter.getD ' ')).intercalate changed ++ "\n")

/-- What a format asks for: texts around, zeros, width and places. -/
def numberFormat? (format : String) :
    Option ((String × String) × Bool × Option (Nat × Bool) × Option Nat) := do
  let (before, rest) := format.toList.span (· ≠ '%')
  let rest ← match rest with
    | '%' :: rest => some rest
    | _ => none
  let flags := rest.takeWhile fun c => "0'- ".contains c
  let (width, count, rest) := Numeral.digits 10 9 0 0 (rest.drop flags.length)
  let (places, rest) := match rest with
    | '.' :: rest =>
      let (places, _, rest) := Numeral.digits 10 9 0 0 rest
      (some places, rest)
    | rest => (none, rest)
  match rest with
  | 'f' :: after =>
    let width := if count = 0 then none else some (width, flags.contains '-')
    some ((String.ofList before, String.ofList after), flags.contains '0', width, places)
  | _ => none

/-- The one of some things that an option names. -/
def namedChoice {α : Type} (arguments : Arguments) (name : String) (default : α) (choices : List (String × α)) :
    ToolM α := do
  match arguments.value? name with
  | none => return default
  | some text =>
    match choices.lookup text with
    | some choice => return choice
    | none =>
      report ("invalid argument " ++ Quote.text text ++ " for '--" ++ name ++ "'")
      explainChoices (choices.map (·.1))
      advise 1

/-- Writes numbers with units, or without them. -/
def numfmt : ToolM Unit := do
  let arguments ← readArguments 1 true
    [",from,:", ",to,:", ",from-unit,:", ",to-unit,:", ",round,:", ",suffix,:", ",padding,:", ",format,:",
      ",grouping", ",header,?", ",field,:", "d,delimiter,:", ",invalid,:", "z,zero-terminated", ",debug"]
  let source ← namedChoice arguments "from" .none Units.Scale.names
  let target ← namedChoice arguments "to" .none (Units.Scale.names.filter fun entry => entry.1 ≠ "auto")
  let rounding ← namedChoice arguments "round" .fromZero Units.Rounding.names
  let unit (name : String) : ToolM Nat := do
    match arguments.value? name with
    | none => return 1
    | some text =>
      match countFrom? text with
      | some { count, .. } => if count ≠ 0 then return count
      | none => pure ()
      fail 1 ("invalid unit size: " ++ Quote.text text)
  let sourceUnit ← unit "from-unit"
  let targetUnit ← unit "to-unit"
  let padding ← match arguments.value? "padding" with
    | none => pure none
    | some text =>
      match Numeral.whole? text with
      | some value =>
        if value = 0 then fail 1 ("invalid padding value " ++ Quote.text text)
        pure (some (value.natAbs, decide (value < 0)))
      | none => fail 1 ("invalid padding value " ++ Quote.text text)
  let (around, zeros, width, places) ← match arguments.value? "format" with
    | none => pure (("", ""), false, none, none)
    | some text =>
      match numberFormat? text with
      | some format => pure format
      | none => fail 1 ("invalid format " ++ Quote.text text ++ ", directive must be %[0]['][-][N][.][N]f")
  let plan : NumberPlan := {
    source, target, sourceUnit, targetUnit, rounding, around, zeros, places
    suffix := (arguments.value? "suffix").getD ""
    width := padding.orElse fun _ => width
    fields := (arguments.value? "field").getD "1"
    delimiter := (arguments.value? "d").bind fun text => text.toList.head?
    invalid := (arguments.value? "invalid").getD "abort" }
  let picks : Nat → Bool ←
    if plan.fields = "-" then pure fun _ => true
    else
      match readRanges plan.fields with
      | .ok ranges => pure (inRanges ranges)
      | .error _ => misuse 1 ("invalid field value " ++ Quote.text plan.fields)
  if arguments.operands.isEmpty then
    let (text, _) ← readAll 0
    let kept := match arguments.value? "header" with
      | none => 0
      | some text => (text.toNat?).getD 1
    for (line, place) in (linesOf text).zipIdx do
      if place < kept then print (line ++ "\n") else printNumbers plan picks line
  else arguments.operands.forM (printNumbers plan picks)

end ToolM

end Shell.Machine
