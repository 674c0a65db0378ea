import Shell.Machine.Utility.Calendar
import Shell.Machine.Utility.Decimal
import Shell.Machine.Utility.Escape
import Shell.Machine.Utility.Quote

/-! # Formats

How `printf` makes text out of a format and arguments. A format is used again as long as there are arguments, and
arguments that are missing count as empty. There are three dialects, which differ in what they accept and in what they
say about what they do not: that of plain scripts, that of scripts in the extended dialect, and that of the program of
this name.
-/

namespace Shell.Machine.Format

/-- Who reads a format. -/
inductive Dialect where
  | script
  | extended
  | program
deriving Repr, DecidableEq, Inhabited

/-- How a value is to be written. -/
structure Layout where
  alternate : Bool := false
  left : Bool := false
  plus : Bool := false
  blank : Bool := false
  zeros : Bool := false
  width : Nat := 0
  precision : Option Nat := none
deriving Repr, DecidableEq, Inhabited

namespace Layout

/-- Fills a text up with blanks. -/
def pad (layout : Layout) (text : String) : String :=
  if layout.left then Numeral.padRight layout.width text else Numeral.padLeft layout.width ' ' text

/-- Fills a number up, with zeros after the sign where they are asked for. -/
def padNumber (layout : Layout) (zeros : Bool) (sign digits : String) : String :=
  if zeros && !layout.left then
    sign ++ Numeral.padLeft (layout.width - sign.length) '0' digits
  else layout.pad (sign ++ digits)

/-- What stands before a number. -/
def sign (layout : Layout) (negative : Bool) : String :=
  if negative then "-" else if layout.plus then "+" else if layout.blank then " " else ""

/-- Text, cut off at the precision. -/
def text (layout : Layout) (text : String) : String :=
  layout.pad (match layout.precision with
    | some count => (text.take count).toString
    | none => text)

/-- The digits of a whole number, as many as the precision asks for. -/
def digits (layout : Layout) (digits : String) : String :=
  match layout.precision with
  | some 0 => if digits = "0" then "" else digits
  | some count => Numeral.padLeft count '0' digits
  | none => digits

/-- A whole number with a sign. -/
def signed (layout : Layout) (value : Int) : String :=
  layout.padNumber (layout.zeros && layout.precision.isNone) (layout.sign (value < 0))
    (layout.digits (toString value.natAbs))

/-- A whole number without a sign, in a way that a letter names. -/
def unsigned (layout : Layout) (letter : Char) (value : Nat) : String :=
  let zeros := layout.zeros && layout.precision.isNone
  match letter with
  | 'o' =>
    let digits := layout.digits (Numeral.inBase 8 value)
    let digits := if layout.alternate && !digits.startsWith "0" then "0" ++ digits else digits
    layout.padNumber zeros "" digits
  | 'x' =>
    let start := if layout.alternate && value ≠ 0 then "0x" else ""
    layout.padNumber zeros start (layout.digits (Numeral.inBase 16 value))
  | 'X' =>
    let start := if layout.alternate && value ≠ 0 then "0X" else ""
    layout.padNumber zeros start (layout.digits (Numeral.inBase 16 value).toUpper)
  | _ => layout.padNumber zeros "" (layout.digits (toString value))

/-- A number with a fraction, in a way that a letter names. -/
def decimal (layout : Layout) (letter : Char) (value : Decimal.Value) : String :=
  let small := letter.toLower
  let power := if letter.isUpper then 'E' else 'e'
  let places := layout.precision.getD 6
  let word (text : String) (negative : Bool) : String :=
    layout.pad (layout.sign negative ++ if letter.isUpper then text.toUpper else text)
  match value with
  | .infinite negative => word "inf" negative
  | .undefined negative => word "nan" negative
  | .finite negative ratio =>
    let body :=
      if small = 'f' then ratio |> Decimal.fixed places layout.alternate
      else if small = 'e' then ratio |> Decimal.scientific power places layout.alternate
      else ratio |> Decimal.general power places layout.alternate
    layout.padNumber layout.zeros (layout.sign negative) body

end Layout

/-! ## Progress -/

/-- What has come of a format so far. -/
structure Progress where
  arguments : List String
  /-- Whether an argument has been asked for. -/
  consumed : Bool := false
  output : String := ""
  /-- What is to be reported, the last report first. -/
  reports : List String := []
  /-- Whether a report was about an error. -/
  failed : Bool := false
  /-- The time, in seconds, for who asks for it, and when the script began. -/
  now : Nat := 0
  begun : Nat := 0
  /-- The variables that are to be told how much has been written. -/
  counters : List (String × Nat) := []

/-- Why a format is left early. -/
inductive Stop where
  /-- It asks for it. -/
  | cut
  | error (report : String)
deriving Repr, DecidableEq, Inhabited

/-- Makes text out of a format. -/
abbrev Printer := ExceptT Stop (StateM Progress)

namespace Printer

/-- Adds text to the output. -/
def emit (text : String) : Printer Unit :=
  modify fun progress => { progress with output := progress.output ++ text }

/-- Notes a report about an error. -/
def complain (report : String) : Printer Unit :=
  modify fun progress => { progress with reports := report :: progress.reports, failed := true }

/-- Notes a report that is no error. -/
def remark (report : String) : Printer Unit :=
  modify fun progress => { progress with reports := report :: progress.reports }

/-- The next argument, if there is one. -/
def argument? : Printer (Option String) :=
  modifyGet fun progress =>
    match progress.arguments with
    | [] => (none, progress)
    | text :: arguments => (some text, { progress with arguments, consumed := true })

/-- Complains about what is left of a number, and whether it is out of range. -/
def check (dialect : Dialect) (text : String) (isEmpty inRange : Bool) (rest : List Char) :
    Printer Unit := do
  match dialect with
  | .script =>
    if !rest.isEmpty then
      complain (text ++ (if isEmpty then ": expected numeric value" else ": not completely converted"))
    else if !inRange then complain (text ++ ": Numerical result out of range")
  | .extended =>
    if !rest.isEmpty then complain (text ++ ": invalid number")
    else if !inRange then remark ("warning: " ++ text ++ ": Numerical result out of range")
  | .program =>
    if !inRange then complain (Quote.text text ++ ": Numerical result out of range")
    else if !rest.isEmpty then
      complain (Quote.text text ++
        (if isEmpty then ": expected a numeric value" else ": value not completely converted"))

/-- The number of the character after a quote, if a text begins with one. -/
def quoted? (dialect : Dialect) (text : String) : Printer (Option Nat) := do
  match dialect, text.toList with
  | .script, c :: rest | .extended, c :: rest =>
    return if c = '"' || c = '\'' then some ((rest.head?.map Char.toNat).getD 0) else none
  | .program, c :: d :: rest =>
    if c = '"' || c = '\'' then
      if !rest.isEmpty then
        remark ("warning: " ++ String.ofList rest ++
          ": character(s) following character constant have been ignored")
      return some d.toNat
    else return none
  | _, _ => return none

/-- One more than the greatest number without a sign. -/
def modulus : Nat := 18446744073709551616

/-- The greatest number with a sign. -/
def greatest : Int := 9223372036854775807

/-- The whole number that a text stands for. -/
def signedOf (dialect : Dialect) (text : String) : Printer Int := do
  match ← quoted? dialect text with
  | some code => return code
  | none =>
    let reading := Numeral.readInt none text
    let value := max (-greatest - 1) (min greatest reading.value)
    check dialect text reading.isEmpty (value = reading.value) reading.rest
    return value

/-- The whole number without a sign that a text stands for. A minus makes it wrap around. -/
def unsignedOf (dialect : Dialect) (text : String) : Printer Nat := do
  match ← quoted? dialect text with
  | some code => return code
  | none =>
    let reading := Numeral.readInt none text
    let inRange := reading.value.natAbs < modulus
    check dialect text reading.isEmpty inRange reading.rest
    return if inRange then (reading.value % modulus).toNat else modulus - 1

/-- The number with a fraction that a text stands for. -/
def decimalOf (dialect : Dialect) (text : String) : Printer Decimal.Value := do
  match ← quoted? dialect text with
  | some code => return .finite false ⟨code, 1⟩
  | none =>
    let precision := match dialect with
      | .script => 53
      | .extended | .program => 64
    match Decimal.read precision text with
    | some (value, rest) =>
      check dialect text false true rest
      return value
    | none =>
      check dialect text true true text.toList
      return .finite false ⟨0, 1⟩

/-! ## Directives -/

/-- Flags at the start of a directive. -/
def flags : Layout → List Char → Layout × List Char
  | layout, [] => (layout, [])
  | layout, c :: rest =>
    match c with
    | '#' => flags { layout with alternate := true } rest
    | '-' => flags { layout with left := true } rest
    | '+' => flags { layout with plus := true } rest
    | ' ' => flags { layout with blank := true } rest
    | '0' => flags { layout with zeros := true } rest
    | _ => (layout, c :: rest)

/-- A number in a directive, which may be taken from the arguments. -/
def measure (dialect : Dialect) : List Char → Printer (Option Int × List Char)
  | '*' :: rest => do
    let value ← match ← argument? with
      | some text => signedOf dialect text
      | none => pure 0
    return (some value, rest)
  | text =>
    let (value, count, rest) := Numeral.digits 10 text.length 0 0 text
    return (if count = 0 then none else some (value : Int), rest)

/-- The layout at the start of a directive, whether it has a precision, and what follows. -/
def layout (dialect : Dialect) (text : List Char) : Printer (Layout × List Char) := do
  let (layout, rest) := flags {} text
  let (width, rest) ← measure dialect rest
  let width := width.getD 0
  let layout := { layout with left := layout.left || width < 0, width := width.natAbs }
  match rest with
  | '.' :: rest =>
    let (precision, rest) ← measure dialect rest
    let precision := precision.getD 0
    return ({ layout with precision := if precision < 0 then none else some precision.toNat }, rest)
  | _ => return (layout, rest)

def emitEscaped (dialect : Dialect) (layout : Layout) (text : String) : Printer Unit := do
  let rules : Escape.Rules := match dialect with
    | .script => { leadingZero := true, cuts := true, quotes := true }
    | .extended | .program =>
      { leadingZero := true, cuts := true, quotes := true, hexadecimal := true, universal := true
        capital := dialect = .extended }
  let (text, cut) := Escape.unescape rules text
  emit (layout.text text)
  if cut then throw .cut

def allows (layout : Layout) (letter : Char) : Bool :=
  "aAcdeEfFgGiosuxX".contains letter &&
    !(layout.alternate && "cdisu".contains letter) &&
    !(layout.zeros && "cs".contains letter) &&
    !(layout.precision.isSome && letter = 'c')

/-- Writes what a conversion makes of the next argument. -/
def convert (dialect : Dialect) (layout : Layout) (letter : Char) : Printer Unit := do
  let text := (← argument?).getD ""
  if letter = 's' then emit (layout.text text)
  else if letter = 'c' then
    let char := if text.isEmpty then "\x00" else (text.take 1).toString
    emit (layout.pad char)
  else if letter = 'd' || letter = 'i' then
    emit (layout.signed (← if text.isEmpty then pure 0 else signedOf dialect text))
  else if "ouxX".contains letter then
    emit (layout.unsigned letter (← if text.isEmpty then pure 0 else unsignedOf dialect text))
  else
    let value ← if text.isEmpty then pure (.finite false ⟨0, 1⟩) else decimalOf dialect text
    emit (layout.decimal letter value)

/-- True for letters that say how big a number is, which the program skips. -/
def isSize (c : Char) : Bool :=
  "lLhjtz".contains c

/-- The format of a moment between parentheses, and what comes after the letter that follows it. -/
def momentFormat? : List Char → Option (String × List Char)
  | '(' :: rest =>
    match rest.span (· ≠ ')') with
    | (format, ')' :: 'T' :: rest) => some (String.ofList format, rest)
    | _ => none
  | _ => none

/-- Writes a moment, which is now or when the script began if a number says so. -/
def emitMoment (layout : Layout) (format : String) : Printer Unit := do
  let progress ← get
  let seconds : Int ← match ← argument? with
    | none => pure progress.now
    | some "-1" => pure progress.now
    | some "-2" => pure progress.begun
    | some text => signedOf .extended text
  let text := Calendar.format (if format.isEmpty then "%X" else format) { seconds }
  emit (layout.text text)

/-- Writes a directive of the extended dialect after its layout, which is shown as it is written. -/
def extendedDirective (layout : Layout) (shown : String) (text : List Char) : Printer (List Char) := do
  match momentFormat? text with
  | some (format, rest) =>
    emitMoment layout format
    return rest
  | none =>
    match text with
    | [] => throw (.error ("\x60" ++ shown ++ "': missing format character"))
    | letter :: rest =>
      match letter with
      | 'b' => emitEscaped .extended layout ((← argument?).getD "")
      | 'q' => emit (layout.text (ScriptQuote.backslashed ((← argument?).getD "")))
      | 'Q' =>
        let text := (← argument?).getD ""
        let text := match layout.precision with
          | some count => (text.take count).toString
          | none => text
        emit (layout.pad (ScriptQuote.backslashed text))
      | 'n' =>
        match ← argument? with
        | some name =>
          modify fun progress => { progress with counters := progress.counters ++ [(name, progress.output.length)] }
        | none => pure ()
      | _ =>
        if "csdiouxXaAeEfFgG".contains letter then convert .extended layout letter
        else throw (.error ("\x60" ++ String.singleton letter ++ "': invalid format character"))
      return rest

/-- Writes a directive, which follows a percent sign, and returns what comes after it. -/
def directive (dialect : Dialect) (text : List Char) : Printer (List Char) := do
  match dialect, text with
  | _, '%' :: rest =>
    emit "%"
    return rest
  | .program, 'b' :: rest =>
    match ← argument? with
    | some argument => emitEscaped dialect {} argument
    | none => pure ()
    return rest
  | .program, 'q' :: rest =>
    match ← argument? with
    | some argument => emit (Quote.ifNeeded argument)
    | none => pure ()
    return rest
  | _, _ =>
    let (layout, rest) ← layout dialect text
    let rest := if dialect = .script then rest else rest.dropWhile isSize
    let shown := "%" ++ String.ofList (text.take (text.length - rest.length + 1))
    match dialect, rest with
    | .extended, rest => extendedDirective layout shown rest
    | .script, [] => throw (.error "missing format character")
    | .program, [] => throw (.error (shown ++ ": invalid conversion specification"))
    | .script, letter :: rest =>
      if letter = 'b' then emitEscaped dialect layout ((← argument?).getD "")
      else if "csdiouxXaAeEfFgG".contains letter then convert dialect layout letter
      else throw (.error (shown ++ ": invalid directive"))
      return rest
    | .program, letter :: rest =>
      if !allows layout letter then throw (.error (shown ++ ": invalid conversion specification"))
      convert dialect layout letter
      return rest

/-- Writes an escape of a format, which follows a backslash, and returns what comes after it. -/
def escape (dialect : Dialect) (text : List Char) : Printer (List Char) := do
  let rules : Escape.Rules := match dialect with
    | .script => { quotes := true }
    | .extended => { quotes := true, hexadecimal := true, universal := true, capital := true }
    | .program => { quotes := true, cuts := true, hexadecimal := true, universal := true }
  let isHexadecimal (c : Char) : Bool := (Numeral.digit? 16 c).isSome
  match dialect, text with
  | .program, letter :: rest =>
    let least := if letter = 'x' then 1 else Escape.universalDigits letter
    let digits := rest.take least
    if digits.length < least || !digits.all isHexadecimal then
      throw (.error "missing hexadecimal number in escape")
  | _, _ => pure ()
  match Escape.replace rules text with
  | .cut => throw .cut
  | .text replaced rest =>
    emit (String.ofList replaced)
    return rest

/-- Writes a format once. -/
def once (dialect : Dialect) : Nat → List Char → Printer Unit
  | 0, _ => return
  | _, [] => return
  | fuel + 1, c :: rest => do
    if c = '%' then once dialect fuel (← directive dialect rest)
    else if c = '\\' then once dialect fuel (← escape dialect rest)
    else
      let (plain, rest) := (c :: rest).span fun c => c ≠ '%' && c ≠ '\\'
      emit (String.ofList plain)
      once dialect fuel rest

/-- Writes a format as often as there are arguments for it. -/
def repeatedly (dialect : Dialect) (format : List Char) : Nat → Printer Unit
  | 0 => return
  | rounds + 1 => do
    modify fun progress => { progress with consumed := false }
    once dialect (format.length + 1) format
    let progress ← get
    if progress.consumed && !progress.arguments.isEmpty then repeatedly dialect format rounds

end Printer

/-- What `printf` has to write and to report. -/
structure Result where
  output : String
  reports : List String
  failed : Bool
  /-- The error that it stopped at. -/
  error : Option String
  /-- The variables that are to be told how much has been written. -/
  counters : List (String × Nat) := []
deriving Repr, DecidableEq, Inhabited

/-- Writes arguments by a format, now and since a script began. -/
def applyAt (now begun : Nat) (dialect : Dialect) (format : String) (arguments : List String) : Result :=
  let (result, progress) :=
    (Printer.repeatedly dialect format.toList (arguments.length + 1)).run.run { arguments, now, begun }
  let excess := match dialect, result, progress.arguments with
    | .program, .ok _, argument :: _ =>
      ["warning: ignoring excess arguments, starting with " ++ Quote.text argument]
    | _, _, _ => []
  { output := progress.output
    reports := progress.reports.reverse ++ excess
    failed := progress.failed && !(result matches .error .cut && dialect = .program)
    error := match result with
      | .error (.error report) => some report
      | _ => none
    counters := progress.counters }

def apply (dialect : Dialect) (format : String) (arguments : List String) : Result :=
  applyAt 0 0 dialect format arguments

end Shell.Machine.Format
