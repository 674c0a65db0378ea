import Shell.Machine.Utility.Condition
import Shell.Machine.Utility.Decimal
import Shell.Machine.Utility.Escape
import Shell.Machine.Utility.Format
import Shell.Machine.Utility.Tool

/-! # Programs that only write

Programs whose output follows from their arguments and from where they run.
-/

namespace Shell.Machine.ToolM

/-- Ends with a status and does nothing else. -/
def status (code : Nat) : ToolM Unit :=
  modify fun tool => { tool with status := code }

/-- Writes arguments. -/
def echo : ToolM Unit := do
  print (Echo.program (← get).arguments)

/-- Writes arguments by a format. -/
def printf : ToolM Unit := do
  let operands := match (← get).arguments with
    | "--" :: rest => rest
    | arguments => arguments
  match operands with
  | [] => missingOperand
  | format :: operands =>
    let result := Format.apply .program format operands
    result.reports.forM report
    print result.output
    match result.error with
    | some text => fail 1 text
    | none => status result.failed.toNat

/-- Finds out whether a condition is true. -/
def condition (words : List String) : ToolM Unit := do
  match ← Condition.program words with
  | .ok truth => status (if truth then 0 else 1)
  | .error text => fail 2 text

/-- Finds out whether the arguments are a condition that is true. -/
def test : ToolM Unit := do
  condition (← get).arguments

/-- Finds out whether a condition is true that ends in a bracket. -/
def bracket : ToolM Unit := do
  match Condition.bracketed? (← get).arguments with
  | some words => condition words
  | none => fail 2 "missing ']'"

/-- Writes a line again and again. -/
def repeatLine (text : String) : Nat → ToolM Unit
  | 0 => return
  | fuel + 1 => do
    printNow text
    repeatLine text fuel

/-- Writes the arguments without end. -/
def yes : ToolM Unit := do
  let arguments ← readArguments 1 false []
  let operands := if arguments.operands.isEmpty then ["y"] else arguments.operands
  let line := " ".intercalate operands ++ "\n"
  let count := max 1 (8192 / line.length)
  repeatLine (String.join (List.replicate count line)) patience

/-- Writes the directory that the program is in. -/
def pwd : ToolM Unit := do
  let arguments ← readArguments 1 false ["L,logical", "P,physical"]
  let actual : String ← ask .workingDirectory
  let claimed := (← setting? "PWD").getD ""
  let isRight ←
    if arguments.last? ["L", "P"] ≠ some "L" || !claimed.startsWith "/" then pure false
    else
      match ← ask (.inspect claimed true), ← ask (.inspect "." true) with
      | .ok one, .ok other => pure (one.id = other.id)
      | _, _ => pure false
  print ((if isRight then claimed else actual) ++ "\n")

/-! ## Names -/

/-- A path without the slashes at its end. A path of slashes is left one. -/
def trimSlashes (path : String) : String :=
  let trimmed := (path.dropEndWhile (· = '/')).toString
  if trimmed.isEmpty && !path.isEmpty then "/" else trimmed

/-- The last name of a path. -/
def lastName (path : String) : String :=
  let trimmed := trimSlashes path
  if trimmed = "/" then "/" else ((trimmed.splitOn "/").getLast?).getD ""

/-- A path without its last name. -/
def directoryName (path : String) : String :=
  let trimmed := trimSlashes path
  if !trimmed.contains '/' then "."
  else trimSlashes ((trimmed.dropEndWhile (· ≠ '/')).toString)

/-- A name without an ending, unless nothing would be left. -/
def withoutSuffix (suffix name : String) : String :=
  if name ≠ suffix && name.endsWith suffix then (name.dropEnd suffix.length).toString else name

/-- Writes the last names of paths. -/
def basename : ToolM Unit := do
  let arguments ← readArguments 1 true ["a,multiple", "s,suffix,:", "z,zero"]
  let last := if arguments.has "z" then "\x00" else "\n"
  match arguments.operands with
  | [] => missingOperand
  | first :: rest =>
    if arguments.has "a" || arguments.has "s" then
      let suffix := (arguments.value? "s").getD ""
      for path in first :: rest do
        print (withoutSuffix suffix (lastName path) ++ last)
    else
      match rest with
      | [] => print (lastName first ++ last)
      | [suffix] => print (withoutSuffix suffix (lastName first) ++ last)
      | _ :: extra :: _ => extraOperand extra

/-- Writes paths without their last names. -/
def dirname : ToolM Unit := do
  let arguments ← readArguments 1 false ["z,zero"]
  if arguments.operands.isEmpty then missingOperand
  for path in arguments.operands do
    print (directoryName path ++ (if arguments.has "z" then "\x00" else "\n"))

/-! ## Numbers in order -/

/-- A whole number of so many decimal places. -/
structure Places where
  value : Int
  places : Nat
deriving Repr, DecidableEq, Inhabited

/-- The number that a text names, in decimal places. -/
def places? (text : String) : Option Places :=
  let (negative, chars) := Numeral.sign text.toList
  let (value, count, places, rest) := Decimal.pointed 10 chars
  if count = 0 || !rest.isEmpty then none
  else some { value := if negative then -(value : Int) else value, places }

/-- A number in so many decimal places. -/
def Places.scaled (places : Nat) (number : Places) : Int :=
  number.value * (Nat.pow 10 (places - number.places) : Nat)

/-- A number of decimal places as text. -/
def Places.render (number : Places) : String :=
  let text := Decimal.fixed number.places false ⟨number.value.natAbs, Nat.pow 10 number.places⟩
  if number.value < 0 then "-" ++ text else text

/-- A number with zeros in front that make it so long. -/
def widen (width : Nat) (text : String) : String :=
  if text.startsWith "-" then "-" ++ Numeral.padLeft (width - 1) '0' (text.drop 1).toString
  else Numeral.padLeft width '0' text

/-- Writes numbers from one to another, each as it is to be shown. -/
def countUp (shown : Int → String) (separator : String) (last step : Int) :
    Nat → Bool → Int → ToolM Unit
  | 0, _, _ => return
  | fuel + 1, isFirst, value => do
    let isOver := if 0 ≤ step then last < value else value < last
    if isOver then
      if !isFirst then print "\n"
    else
      if !isFirst then print separator
      print (shown value)
      countUp shown separator last step fuel false (value + step)

/-- True for an argument that is a negative number. -/
def isNegative (text : String) : Bool :=
  match text.toList with
  | '-' :: c :: _ => c.isDigit || c = '.'
  | _ => false

/-- Why a format is none for numbers in order, which has one directive. Nothing if it is one. -/
def formatFault? (format : String) : Option String :=
  let about := "format " ++ Quote.text format
  let plain := ((format.splitOn "%%").map fun part => part.splitOn "%").map fun pieces => pieces.drop 1
  match plain.flatten with
  | [] => some (about ++ " has no % directive")
  | [directive] =>
    match (directive.toList.dropWhile fun c => "-+#0 '.".contains c || c.isDigit).head? with
    | none => some (about ++ " ends in %")
    | some letter =>
      if "aAeEfFgG".contains letter then none
      else some (about ++ " has unknown %" ++ String.singleton letter ++ " directive")
  | _ => some (about ++ " has too many % directives")

/-- Writes numbers in order. -/
def seq : ToolM Unit := do
  modify fun tool =>
    if tool.arguments.any isNegative && !tool.arguments.contains "--" then
      let (options, operands) := tool.arguments.span fun text => text.startsWith "-" && !isNegative text
      { tool with arguments := options ++ "--" :: operands }
    else tool
  let arguments ← readArguments 1 true ["s,separator,:", "w,equal-width", "f,format,:"]
  let number (text : String) : ToolM Places := do
    match places? text with
    | some number => return number
    | none => misuse 1 ("invalid floating point argument: " ++ Quote.text text)
  let one : Places := { value := 1, places := 0 }
  let (first, step, last) ← match arguments.operands with
    | [] => missingOperand
    | [last] => pure (one, one, ← number last)
    | [first, last] => pure (← number first, one, ← number last)
    | [first, step, last] => pure (← number first, ← number step, ← number last)
    | _ :: _ :: _ :: extra :: _ => extraOperand extra
  if step.value = 0 then
    misuse 1 ("invalid Zero increment value: " ++ Quote.text (arguments.operands.getD 1 ""))
  let places := max first.places step.places
  let fine := max places last.places
  let scaled (number : Places) : Int := number.scaled fine
  let shown (number : Places) : Nat :=
    (Places.render { value := (scaled number).tdiv (Nat.pow 10 (fine - places) : Nat), places }).length
  let width := if arguments.has "w" then max (shown first) (shown last) else 0
  let unit : Int := (Nat.pow 10 (fine - places) : Nat)
  let limit := if 0 ≤ step.value then (scaled last).fdiv unit else -((-(scaled last)).fdiv unit)
  let shown ← match arguments.value? "f" with
    | none => pure fun value => widen width (Places.render { value, places })
    | some format =>
      if let some fault := formatFault? format then fail 1 fault
      pure fun value =>
        (Format.apply .program (format.replace "\\" "\\\\") [Places.render { value, places }]).output
  countUp shown ((arguments.value? "s").getD "\n") limit (step.scaled places)
    patience true (first.scaled places)

/-! ## The user and the system -/

/-- Writes who the user is. -/
def identity : ToolM Unit := do
  let arguments ← readArguments 1 false
    ["u,user", "g,group", "G,groups", "n,name", "r,real", "z,zero", "a,"]
  let parts := ["u", "g", "G"].filter arguments.has
  if 1 < parts.length then fail 1 "cannot print \"only\" of more than one choice"
  if parts.isEmpty && (arguments.has "n" || arguments.has "r") then
    fail 1 "cannot print only names or real IDs in default format"
  if parts.isEmpty && arguments.has "z" then fail 1 "option --zero not permitted in default format"
  let last := if arguments.has "z" then "\x00" else "\n"
  for name in if arguments.operands.isEmpty then ["root"] else arguments.operands do
    if name ≠ "root" && name ≠ "0" then complain (Quote.text name ++ ": no such user")
    else if parts.isEmpty then print ("uid=0(root) gid=0(root) groups=0(root)" ++ last)
    else print ((if arguments.has "n" then "root" else "0") ++ last)

/-- Writes the name of the user. -/
def whoami : ToolM Unit := do
  match (← readArguments 1 false []).operands with
  | [] => print "root\n"
  | extra :: _ => extraOperand extra

/-- Writes what system this is. -/
def uname : ToolM Unit := do
  let arguments ← readArguments 1 false ["s,kernel-name", "m,machine", "o,operating-system"]
  let shown := ["s", "m", "o"].filter arguments.has
  let shown := if shown.isEmpty then ["s"] else shown
  let words := shown.map fun name =>
    if name = "s" then "Linux" else if name = "m" then "x86_64" else "GNU/Linux"
  print (" ".intercalate words ++ "\n")

end Shell.Machine.ToolM
