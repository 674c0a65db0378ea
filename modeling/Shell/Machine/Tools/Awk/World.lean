import Std.Data.HashMap
import Shell.Machine.Tools.Awk.Scan
import Shell.Machine.Tools.Awk.Table
import Shell.Machine.Tools.Environment
import Shell.Machine.Utility.Format

/-! # What programs for records work with

The state of a program while it runs: its variables, the record with its fields, and the files and commands that it
reads from and writes to. A record is divided when a field is asked for, and put together when it is asked for after a
field was changed.
-/

/-! ## Numbers by chance

Numbers that look random and are not: each is the sum of two earlier ones. The first ones follow from a seed.
-/

namespace Shell.Machine

/-- Where the numbers come from: the last 31 of them, the oldest one at some place. -/
structure Chance where
  numbers : Array UInt32
  place : Nat := 0
deriving Repr, Inhabited

namespace Chance

/-- How many numbers are kept. -/
def size : Nat := 31

/-- How far back the other number is that is added. -/
def distance : Nat := 28

/-- The number after another one when the first numbers are made. -/
def follow (number : Int) : Int :=
  let next := 16807 * Int.tmod number 127773 - 2836 * Int.tdiv number 127773
  if next < 0 then next + 2147483647 else next

/-- The next number of 31 bits. -/
def next (chance : Chance) : Nat × Chance :=
  let sum := (chance.numbers[chance.place]?).getD 0 +
    (chance.numbers[(chance.place + distance) % size]?).getD 0
  ((sum >>> 1).toNat,
    { numbers := chance.numbers.setIfInBounds chance.place sum, place := (chance.place + 1) % size })

/-- The numbers that follow from a seed. The first ones are not used. -/
def ofSeed (seed : Nat) : Chance :=
  let first : Int := Int.bmod (if seed = 0 then 1 else seed) 4294967296
  let numbers := (List.range (size - 1)).foldl (fun sofar _ => follow (sofar.headD 0) :: sofar) [first]
  let words := (numbers.reverse.map fun n => UInt32.ofNat (n % 4294967296).toNat).toArray
  let start : Chance := { numbers := words, place := size - distance }
  (List.range (10 * size)).foldl (fun chance _ => chance.next.2) start

/-- The next number between zero and one. -/
def fraction (chance : Chance) : Float × Chance :=
  let (number, chance) := chance.next
  (Float.ofNat number / 2147483647, chance)

end Chance

end Shell.Machine

namespace Shell.Machine.Awk

/-- What a variable holds. -/
inductive Slot where
  | value (value : Value)
  /-- The number of an array. -/
  | array (id : Nat)
deriving Repr, Inhabited

/-- Something that output goes to. -/
structure Outlet where
  name : String
  descriptor : Nat
  pending : String := ""
  /-- The process that reads it, if it is a command. -/
  child : Option Nat := none

/-- Something that lines are read from. -/
structure Inlet where
  name : String
  descriptor : Nat
  /-- What has been read. -/
  bytes : ByteArray := .empty
  /-- How much of it has been used. -/
  start : Nat := 0
  ended : Bool := false
  /-- The process that writes it, if it is a command. -/
  child : Option Nat := none

/-- The state of a program. -/
structure World where
  functions : List (String × Function)
  globals : Std.HashMap String Slot := {}
  /-- The parameters of the function that runs. -/
  locals : Array Slot := #[]
  arrays : Array Table := #[]
  record : Value := .text ""
  /-- Whether the record is as its fields say. -/
  recordHolds : Bool := true
  fields : Array Value := #[]
  /-- Whether the fields are as the record says. -/
  fieldsHold : Bool := false
  outlets : List Outlet := []
  inlets : List Inlet := []
  /-- Where records come from. -/
  source : Option Inlet := none
  /-- Which argument is looked at next. -/
  argument : Nat := 1
  /-- Whether there was an argument that names a file. -/
  hadFile : Bool := false
  /-- The ranges of records that have begun. -/
  ranges : List Nat := []
  patterns : Std.HashMap String Regex := {}
  chance : Chance := default
  seed : Value := .none
  /-- How many steps were made since the others had their turn. -/
  steps : Nat := 0

/-- Why something is left. -/
inductive Jump where
  | break_
  | continue_
  | next
  | nextFile
  | exit
  | return_ (value : Value)
deriving Repr, Inhabited

/-- What programs do. -/
abbrev AwkM := ExceptT Jump (StateT World ToolM)

namespace AwkM

def tool {α : Type} (act : ToolM α) : AwkM α :=
  ExceptT.lift (StateT.lift act)

/-- Asks the machine for something. -/
def ask (call : Call) : AwkM call.Reply := tool (ToolM.ask call)

/-- Something about the state, which is not held on to. -/
def look {α : Type} (find : World → α) : AwkM α :=
  modifyGet fun world => (find world, world)

/-- So many steps are made in a row before others have their turn. -/
def maxSteps : Nat := 400

/-- Counts a step. -/
def tick : AwkM Unit := do
  let isTired ← modifyGet fun world =>
    if world.steps < maxSteps then (false, { world with steps := world.steps + 1 })
    else (true, { world with steps := 0 })
  if isTired then ask .rest

/-! ## Numbers and texts -/

def numberIn (text : String) : Float :=
  ((Double.read text).map (·.1)).getD 0

def numberOf : Value → Float
  | .none => 0
  | .number value => value
  | .text text => numberIn text
  | .numeral _ value => value

def isBlank (c : Char) : Bool :=
  c = ' ' || c = '\t' || c = '\n' || c = '\x0b' || c = '\x0c' || c = '\r'

def ofInput (text : String) : Value :=
  let core := text.trimAsciiStart.trimAsciiEnd
  match core.front?, core.back? with
  | some first, some last =>
    if (first.isDigit || first = '+' || first = '-' || first = '.') && (last.isDigit || last = '.') then
      match Double.read core.toString with
      | some (value, []) => .numeral text value
      | _ => .text text
    else .text text
  | _, _ => .text text

/-- The greatest number that is written as a whole one. -/
def greatestWhole : Int := 18446744073709551615

/-- The digits of a number, if it is a whole one and not too great. -/
def wholeText? (value : Float) : Option String :=
  match Double.toValue value with
  | .finite negative ratio =>
    if ratio.dividend % ratio.divisor ≠ 0 then none
    else
      let size : Int := (ratio.dividend / ratio.divisor : Nat)
      let whole := if negative then -size else size
      if whole < -9223372036854775808 || greatestWhole + 1 < whole then none
      else some (toString (min greatestWhole whole))
  | _ => none

/-- The layout of a conversion, its letter, and what comes after it, given the numbers for stars. -/
def layoutOf (text : List Char) (stars : List Int) :
    Format.Layout × List Int × List Char :=
  let (layout, rest) := Format.Printer.flags {} text
  let number (stars : List Int) : List Char → Option Int × List Int × List Char
    | '*' :: rest => (some (stars.headD 0), stars.drop 1, rest)
    | rest =>
      let (value, count, rest) := Numeral.digits 10 rest.length 0 0 rest
      (if count = 0 then none else some (value : Int), stars, rest)
  let (width, stars, rest) := number stars rest
  let width := width.getD 0
  let layout := { layout with left := layout.left || width < 0, width := width.natAbs }
  let (layout, stars, rest) := match rest with
    | '.' :: rest =>
      let (precision, stars, rest) := number stars rest
      let precision := precision.getD 0
      ({ layout with precision := if precision < 0 then none else some precision.toNat }, stars, rest)
    | _ => (layout, stars, rest)
  (layout, stars, rest.dropWhile fun c => c = 'l' || c = 'h' || c = 'L' || c = 'q')

def formatNumber (layout : Format.Layout) (letter : Char) (value : Float) : String :=
  if letter = 'd' || letter = 'i' then
    layout.signed (Double.clamp (-9223372036854775807) 9223372036854775807 value)
  else if "ouxX".contains letter then
    let whole := Double.clamp (-9223372036854775808) greatestWhole value
    layout.unsigned letter (whole % 18446744073709551616).toNat
  else
    match Double.toValue value with
    | .undefined _ => layout.decimal letter (.undefined true)
    | exact => layout.decimal letter exact

/-- A number as a format for one number says. -/
def formatOne (format : String) (value : Float) : String :=
  if format = "%.6g" then formatNumber { precision := some 6 } 'g' value
  else
    let (before, rest) := format.toList.span (· ≠ '%')
    match rest with
    | '%' :: rest =>
      let (layout, _, rest) := layoutOf rest []
      match rest with
      | letter :: after =>
        String.ofList before ++ formatNumber layout letter value ++ String.ofList after
      | [] => format
    | _ => format

/-! ## Variables -/

/-- What a variable that the whole program knows holds. -/
def global (name : String) : AwkM Slot := do
  return (← look fun world => world.globals[name]?).getD (.value .none)

/-- Makes a variable that the whole program knows hold something. -/
def setGlobal (name : String) (slot : Slot) : AwkM Unit :=
  modify fun world => { world with globals := world.globals.insert name slot }

/-- The value of a variable that the whole program knows. -/
def globalValue (name : String) : AwkM Value := do
  return match ← global name with
    | .value value => value
    | .array _ => .none

/-- A value as text, where numbers that are not whole are written as a variable says. -/
def textBy (format : String) (value : Value) : AwkM String := do
  match value with
  | .none => return ""
  | .text text => return text
  | .numeral text _ => return text
  | .number value =>
    match wholeText? value with
    | some text => return text
    | none =>
      let format := match ← globalValue format with
        | .text text => text
        | .numeral text _ => text
        | _ => "%.6g"
      return formatOne format value

def textOf (value : Value) : AwkM String := textBy "CONVFMT" value

def globalText (name : String) : AwkM String := do
  textOf (← globalValue name)

def slotOf : Variable → AwkM Slot
  | .global name => global name
  | .parameter index => do
    return (← look fun world => world.locals[index]?).getD (.value .none)

/-- Makes a variable hold something. -/
def setSlot (variable_ : Variable) (slot : Slot) : AwkM Unit := do
  match variable_ with
  | .global name => setGlobal name slot
  | .parameter index => modify fun world => { world with locals := world.locals.setIfInBounds index slot }

def makeArray (table : Table) : AwkM Nat :=
  modifyGet fun world => (world.arrays.size, { world with arrays := world.arrays.push table })

def arrayOf (variable_ : Variable) : AwkM Nat := do
  match ← slotOf variable_ with
  | .array id => return id
  | .value _ =>
    let id ← makeArray {}
    setSlot variable_ (.array id)
    return id

def withArray {α : Type} (id : Nat) (change : Table → α × Table) : AwkM α := do
  modifyGet fun world =>
    let table := (world.arrays[id]?).getD {}
    let others := world.arrays.setIfInBounds id {}
    let (result, table) := change table
    (result, { world with arrays := others.setIfInBounds id table })

def keyOf (value : Value) : AwkM Key := do
  match value with
  | .number number =>
    match Double.toValue number with
    | .finite negative ratio =>
      let size : Int := (ratio.dividend / ratio.divisor : Nat)
      if ratio.dividend % ratio.divisor = 0 && size < 9223372036854775808 then
        return .number (if negative then -size else size)
      else return .text (← textOf value)
    | _ => return .text (← textOf value)
  | value => return .text (← textOf value)

/-! ## Ends -/

/-- Writes what is pending for an outlet. -/
def drain (outlet : Outlet) : AwkM Outlet := do
  if !outlet.pending.isEmpty then
    discard (ask (.write outlet.descriptor (Octets.toBytes outlet.pending)))
  return { outlet with pending := "" }

/-- Writes all that is pending. -/
def flushAll : AwkM Unit := do
  tool ToolM.flush
  let outlets ← (← look (·.outlets)).mapM drain
  modify fun world => { world with outlets }

/-- What the ending of a command counts as. -/
def statusOf : Option Ending → Int
  | some (.exited code) => code
  | some (.signaled signal) => 256 + signal
  | none => 0

def wait (child : Nat) : AwkM Int := do
  return statusOf (← tool (ToolM.awaitChild child ToolM.patience))

/-- Closes something that output goes to. The result is the status of the command, if it is one. -/
def closeOutlet (outlet : Outlet) : AwkM Int := do
  let outlet ← drain outlet
  discard (ask (.close outlet.descriptor))
  match outlet.child with
  | some child => wait child
  | none => return 0

/-- Closes something that lines are read from. -/
def closeInlet (inlet : Inlet) : AwkM Int := do
  if inlet.descriptor ≠ 0 then discard (ask (.close inlet.descriptor))
  match inlet.child with
  | some child => wait child
  | none => return 0

/-- Writes all that is pending, first to commands, and waits for these. -/
def closeAll : AwkM Unit := do
  let outlets ← look (·.outlets)
  modify fun world => { world with outlets := [] }
  for outlet in outlets do
    discard (closeOutlet outlet)
  tool ToolM.flush

/-- Ends with an error. -/
def fatal {α : Type} (report : String) : AwkM α := do
  flushAll
  tool do
    ToolM.report report
    ToolM.abort 2

/-- Ends with an error that a program can make only when it runs. -/
def fault {α : Type} (report : String) : AwkM α := do
  let file ← globalText "FILENAME"
  let ofFile ← globalText "FNR"
  let all ← globalText "NR"
  fatal ("run time error: " ++ report ++ "\n\tFILENAME=\"" ++ file ++ "\" FNR=" ++ ofFile ++ " NR=" ++ all)

/-! ## Patterns and fields -/

/-- The regular expression that a text is. -/
def regexOf (text : String) : AwkM Regex := do
  match ← look fun world => world.patterns[text]? with
  | some regex => return regex
  | none =>
    match Expression.read text with
    | .ok regex =>
      modify fun world => { world with patterns := world.patterns.insert text regex }
      return regex
    | .error report => fatal ("regular expression compile failed (" ++ report ++ ")\n" ++ text)

/-- What divides a text into parts. -/
inductive Separator where
  | blanks
  /-- Every character is a part. -/
  | nothing
  | char (c : Char)
  | regex (regex : Regex)

def separatorOf (text : String) : AwkM Separator := do
  match text.toList with
  | [] => return .nothing
  | [' '] => return .blanks
  | [c] => return .char c
  | _ => return .regex (← regexOf text)

/-- The parts of a text between matches, from some place on. -/
def partsBetween (text : Array Char) (regex : Regex) : Nat → Nat → Nat → List String
  | 0, start, _ => [String.ofList (text.extract start text.size).toList]
  | fuel + 1, start, place =>
    let part (stop : Nat) : String := String.ofList (text.extract start stop).toList
    match Regex.find? { text } [regex] place with
    | none => [part text.size]
    | some found =>
      if found.span.stop = found.span.start then
        if text.size ≤ found.span.start then [part text.size]
        else partsBetween text regex fuel start (found.span.start + 1)
      else part found.span.start :: partsBetween text regex fuel found.span.stop found.span.stop

/-- The parts of a text. An empty text has none. -/
def Separator.divide (separator : Separator) (text : String) : List String :=
  if text.isEmpty then []
  else
    match separator with
    | .blanks => words text.length text.toList
    | .nothing => text.toList.map String.singleton
    | .char c => text.splitOn (String.singleton c)
    | .regex pattern =>
      let chars := text.toList.toArray
      partsBetween chars pattern (chars.size + 1) 0 0
where
  /-- The words between blanks. -/
  words : Nat → List Char → List String
    | 0, _ => []
    | fuel + 1, chars =>
      match chars.dropWhile isBlank with
      | [] => []
      | chars =>
        let (word, rest) := chars.span fun c => !isBlank c
        String.ofList word :: words fuel rest

/-- The separator of fields. Records that are paragraphs are divided at line breaks too. -/
def fieldSeparator : AwkM Separator := do
  let text ← globalText "FS"
  let separator ← separatorOf text
  if !(← globalText "RS").isEmpty then return separator
  match separator with
  | .char c => return .regex (.either (.char c) (.char '\n'))
  | .regex regex => return .regex (.either regex (.char '\n'))
  | other => return other

/-- Divides the record, if that has not been done. -/
def divideRecord : AwkM Unit := do
  if !(← look (·.fieldsHold)) then
    let text ← textOf (← look (·.record))
    let separator ← fieldSeparator
    let fields := ((separator.divide text).map ofInput).toArray
    modify fun world => { world with fields, fieldsHold := true }

/-- Puts the record together, if a field was changed. -/
def joinRecord : AwkM Unit := do
  if !(← look (·.recordHolds)) then
    let between ← globalText "OFS"
    let texts ← (← look (·.fields)).toList.mapM textOf
    modify fun world => { world with record := ofInput (between.intercalate texts), recordHolds := true }

/-- Makes a text the record. -/
def setRecord (value : Value) : AwkM Unit :=
  modify fun world => { world with record := value, recordHolds := true, fieldsHold := false }

def fieldIndex (value : Value) : AwkM Nat := do
  let number := numberOf value
  if number < 0 then
    let shown := (wholeText? (Double.truncate number)).getD "-1"
    fault ("negative field index $" ++ shown)
  return (Double.clamp 0 1000000 number).toNat

def field (index : Nat) : AwkM Value := do
  if index = 0 then
    joinRecord
    return ← look (·.record)
  else
    divideRecord
    return (← look fun world => world.fields[index - 1]?).getD (.text "")

/-- An array with so many elements, the new ones empty. -/
def resized (count : Nat) (fields : Array Value) : Array Value :=
  if count ≤ fields.size then fields.extract 0 count
  else fields ++ Array.replicate (count - fields.size) (.text "")

def setField (index : Nat) (value : Value) : AwkM Unit := do
  if index = 0 then setRecord value
  else
    divideRecord
    modify fun world =>
      let fields := if world.fields.size < index then resized index world.fields else world.fields
      { world with fields := fields.setIfInBounds (index - 1) value, recordHolds := false }

def valueOf (variable_ : Variable) : AwkM Value := do
  if variable_ matches .global "NF" then
    divideRecord
    return .number (Float.ofNat (← look (·.fields)).size)
  match ← slotOf variable_ with
  | .value value => return value
  | .array _ => return .none

/-- Gives a variable a value. What concerns records takes effect. -/
def setValue (variable_ : Variable) (value : Value) : AwkM Unit := do
  match variable_ with
  | .global "NF" =>
    divideRecord
    let number := numberOf value
    if number < 0 then fault "negative value assigned to NF"
    let count := (Double.clamp 0 1000000 number).toNat
    modify fun world => { world with fields := resized count world.fields, recordHolds := false }
  | .global "FS" =>
    divideRecord
    setSlot variable_ (.value value)
  | _ => setSlot variable_ (.value value)

/-- Adds one to a variable. -/
def increase (name : String) : AwkM Unit := do
  setGlobal name (.value (.number (numberOf (← globalValue name) + 1)))

/-- Sets a variable as an argument says. -/
def assignText (name text : String) : AwkM Unit :=
  setValue (.global name) (ofInput (unescaped text))

/-- The name and the text of an argument that sets a variable. -/
def assignment? (argument : String) : Option (String × String) :=
  let name := (argument.takeWhile (· ≠ '=')).toString
  if name.length < argument.length && name.toList.all isNameChar && !(name.front?.any Char.isDigit) && name ≠ "" then
    some (name, (argument.drop (name.length + 1)).toString)
  else none

/-! ## Reading -/

def readSize : Nat := 4096

/-- Reads more. -/
def Inlet.more (inlet : Inlet) : AwkM Inlet := do
  match ← ask (.read inlet.descriptor readSize) with
  | .error error => fatal ("read error (" ++ error.text ++ ")")
  | .ok bytes =>
    if bytes.isEmpty then return { inlet with ended := true }
    else return { inlet with bytes := inlet.bytes.extract inlet.start inlet.bytes.size ++ bytes, start := 0 }

/-- Reads all there is. -/
def Inlet.whole : Nat → Inlet → AwkM Inlet
  | 0, inlet => return inlet
  | fuel + 1, inlet => do
    if inlet.ended then return inlet else Inlet.whole fuel (← Inlet.more inlet)

/-- The place of a byte from another place on. -/
def findByte (byte : UInt8) (bytes : ByteArray) : Nat → Nat → Option Nat
  | 0, _ => none
  | fuel + 1, place =>
    match bytes[place]? with
    | none => none
    | some other => if other = byte then some place else findByte byte bytes fuel (place + 1)

/-- Reads up to a byte, given how much has been searched. -/
def Inlet.upTo (byte : UInt8) : Nat → Nat → Inlet → AwkM (Option String × Inlet)
  | 0, _, inlet => return (none, inlet)
  | fuel + 1, searched, inlet => do
    let size := inlet.bytes.size
    match findByte byte inlet.bytes (size - inlet.start) (inlet.start + searched) with
    | some place =>
      return (some (Octets.ofBytes (inlet.bytes.extract inlet.start place)), { inlet with start := place + 1 })
    | none =>
      if inlet.ended then
        if inlet.start < size then
          return (some (Octets.ofBytes (inlet.bytes.extract inlet.start size)), { inlet with start := size })
        else return (none, inlet)
      else Inlet.upTo byte fuel (size - inlet.start) (← Inlet.more inlet)

/-- Reads up to a match of a regular expression. -/
def Inlet.upToMatch (regex : Regex) (inlet : Inlet) : AwkM (Option String × Inlet) := do
  let inlet ← Inlet.whole ToolM.patience inlet
  let size := inlet.bytes.size
  if size ≤ inlet.start then return (none, inlet)
  let text := (Octets.ofBytes (inlet.bytes.extract inlet.start size)).toList.toArray
  let take (stop next : Nat) : Option String × Inlet :=
    (some (String.ofList (text.extract 0 stop).toList), { inlet with start := inlet.start + next })
  match Regex.find? { text } [regex] 0 with
  | some found =>
    if found.span.start < found.span.stop then return take found.span.start found.span.stop
    else return take text.size text.size
  | none =>
    let stop := if text.back? = some '\n' then text.size - 1 else text.size
    return take stop text.size

/-- Reads a paragraph: up to lines that are empty. -/
def Inlet.paragraph (inlet : Inlet) : AwkM (Option String × Inlet) := do
  let inlet ← Inlet.whole ToolM.patience inlet
  let text := (Octets.ofBytes (inlet.bytes.extract inlet.start inlet.bytes.size)).toList.dropWhile (· = '\n')
  if text.isEmpty then return (none, { inlet with start := inlet.bytes.size })
  let (record, rest) := divide text.length [] text
  let rest := rest.dropWhile (· = '\n')
  return (some (String.ofList record), { inlet with start := inlet.bytes.size - rest.length })
where
  /-- The text before an empty line, and what follows. -/
  divide : Nat → List Char → List Char → List Char × List Char
    | 0, sofar, rest => (sofar.reverse, rest)
    | _, sofar, [] => (sofar.reverse, [])
    | _, sofar, ['\n'] => (sofar.reverse, [])
    | _, sofar, '\n' :: '\n' :: rest => (sofar.reverse, rest)
    | fuel + 1, sofar, c :: rest => divide fuel (c :: sofar) rest

def Inlet.record (inlet : Inlet) : AwkM (Option String × Inlet) := do
  let separator ← globalText "RS"
  match separator.toList with
  | [] => Inlet.paragraph inlet
  | [c] => Inlet.upTo (UInt8.ofNat c.toNat) ToolM.patience 0 inlet
  | _ => do
    let regex ← regexOf separator
    Inlet.upToMatch regex inlet

/-- Opens the next file that records come from. The last one is followed by nothing. -/
def openNext : Nat → AwkM Bool
  | 0 => return false
  | fuel + 1 => do
    let world ← get
    let count := (Double.clamp 0 1000000 (numberOf (← globalValue "ARGC"))).toNat
    let start (name : String) (descriptor : Nat) : AwkM Bool := do
      setGlobal "FILENAME" (.value (.text name))
      setGlobal "FNR" (.value (.number 0))
      modify fun world => { world with source := some { name, descriptor }, hadFile := true }
      return true
    if count ≤ world.argument then
      if world.hadFile then return false
      return ← start "-" 0
    set { world with argument := world.argument + 1 }
    let arguments ← arrayOf (.global "ARGV")
    let known ← withArray arguments (Table.contains (.number world.argument))
    let text ← if known then do textOf (← withArray arguments (Table.get (.number world.argument))) else pure ""
    if text.isEmpty then openNext fuel
    else
      match assignment? text with
      | some (name, value) =>
        assignText name value
        openNext fuel
      | none =>
        match ← tool (ToolM.openInput text) with
        | .ok descriptor => start text descriptor
        | .error error => fatal ("cannot open \"" ++ text ++ "\" (" ++ error.text ++ ")")

/-- Closes the file that records come from. -/
def closeSource : AwkM Unit := do
  match ← look (·.source) with
  | some inlet =>
    discard (closeInlet inlet)
    modify fun world => { world with source := none }
  | none => return

def nextRecord : Nat → AwkM (Option String)
  | 0 => return none
  | fuel + 1 => do
    match ← look (·.source) with
    | none => if ← openNext (ToolM.patience) then nextRecord fuel else return none
    | some inlet =>
      let (text, inlet) ← Inlet.record inlet
      modify fun world => { world with source := some inlet }
      match text with
      | some text =>
        increase "NR"
        increase "FNR"
        return some text
      | none =>
        closeSource
        nextRecord fuel

/-! ## Commands and files -/

/-- Starts a command, given what is done before it. The result is its number. -/
def startCommand (command : String) (prepare : ToolM Unit) : AwkM Nat := do
  flushAll
  let others := (← look (·.outlets)).map Outlet.descriptor
  tool <| ToolM.fork do
    prepare
    for descriptor in others do
      discard (ToolM.ask (.close descriptor))
    let error ← ToolM.become ["/bin/sh", "-c", command] (← get).environment
    return ToolM.becomeStatus error

/-- Makes a descriptor stand for another one, which is closed. -/
def moveTo (source target unused : Nat) : ToolM Unit := do
  discard (ToolM.ask (.close unused))
  discard (ToolM.ask (.redirect source target))
  discard (ToolM.ask (.close source))

/-- Opens something to read lines from, unless that has been done. -/
def openInlet (origin : Origin) (name : String) : AwkM (Option Inlet) := do
  let isCommand := origin = .command
  match (← look (·.inlets)).find? fun inlet => inlet.name = name && inlet.child.isSome = isCommand with
  | some inlet => return some inlet
  | none =>
    let opened : Option Inlet ← if isCommand then do
        let ends : Nat × Nat ← ask .makePipe
        let child ← startCommand name (moveTo ends.2 1 ends.1)
        discard (ask (.close ends.2))
        pure (some { name, descriptor := ends.1, child := some child })
      else do
        let path := if name = "/dev/stdin" then "-" else name
        match ← tool (ToolM.openInput path) with
        | .ok descriptor => pure (some { name, descriptor })
        | .error _ => pure none
    match opened with
    | some inlet =>
      modify fun world => { world with inlets := inlet :: world.inlets }
      return some inlet
    | none => return none

/-- Remembers how far something was read. -/
def updateInlet (inlet : Inlet) : AwkM Unit :=
  modify fun world =>
    { world with
      inlets := world.inlets.map fun other =>
        if other.name = inlet.name && other.child.isSome = inlet.child.isSome then inlet else other }

/-- Opens something to write to, unless that has been done. -/
def openOutlet (direction : Direction) (name : String) : AwkM Outlet := do
  let isCommand := direction = .command
  match (← look (·.outlets)).find? fun outlet => outlet.name = name && outlet.child.isSome = isCommand with
  | some outlet => return outlet
  | none =>
    if isCommand then
      let ends : Nat × Nat ← ask .makePipe
      let child ← startCommand name (moveTo ends.1 0 ends.2)
      discard (ask (.close ends.1))
      return { name, descriptor := ends.2, child := some child }
    else
      let mode : OpenMode :=
        { write := true, create := true, append := direction = .end_, truncate := direction = .file }
      match ← ask (.openFile name mode 0o666) with
      | .ok descriptor => return { name, descriptor }
      | .error error => fatal ("cannot open \"" ++ name ++ "\" for output (" ++ error.text ++ ")")

/-- Writes a text to a file or a command. -/
def writeTo (direction : Direction) (name text : String) : AwkM Unit := do
  let isFile := direction ≠ .command
  if isFile && (name = "/dev/stdout" || name = "-") then tool (ToolM.print text)
  else if isFile && name = "/dev/stderr" then discard (ask (.write 2 (Octets.toBytes text)))
  else
    let outlet ← openOutlet direction name
    let outlet := { outlet with pending := outlet.pending ++ text }
    let outlet ← if readSize ≤ outlet.pending.utf8ByteSize then drain outlet else pure outlet
    modify fun world =>
      { world with
        outlets := outlet :: world.outlets.filter fun other =>
          !(other.name = name && other.child.isSome = outlet.child.isSome) }

/-- Closes what has a name. The result is negative if there is nothing of this name. -/
def closeNamed (name : String) : AwkM Int := do
  let world ← get
  let outlets := world.outlets.filter fun outlet => outlet.name = name
  let inlets := world.inlets.filter fun inlet => inlet.name = name
  set { world with
    outlets := world.outlets.filter fun outlet => outlet.name ≠ name
    inlets := world.inlets.filter fun inlet => inlet.name ≠ name }
  let mut status : Int := -1
  for outlet in outlets do
    status ← closeOutlet outlet
  for inlet in inlets do
    status ← closeInlet inlet
  return status

end AwkM

end Shell.Machine.Awk
