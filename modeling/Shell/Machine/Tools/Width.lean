import Shell.Machine.Tools.Lines

/-! # Widths of lines

Programs that go by the columns in which characters stand: one breaks lines that are too wide, one turns tabs into
blanks, and one turns blanks into tabs.
-/

namespace Shell.Machine

namespace Width

/-- The column after a character. -/
def next (column : Nat) (c : Char) : Nat :=
  match c with
  | '\x08' => column - 1
  | '\r' => 0
  | '\t' => column + 8 - column % 8
  | _ => column + 1

/-! ## Breaking lines -/

/-- How lines are broken. -/
structure Folding where
  width : Nat
  /-- Whether bytes are counted instead of columns. -/
  bytes : Bool := false
  /-- Whether lines are broken after blanks where they have some. -/
  atBlanks : Bool := false

/-- The column after a character, as far as columns are counted. -/
def Folding.next (folding : Folding) (column : Nat) (c : Char) : Nat :=
  if folding.bytes then column + 1 else Width.next column c

/-- Breaks text. What stands on the current line comes in reverse, and so does what came before it. -/
def fold (folding : Folding) : Nat → List Char → Nat → List Char → List Char → List Char
  | 0, done, _, line, _ => (line ++ done).reverse
  | _, done, _, line, [] => (line ++ done).reverse
  | fuel + 1, done, column, line, c :: rest =>
    if c = '\n' then fold folding fuel (c :: line ++ done) 0 [] rest
    else
      let column' := folding.next column c
      if column' ≤ folding.width then fold folding fuel done column' (c :: line) rest
      else
        -- What follows the last blank goes on to the next line.
        let after := line.takeWhile fun d => !(d = ' ' || d = '\t')
        if folding.atBlanks && after.length < line.length then
          let before := line.drop after.length
          let column := after.reverse.foldl folding.next 0
          fold folding fuel ('\n' :: before ++ done) column after (c :: rest)
        else if line.isEmpty then fold folding fuel done column' [c] rest
        else fold folding fuel ('\n' :: line ++ done) 0 [] (c :: rest)

/-! ## Tabs -/

/-- Where tabs stop. -/
structure Stops where
  /-- Columns in ascending order. -/
  listed : List Nat := []
  /-- Every so many columns after the listed ones. -/
  every : Option Nat := none
  /-- Whether these are counted from the last listed one. -/
  fromLast : Bool := false
deriving Repr, DecidableEq, Inhabited

/-- The next stop after a column. -/
def Stops.next? (stops : Stops) (column : Nat) : Option Nat :=
  match stops.listed.find? (column < ·) with
  | some stop => some stop
  | none =>
    stops.every.map fun step =>
      if stops.fromLast then
        let last := stops.listed.getLastD 0
        column + (step - (column - last) % step)
      else column + (step - column % step)

/-- Why a text names no stops. -/
inductive StopsFault where
  | notANumber (text : String)
  | zero
  | descending
deriving Repr, DecidableEq, Inhabited

/-- What is reported of an error in stops. -/
def StopsFault.message : StopsFault → String
  | notANumber text => "tab size contains invalid character(s): " ++ Quote.text text
  | zero => "tab size cannot be 0"
  | descending => "tab sizes must be ascending"

def Stops.read (text : String) : Except StopsFault Stops := do
  let parts := ((text.splitOn ",").flatMap fun part => part.splitOn " ").filter fun part => !part.isEmpty
  let stops ← parts.foldlM
    (fun (stops : Stops) part => do
      let (mark, digits) := match part.toList with
        | '/' :: digits => (some '/', String.ofList digits)
        | '+' :: digits => (some '+', String.ofList digits)
        | _ => (none, part)
      match Numeral.natural? digits, mark with
      | none, _ => throw (.notANumber (String.ofList (part.toList.dropWhile Char.isDigit)))
      | some value, some mark =>
        return { stops with every := if value = 0 then none else some value, fromLast := mark = '+' }
      | some value, none =>
        if value = 0 then throw .zero
        if value ≤ stops.listed.getLastD 0 then throw .descending
        return { stops with listed := stops.listed ++ [value] })
    ({} : Stops)
  return match stops.listed, stops.every with
    | [], none => { every := some 8 }
    | [one], none => { every := some one }
    | _, _ => stops

/-- Turns the tabs of a line into blanks. -/
def expand (stops : Stops) (onlyFirst : Bool) : Nat → Bool → List Char → List Char
  | _, _, [] => []
  | column, active, c :: rest =>
    if !active then c :: rest
    else
      let active := !onlyFirst || c = ' ' || c = '\t'
      match c with
      | '\t' =>
        let stop := (stops.next? column).getD (column + 1)
        List.replicate (stop - column) ' ' ++ expand stops onlyFirst stop active rest
      | '\x08' => c :: expand stops onlyFirst (column - 1) active rest
      | _ => c :: expand stops onlyFirst (column + 1) active rest

/-- Where turning blanks into tabs has got to. -/
structure Blanks where
  column : Nat := 0
  /-- Blanks that may still become a tab, the last one first. -/
  pending : List Char := []
  /-- Whether the first of them came just before a stop. -/
  beforeStop : Bool := false
  afterBlank : Bool := true
  active : Bool := true

def Blanks.written (blanks : Blanks) : List Char :=
  match blanks.pending.reverse with
  | first :: second :: rest =>
    if blanks.beforeStop then '\t' :: second :: rest else first :: second :: rest
  | few => few

/-- What is written for one more character of a line, and what is then known. -/
def Blanks.step (stops : Stops) (all : Bool) (blanks : Blanks) (c : Char) : List Char × Blanks :=
  let finish (column : Nat) (blanks : Blanks) (isBlank : Bool) (c : Char) : List Char × Blanks :=
    (blanks.written ++ [c],
      { column, afterBlank := isBlank, active := blanks.active && (all || isBlank) })
  if !blanks.active then ([c], blanks)
  else if c = ' ' || c = '\t' then
    match stops.next? blanks.column with
    | none => finish blanks.column { blanks with active := false } true c
    | some stop =>
      -- A blank that came just before a stop stays, as a tab.
      let kept : Blanks := { blanks with
        pending := if blanks.beforeStop && !blanks.pending.isEmpty then ['\t'] else [] }
      let column := blanks.column + 1
      if c = '\t' then finish stop kept true '\t'
      else if blanks.afterBlank && column = stop then finish column kept true '\t'
      else
        ([], { blanks with
          column, pending := c :: blanks.pending, afterBlank := true
          beforeStop := blanks.beforeStop || column = stop })
  else if c = '\x08' then finish (blanks.column - 1) blanks false c
  else finish (blanks.column + 1) blanks false c

/-- Turns the blanks of a line into tabs. -/
def unexpand (stops : Stops) (all : Bool) : Blanks → List Char → List Char
  | blanks, [] => blanks.written
  | blanks, c :: rest =>
    let (written, blanks) := blanks.step stops all c
    written ++ unexpand stops all blanks rest

end Width

namespace ToolM

/-- The number that an option is given, which has a least value. -/
def boundedNumber (arguments : Arguments) (name what : String) (least : Nat) : ToolM (Option Nat) := do
  match arguments.value? name with
  | none => return none
  | some text =>
    match Numeral.natural? text with
    | some value =>
      if value < least then fail 1 (what ++ ": " ++ Quote.text text ++ ": Numerical result out of range")
      return some value
    | none => fail 1 (what ++ ": " ++ Quote.text text)

/-- Breaks lines that are too wide. -/
def fold : ToolM Unit := do
  modify fun tool =>
    { tool with arguments := tool.arguments.map fun text =>
        if isNumberOption text then "-w" ++ (text.drop 1).toString else text }
  let arguments ← readArguments 1 false ["b,bytes", "s,spaces", "w,width,:"]
  let width ← boundedNumber arguments "w" "invalid number of columns" 1
  let folding : Width.Folding :=
    { width := width.getD 80, bytes := arguments.has "b", atBlanks := arguments.has "s" }
  forInputs arguments.operands refuseInput fun _ descriptor => do
    let (text, error) ← readAll descriptor
    print (String.ofList (Width.fold folding (3 * text.length + 2) [] 0 [] text.toList))
    return error

def stopsOf (arguments : Arguments) : ToolM Width.Stops := do
  match Width.Stops.read (",".intercalate (arguments.values "t")) with
  | .ok stops => return stops
  | .error fault => fail 1 fault.message

/-- Makes numbers in the place of options the stops of tabs. -/
def expandStops (text : String) : String :=
  match text.toList with
  | '-' :: c :: rest =>
    if c.isDigit && rest.all fun d => d.isDigit || d = ',' then "-t" ++ String.ofList (c :: rest) else text
  | _ => text

/-- Does something with every line of some inputs. -/
def mapLines (paths : List String) (change : List Char → List Char) : ToolM Unit :=
  forInputs paths refuseInput fun _ descriptor => do
    let (_, error) ← forLines descriptor newline
      (fun line _ => do
        let body := String.ofList (change (withoutEnd '\n' line).toList)
        print (body ++ (if line.endsWith "\n" then "\n" else ""))
        return (true, ()))
      patience ()
    return error

/-- Turns tabs into blanks. -/
def expand : ToolM Unit := do
  modify fun tool => { tool with arguments := tool.arguments.map expandStops }
  let arguments ← readArguments 1 false ["i,initial", "t,tabs,:"]
  let stops ← stopsOf arguments
  mapLines arguments.operands (Width.expand stops (arguments.has "i") 0 true)

/-- Turns blanks into tabs. -/
def unexpand : ToolM Unit := do
  modify fun tool => { tool with arguments := tool.arguments.map expandStops }
  let arguments ← readArguments 1 false ["a,all", ",first-only", "t,tabs,:"]
  let stops ← stopsOf arguments
  let all := (arguments.has "a" || arguments.has "t") && !arguments.has "first-only"
  mapLines arguments.operands (Width.unexpand stops all {})

end ToolM

end Shell.Machine
