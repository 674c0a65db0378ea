import Shell.Machine.Octets
import Shell.Machine.Call
import Shell.Machine.Utility.Numeral
import Shell.Machine.Utility.Quote

/-! # Tools

What the programs of a machine have in common: they are called by a name, collect what they write until there is
enough of it, report what goes wrong under their name, and end with a status.
-/

namespace Shell.Machine

/-- A program that runs. -/
structure Tool where
  /-- The name that it was called by, which reports begin with. -/
  name : String
  arguments : List String
  environment : List String
  /-- What has been written and not yet left the program. -/
  pending : String := ""
  status : Nat := 0

/-- What programs do. -/
abbrev ToolM := StateT Tool Act

namespace ToolM

/-- Asks the machine for something. -/
def ask (call : Call) : ToolM call.Reply :=
  fun tool next => .call call fun reply => next (reply, tool)

/-- Ends the program at once; what has not left it is lost. -/
def abort {α : Type} (code : Nat) : ToolM α :=
  fun _ _ => .exit code

/-- Reports something under the name of the program. -/
def report (text : String) : ToolM Unit := do
  discard (ask (.write 2 (Octets.toBytes ((← get).name ++ ": " ++ text ++ "\n"))))

/-- Writes all that is pending. -/
def flush : ToolM Unit := do
  let text := (← get).pending
  if !text.isEmpty then
    modify fun tool => { tool with pending := "" }
    match ← ask (.write 1 (Octets.toBytes text)) with
    | .ok _ => return
    | .error error =>
      report ("write error: " ++ error.text)
      abort 1

/-- So much is collected before it is written. -/
def maxPending : Nat := 4096

def print (text : String) : ToolM Unit := do
  modify fun tool => { tool with pending := tool.pending ++ text }
  if maxPending ≤ (← get).pending.utf8ByteSize then flush

/-- Writes a text and all before it. -/
def printNow (text : String) : ToolM Unit := do
  print text
  flush

/-- Writes all that is pending and ends the program with a status. -/
def quit {α : Type} (code : Nat) : ToolM α := do
  flush
  abort code

/-- Reports an error, after which the program goes on. -/
def complain (text : String) : ToolM Unit := do
  modify fun tool => { tool with status := 1 }
  report text

/-- Reports an error and ends the program. -/
def fail {α : Type} (code : Nat) (text : String) : ToolM α := do
  flush
  report text
  abort code

/-- Where to find help. -/
def advise {α : Type} (code : Nat) : ToolM α := do
  let text := "Try '" ++ (← get).name ++ " --help' for more information.\n"
  discard (ask (.write 2 (Octets.toBytes text)))
  abort code

/-- Reports that the program was called in a wrong way and ends it. -/
def misuse {α : Type} (code : Nat) (text : String) : ToolM α := do
  report text
  advise code

/-- Lists what an option may be given. -/
def explainChoices (choices : List String) : ToolM Unit := do
  let lines := "Valid arguments are:" :: choices.map fun choice => "  - '" ++ choice ++ "'"
  discard (ask (.write 2 (Octets.toBytes (String.join (lines.map (· ++ "\n"))))))

def missingOperand {α : Type} : ToolM α := misuse 1 "missing operand"

/-- Reports an operand too many. -/
def extraOperand {α : Type} (operand : String) : ToolM α :=
  misuse 1 ("extra operand " ++ Quote.text operand)

/-- How often something is done that is expected to end. -/
def patience : Nat := 1000000000

/-- Opens a file for reading. The name `-` stands for the input of the program. -/
def openInput (path : String) : ToolM (Except SystemError Nat) := do
  if path = "-" then return .ok 0 else ask (.openFile path { read := true } 0)

/-- Closes what was opened for reading. -/
def closeInput (descriptor : Nat) : ToolM Unit := do
  if descriptor ≠ 0 then discard (ask (.close descriptor))

def maxRead : Nat := 65536

/-- Reads a descriptor piece by piece and does something with each piece, as long as that asks for
    more. The result is the last state and the error that reading ended with, if any. -/
def forPieces {σ : Type} (descriptor : Nat) (step : ByteArray → σ → ToolM (Bool × σ)) :
    Nat → σ → ToolM (σ × Option SystemError)
  | 0, state => return (state, none)
  | fuel + 1, state => do
    match ← ask (.read descriptor maxRead) with
    | .error error => return (state, some error)
    | .ok bytes =>
      if bytes.isEmpty then return (state, none)
      let (more, state) ← step bytes state
      if more then forPieces descriptor step fuel state else return (state, none)

def readAll (descriptor : Nat) : ToolM (String × Option SystemError) := do
  let (bytes, error) ← forPieces descriptor
    (fun piece (sofar : ByteArray) => return (true, sofar ++ piece)) patience .empty
  return (Octets.ofBytes bytes, error)

/-- A line that ends in a given byte, or what there is before the end. -/
def readLine (descriptor : Nat) (last : UInt8) :
    Nat → ByteArray → ToolM (Except SystemError ByteArray)
  | 0, sofar => return .ok sofar
  | fuel + 1, sofar => do
    match ← ask (.readUpTo descriptor last) with
    | .error error => return .error error
    | .ok bytes =>
      let sofar := sofar ++ bytes
      if bytes.isEmpty || bytes[bytes.size - 1]? = some last then return .ok sofar
      else readLine descriptor last fuel sofar

/-- The byte that ends lines. -/
def newline : UInt8 := 10

/-- Reads a descriptor line by line and does something with each line, as long as that asks for
    more. A line that is ended keeps its end. -/
def forLines {σ : Type} (descriptor : Nat) (last : UInt8) (step : String → σ → ToolM (Bool × σ)) :
    Nat → σ → ToolM (σ × Option SystemError)
  | 0, state => return (state, none)
  | fuel + 1, state => do
    match ← readLine descriptor last patience .empty with
    | .error error => return (state, some error)
    | .ok bytes =>
      if bytes.isEmpty then return (state, none)
      let (more, state) ← step (Octets.ofBytes bytes) state
      if more then forLines descriptor last step fuel state else return (state, none)

/-- The value of a variable of the environment. -/
def setting? (name : String) : ToolM (Option String) := do
  let start := name ++ "="
  return ((← get).environment.find? fun entry => entry.startsWith start).map fun entry =>
    (entry.drop start.length).toString

end ToolM

/-- A text without the character at its end, if it is a given one. -/
def withoutEnd (last : Char) (text : String) : String :=
  if text.endsWith last then (text.dropEnd 1).toString else text

/-- The lines of a text. What comes after the last line break is a line unless it is empty. -/
def linesOf (text : String) : List String :=
  let lines := text.splitOn "\n"
  if lines.getLast? = some "" then lines.dropLast else lines

/-- The behaviour of a program that is called with arguments. The first one is its name. -/
def Tool.behaviour (body : ToolM Unit) (arguments environment : List String) : Behaviour :=
  let tool : Tool := {
    name := arguments.headD "", arguments := arguments.drop 1, environment }
  let whole : ToolM Nat := do
    body
    ToolM.flush
    return (← get).status
  whole.run tool fun (code, _) => .exit code

end Shell.Machine

/-! ## Options

How the arguments of a program divide into options and operands. An option is a letter after a hyphen or a word after
two; it may have a value.
-/

namespace Shell.Machine

/-- Whether an option has a value. -/
inductive OptionValue where
  | none
  | required
  /-- Only if it is written in the same argument. -/
  | possible
deriving Repr, DecidableEq, Inhabited

/-- An option that a program knows. -/
structure OptionKind where
  /-- The name that the program knows it by: its letter, or its word if it has none. -/
  name : String
  letter : Option Char
  word : Option String
  value : OptionValue := .none
deriving Repr, DecidableEq, Inhabited

/-- An option that was given. -/
structure GivenOption where
  name : String
  value : String := ""
deriving Repr, DecidableEq, Inhabited

/-- What the arguments of a program amount to. -/
structure Arguments where
  options : List GivenOption := []
  operands : List String := []
deriving Repr, DecidableEq, Inhabited

namespace Arguments

/-- True when an option was given. -/
def has (name : String) (arguments : Arguments) : Bool :=
  arguments.options.any fun option => option.name = name

/-- The value that was given last for an option. -/
def value? (name : String) (arguments : Arguments) : Option String :=
  (arguments.options.reverse.find? fun option => option.name = name).map GivenOption.value

/-- All values that were given for an option. -/
def values (name : String) (arguments : Arguments) : List String :=
  (arguments.options.filter fun option => option.name = name).map GivenOption.value

/-- The last one that was given of several options. -/
def last? (names : List String) (arguments : Arguments) : Option String :=
  (arguments.options.reverse.find? fun option => names.contains option.name).map GivenOption.name

def addOption (name value : String) (arguments : Arguments) : Arguments :=
  { arguments with options := ⟨name, value⟩ :: arguments.options }

def addOperand (operand : String) (arguments : Arguments) : Arguments :=
  { arguments with operands := operand :: arguments.operands }

end Arguments

/-- The options that a program knows. -/
structure OptionTable where
  kinds : List OptionKind
  /-- Whether options end at the first operand. -/
  strict : Bool := false

namespace OptionTable

/-- Reads a table: one entry for each option, its letter, its word and a `:` for a value, with
    commas between them, as in `"n,lines,:"`. A letter or a word may be left out; `?` marks a value
    that may be missing. -/
def ofEntries (strict : Bool) (entries : List String) : OptionTable :=
  let kinds := entries.map fun entry =>
    let parts := entry.splitOn ","
    let letter := (parts.headD "").toList.head?
    let word := (parts.drop 1).head?.filter fun word => !word.isEmpty
    let value : OptionValue := match parts[2]? with
      | some ":" => .required
      | some "?" => .possible
      | _ => .none
    { name := (letter.map String.singleton).getD (word.getD ""), letter, word, value }
  { kinds, strict }

def ofLetter? (letter : Char) (table : OptionTable) : Option OptionKind :=
  table.kinds.find? fun kind => kind.letter = some letter

/-- Reads the letters of an argument. What is left of the arguments may hold the value of an option. -/
def readLetters (table : OptionTable) :
    List Char → List String → Arguments → Except String (List String × Arguments)
  | [], rest, sofar => .ok (rest, sofar)
  | letter :: letters, rest, sofar =>
    match table.ofLetter? letter with
    | none => .error ("invalid option -- '" ++ String.singleton letter ++ "'")
    | some kind =>
      match kind.value, letters, rest with
      | .none, _, _ => readLetters table letters rest (sofar.addOption kind.name "")
      | .possible, _, _ => .ok (rest, sofar.addOption kind.name (String.ofList letters))
      | .required, [], [] =>
        .error ("option requires an argument -- '" ++ String.singleton letter ++ "'")
      | .required, [], value :: rest => .ok (rest, sofar.addOption kind.name value)
      | .required, letters, _ => .ok (rest, sofar.addOption kind.name (String.ofList letters))

/-- The options whose words begin with a text. One whose word is the text counts alone. -/
def withWord (text : String) (table : OptionTable) : List OptionKind :=
  match table.kinds.filter fun kind => kind.word = some text with
  | [] => table.kinds.filter fun kind => kind.word.any fun word => word.startsWith text
  | exact => exact

/-- Reads a word after two hyphens. -/
def readWord (table : OptionTable) (text : String) (rest : List String) (sofar : Arguments) :
    Except String (List String × Arguments) :=
  let (word, after) := text.toList.span (· ≠ '=')
  let word := String.ofList word
  let value : Option String :=
    if after.isEmpty then none else some (String.ofList (after.drop 1))
  match table.withWord word with
  | [] => .error ("unrecognized option '--" ++ text ++ "'")
  | [kind] =>
    let full := "--" ++ kind.word.getD ""
    match kind.value, value, rest with
    | .none, some _, _ => .error ("option '" ++ full ++ "' doesn't allow an argument")
    | .none, none, _ => .ok (rest, sofar.addOption kind.name "")
    | _, some value, _ => .ok (rest, sofar.addOption kind.name value)
    | .possible, none, _ => .ok (rest, sofar.addOption kind.name "")
    | .required, none, value :: rest => .ok (rest, sofar.addOption kind.name value)
    | .required, none, [] => .error ("option '" ++ full ++ "' requires an argument")
  | several =>
    let names := several.map fun kind => " '--" ++ kind.word.getD "" ++ "'"
    .error ("option '--" ++ text ++ "' is ambiguous; possibilities:" ++ String.join names)

/-- Reads arguments, of which there are at most so many. -/
def readFrom (table : OptionTable) : Nat → List String → Arguments → Except String Arguments
  | 0, _, sofar => .ok sofar
  | _, [], sofar => .ok sofar
  | fuel + 1, argument :: rest, sofar =>
    let operands (texts : List String) : Arguments := texts.foldl (fun all text => all.addOperand text) sofar
    match argument.toList with
    | ['-', '-'] => .ok (operands rest)
    | '-' :: '-' :: text => do
      let (rest, sofar) ← readWord table (String.ofList text) rest sofar
      readFrom table fuel rest sofar
    | '-' :: letter :: letters => do
      let (rest, sofar) ← readLetters table (letter :: letters) rest sofar
      readFrom table fuel rest sofar
    | _ =>
      if table.strict then .ok (operands (argument :: rest))
      else readFrom table fuel rest (sofar.addOperand argument)

def read (table : OptionTable) (arguments : List String) : Except String Arguments := do
  let found ← table.readFrom (arguments.length + 1) arguments {}
  return { options := found.options.reverse, operands := found.operands.reverse }

end OptionTable

namespace ToolM

/-- Reads the arguments of the program, or ends it with a status. -/
def readArguments (code : Nat) (strict : Bool) (entries : List String) : ToolM Arguments := do
  match (OptionTable.ofEntries strict entries).read (← get).arguments with
  | .ok arguments => return arguments
  | .error text => misuse code text

end ToolM

end Shell.Machine
