import Shell.Machine.Octets
import Shell.Machine.Call
import Shell.Machine.Script.Parse

/-! # What a running script keeps

Variables, parameters, functions, options, jobs and traps, and the monad in which scripts run. A script asks the
machine for what it needs, changes its state, and may leave what it is doing early.
-/

namespace Shell.Machine.Script

/-- A variable. One without a value may still have properties. -/
structure Variable where
  name : String
  /-- For an array, the value with the key zero. -/
  value : Option String
  exported : Bool := false
  readOnly : Bool := false
  /-- The elements of an array, in the order of their numbers. -/
  elements : Option (List (Nat × String)) := none
  /-- The entries of an array whose keys are texts, in the order in which they are shown. -/
  entries : Option (List (String × String)) := none
  /-- Whether what is assigned is an expression. -/
  isNumber : Bool := false
  /-- What becomes of the letters of what is assigned. -/
  casing : Option Casing := none
  /-- Whether the value is the name of another variable, which is meant. -/
  isReference : Bool := false
  /-- Whether an array has been given values, even if there are none. -/
  isSet : Bool := false
deriving Repr, DecidableEq, Inhabited

/-- A process that a script has started, and how it has ended. -/
structure Member where
  number : Nat
  ending : Option Ending := none
deriving Repr, DecidableEq, Inhabited

/-- A pipeline that runs in the background. -/
structure Job where
  number : Nat
  members : List Member
  /-- Whether somebody has waited for it to end. -/
  waited : Bool := false
  /-- How the job is written. -/
  text : String := ""
deriving Repr, DecidableEq, Inhabited

/-- A program that has been looked for. -/
structure KnownProgram where
  name : String
  path : String
  /-- Whether the directory has changed since then. -/
  outdated : Bool := false
  /-- How often it has been run. -/
  uses : Nat := 0
deriving Repr, DecidableEq, Inhabited

/-- Why a script leaves what it is doing. -/
inductive Jump where
  /-- Leaves so many loops. -/
  | break_ (count : Nat)
  /-- Goes on with the next round of the loop around so many others. -/
  | continue_ (count : Nat)
  /-- Leaves a function or a file. -/
  | return_
  | exit
  /-- An error that has been reported. -/
  | error
  /-- An error that ends the commands that were read together. -/
  | discard
deriving Repr, DecidableEq, Inhabited

/-- A function or a file whose commands are run. -/
structure Frame where
  function : String
  /-- The file in which the commands are. -/
  file : String
  /-- The line from which it was called. -/
  line : Nat
deriving Repr, DecidableEq, Inhabited

/-- An element of an array that is given its values as a whole. -/
structure GivenElement where
  subscript : Option String := none
  text : String
  appends : Bool := false
deriving Repr, DecidableEq, Inhabited

/-- What a script keeps. -/
structure State where
  /-- The name that the script was called by. -/
  name : String
  parameters : List String := []
  /-- In the order in which they were first set. -/
  bindings : List Variable := []
  functions : List (String × Command) := []
  aliases : List (String × String) := []
  /-- The letters of the options that are set. -/
  options : List Char := []
  status : Nat := 0
  /-- The status of the last command whose output was substituted in the current one. -/
  substituted : Nat := 0
  lastBackground : Option Nat := none
  processNumber : Nat := 0
  parentNumber : Nat := 0
  /-- The one that was started last comes last. -/
  jobs : List Job := []
  /-- The programs that have been looked for. -/
  known : List KnownProgram := []
  /-- What is to be run when a signal arrives, or at the end for number 0. -/
  traps : List (Signal × String) := []
  /-- The status before the action of a trap, while that runs. -/
  statusBeforeTrap : Option Nat := none
  /-- The line that errors are reported for. -/
  line : Nat := 1
  /-- The line that is read next. -/
  readLine : Nat := 1
  /-- The builtin that errors are reported for. -/
  builtin : Option String := none
  loopDepth : Nat := 0
  functionDepth : Nat := 0
  /-- The variables that functions have made local, the innermost function first. -/
  locals : List (List (String × Option Variable)) := []
  documents : List (Nat × Word) := []
  nextDocument : Nat := 0
  /-- The directory as the script has got there. -/
  directory : String := "/"
  /-- The number of the argument that `getopts` looks at next. -/
  optionIndex : Nat := 1
  /-- How many characters of the argument before that have been looked at. -/
  optionOffset : Nat := 0
  /-- Whether this is a part of a script that runs on its own. -/
  isSubshell : Bool := false
  dialect : Dialect := .plain
  /-- Whether the script is an argument of the program that runs it. -/
  isArgument : Bool := false
  /-- The options that are known by name only and are set. -/
  switches : List String := []
  /-- The statuses of the commands of the last pipeline. -/
  statuses : List Nat := []
  /-- The functions and files that are being run, the innermost first. -/
  frames : List Frame := []
  /-- The files that functions were defined in. -/
  origins : List (String × String) := []
  /-- What the text that is being read comes from, if it is no file. -/
  reading : String := ""
  /-- How deep the commands that are shown stand in others that are read while they run. -/
  traceDepth : Nat := 1
  /-- The directories to come back to. -/
  directories : List String := []
  /-- The last argument of the last command. -/
  lastArgument : String := ""
  /-- How many parts of scripts this is a part of that run on their own. -/
  nesting : Nat := 0
  /-- When the script began, in microseconds, and what its seconds are counted from. -/
  startTime : Nat := 0
  /-- The time when it was last asked for, in microseconds. -/
  now : Nat := 0
  /-- Where numbers by chance come from. -/
  chance : Nat := 1
  lastDrawn : Nat := 0
  /-- The descriptors that paths of pipes stand for and that are closed after the command. -/
  openPipes : List Nat := []
  /-- The names of the variables that are set for one command only. -/
  lent : List String := []
  /-- The elements that arguments of a command give arrays, by the numbers of the arguments. -/
  given : List (Nat × List GivenElement) := []

/-- Runs parts of scripts. -/
abbrev ScriptM := ExceptT Jump (StateT State Act)

namespace ScriptM

/-- Asks the machine for something. -/
def ask (call : Call) : ScriptM call.Reply :=
  ExceptT.mk fun state next => .call call fun reply => next (.ok reply, state)

/-- Starts a child that begins with the same state and ends with the status it arrives at. -/
def fork (child : ScriptM Nat) : ScriptM Nat :=
  let start (state : State) : Behaviour := child.run state fun (result, state) =>
    match result with
    | .ok code => .exit code
    | .error _ => .exit state.status
  ExceptT.mk fun state next => .fork (start state) fun number => next (.ok number, state)

/-- Ends the process. -/
def quit {α : Type} (code : Nat) : ScriptM α :=
  ExceptT.mk fun _ _ => .exit code

/-- Does something and finds out how it was left. -/
def attempt {α : Type} (action : ScriptM α) : ScriptM (Except Jump α) :=
  ExceptT.mk fun state next => action.run state fun (result, state) => next (.ok result, state)

/-- Leaves what is being done. -/
def jump {α : Type} (jump : Jump) : ScriptM α := throw jump

/-- Writes a text to a descriptor, if that is possible. -/
def write (descriptor : Nat) (text : String) : ScriptM Bool := do
  if text.isEmpty then return true
  match ← ask (.write descriptor (Octets.toBytes text)) with
  | .ok _ => return true
  | .error _ => return false

/-- The file whose commands are run, by which reports are made. -/
def reportName (state : State) : String :=
  match state.frames with
  | [] => state.name
  | frame :: _ => if frame.file.isEmpty then state.name else frame.file

/-- Reports something that is wrong. -/
def warn (text : String) : ScriptM Unit := do
  let state ← get
  let builtin := (state.builtin.map fun name => name ++ ": ").getD ""
  let start := match state.dialect with
    | .plain => state.name ++ ": " ++ toString state.line ++ ": "
    | .extended => reportName state ++ ": line " ++ toString state.line ++ ": "
  discard (write 2 (start ++ builtin ++ text ++ "\n"))

/-- True in scripts with more than the usual commands and expansions. -/
def isExtended : ScriptM Bool := do
  return (← get).dialect = .extended

/-- Reports an error and leaves with a status. -/
def failWith {α : Type} (status : Nat) (text : String) : ScriptM α := do
  warn text
  modify fun state => { state with status }
  jump .error

/-- Reports an error and leaves. -/
def fail {α : Type} (text : String) : ScriptM α := failWith 2 text

/-- Reports an error and drops the commands that were read together. -/
def drop {α : Type} (text : String) : ScriptM α := do
  warn text
  modify fun state => { state with status := 1 }
  jump .discard

def endWith {α : Type} (text : String) : ScriptM α := do
  warn text
  modify fun state => { state with status := if state.isArgument && !state.isSubshell then 127 else 1 }
  jump .exit

/-- Does something, and then something else however the first was left. -/
def andFinally {α : Type} (action : ScriptM α) (after : ScriptM Unit) : ScriptM α := do
  let result ← attempt action
  after
  match result with
  | .ok value => return value
  | .error jump => throw jump

end ScriptM

end Shell.Machine.Script

/-! ## Variables of scripts

How the variables and parameters of a script are looked up, set, listed and made local.
-/

namespace Shell.Machine.Script

namespace State

def binding? (name : String) (state : State) : Option Variable :=
  state.bindings.find? fun entry => entry.name = name

/-- The name of the variable that is meant by a name; at most so many references are followed. -/
def meant (state : State) : Nat → String → String
  | 0, name => name
  | fuel + 1, name =>
    match state.binding? name with
    | some { isReference := true, value := some other, .. } => if other.isEmpty then name else state.meant fuel other
    | _ => name

/-- So many references are followed. -/
def maxReferences : Nat := 8

/-- The value of a variable, if it has one. -/
def value? (name : String) (state : State) : Option String :=
  (state.binding? (state.meant maxReferences name)).bind Variable.value

/-- Forgets where programs are if the directories change in which they are looked for. -/
def afterChange (name : String) (state : State) : State :=
  if name = "PATH" then { state with known := [] } else state

/-- Puts a variable in the place of the one with its name. -/
def putVariable (entry : Variable) (state : State) : State :=
  let state := state.afterChange entry.name
  if (state.binding? entry.name).isSome then
    { state with
      bindings := state.bindings.map fun other =>
        if other.name = entry.name then entry else other }
  else { state with bindings := state.bindings ++ [entry] }

def eraseVariable (name : String) (state : State) : State :=
  { state.afterChange name with bindings := state.bindings.filter fun entry => entry.name ≠ name }

def hasOption (letter : Char) (state : State) : Bool :=
  state.options.contains letter

/-- Gives a number of an array an element. -/
def setElement (index : Nat) (value : String) : List (Nat × String) → List (Nat × String)
  | [] => [(index, value)]
  | (other, old) :: rest =>
    if other < index then (other, old) :: setElement index value rest
    else if other = index then (index, value) :: rest
    else (index, value) :: (other, old) :: rest

/-- The drawer that a key of an array is kept in. The drawers are shown in order. -/
def drawer (key : String) : Nat :=
  (key.foldl (fun (hash : UInt32) c => (hash * 16777619) ^^^ UInt32.ofNat c.toNat) 2166136261).toNat % 1024

/-- Gives a key of an array a value. In its drawer a new key comes first. -/
def setEntry (key value : String) (entries : List (String × String)) : List (String × String) :=
  if (entries.lookup key).isSome then
    entries.map fun (other, old) => if other = key then (key, value) else (other, old)
  else
    let (before, after) := entries.span fun entry => drawer entry.1 < drawer key
    before ++ (key, value) :: after

/-- A variable with another value. The value of an array is that with the key zero. -/
def withValue (value : String) (entry : Variable) : Variable :=
  { entry with
    value := some value
    elements := entry.elements.map (setElement 0 value)
    entries := entry.entries.map (setEntry "0" value) }

/-- Text with its letters changed. -/
def recase : Casing → String → String
  | .upper, text => text.toUpper
  | .lower, text => text.toLower
  | .swapped, text => text.map fun c => if c.isLower then c.toUpper else c.toLower

/-- Gives a variable a value, whatever it is. -/
def assign (name value : String) (exported : Bool) (state : State) : State :=
  let name := state.meant maxReferences name
  let old := (state.binding? name).getD { name, value := none }
  let state :=
    if name = "OPTIND" then
      { state with optionIndex := max 1 (value.toNat?.getD 1), optionOffset := 0 }
    else state
  let value := match old.casing with
    | some casing => recase casing value
    | none => value
  state.putVariable {
    withValue value old with exported := exported || old.exported || state.hasOption 'a' }

/-- The characters that separate fields. -/
def separators (state : State) : String :=
  (state.value? "IFS").getD " \t\n"

/-- The places in which variables are kept: a name goes to one of 39. -/
def bucket (name : String) : Nat :=
  let codes := name.toList.map Char.toNat
  (codes.foldl (· + ·) ((codes.headD 0) * 16)) % 39

/-- The exported variables in the order in which a program sees them. -/
def environment (state : State) : List String :=
  let exported := state.bindings.filter fun entry => entry.exported && entry.value.isSome
  let text (entry : Variable) : String := entry.name ++ "=" ++ entry.value.getD ""
  let sorted (place : String → Nat) (entries : List Variable) : List String :=
    let placed := entries.map fun entry => (place entry.name, text entry)
    (placed.mergeSort fun left right => left.1 ≤ right.1).map (·.2)
  match state.dialect with
  | .plain => sorted bucket exported
  | .extended =>
    let simple := exported.filter fun entry => entry.elements.isNone && entry.entries.isNone
    let (lent, others) := simple.partition fun entry => state.lent.contains entry.name
    lent.map text ++ sorted drawer others.reverse

end State

namespace ScriptM

/-- The value of a variable, if it has one. -/
def value? (name : String) : ScriptM (Option String) := do
  return (← get).value? name

def refuseChange {α : Type} (name : String) : ScriptM α := do
  if ← isExtended then drop (name ++ ": readonly variable") else fail (name ++ ": is read only")

/-- Gives a variable a value, if it may be changed. -/
def assign (name value : String) (exported : Bool) : ScriptM Unit := do
  let state ← get
  match state.binding? (state.meant State.maxReferences name) with
  | some { readOnly := true, .. } => refuseChange name
  | _ => modify fun state => state.assign name value exported

/-- Takes its value from a variable, if it may be changed. -/
def unset (name : String) : ScriptM Unit := do
  match (← get).binding? name with
  | some { readOnly := true, .. } => fail (name ++ ": is read only")
  | some _ => modify fun state => state.eraseVariable name
  | none => return

/-- Remembers a variable for the end of the innermost function. -/
def makeLocal (name : String) : ScriptM Unit :=
  modify fun state =>
    match state.locals with
    | [] => state
    | frame :: rest =>
      if (frame.lookup name).isSome then state
      else { state with locals := ((name, state.binding? name) :: frame) :: rest }

/-- Does something, after which the variables made local in it are as they were. -/
def withLocals {α : Type} (action : ScriptM α) : ScriptM α := do
  modify fun state => { state with locals := [] :: state.locals }
  andFinally action do
    modify fun state =>
      let frame := state.locals.headD []
      let state := { state with locals := state.locals.drop 1 }
      frame.foldl
        (fun state (name, entry) =>
          match entry with
          | some entry => state.putVariable entry
          | none => state.eraseVariable name)
        state

end ScriptM

/-! ## Listings -/

/-- A text between single quotes, quotes in it between double quotes; the pieces alternate, and the
    first one is between single quotes. -/
def quoteFrom : Nat → List Char → List Char
  | 0, _ => []
  | fuel + 1, text =>
    let (plain, rest) := text.span (· ≠ '\'')
    let (quotes, rest) := rest.span (· = '\'')
    let start := '\'' :: plain ++ ['\'']
    if quotes.isEmpty then start
    else
      let middle := '"' :: quotes ++ ['"']
      if rest.isEmpty then start ++ middle else start ++ middle ++ quoteFrom fuel rest

/-- A text as it is written in a script to stand for itself. -/
def quoteText (text : String) : String :=
  String.ofList (quoteFrom (text.length + 1) text.toList)

def sortByName (entries : List Variable) : List Variable :=
  entries.mergeSort fun left right => left.name ≤ right.name

/-- The line that shows a variable, after a word. -/
def showVariable (word : String) (entry : Variable) : String :=
  let start := if word.isEmpty then "" else word ++ " "
  match entry.value with
  | some value => start ++ entry.name ++ "=" ++ quoteText value ++ "\n"
  | none => start ++ entry.name ++ "\n"

end Shell.Machine.Script
