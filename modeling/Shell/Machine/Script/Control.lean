import Shell.Machine.Script.Command

/-! # Control

What commands are carried out with: how loops, functions and scripts are left, how the stages of pipelines are connected,
how words become arguments and how assignments are made.
-/

namespace Shell.Machine.Script

/-- What surrounds a command. -/
structure Setting where
  /-- Whether its status is looked at, so that failing is no reason to end the script. -/
  tested : Bool := false
  /-- Whether the process ends with the command. -/
  final : Bool := false
  /-- Whether the lines of the commands are shown, if that is asked for. -/
  shown : Bool := false
  /-- Whether a program that takes the place of the script is told that there is one script less around it. -/
  lowers : Bool := false

namespace ScriptM

def setStatus (status : Nat) : ScriptM Unit :=
  modify fun state => { state with status }

/-- True when something is to be run when a signal arrives or the script ends. -/
def hasTraps (state : State) : Bool :=
  state.traps.any fun entry => !entry.2.isEmpty

def setLine (line : Nat) : ScriptM Unit :=
  modify fun state => { state with line }

/-- How a round of a loop was left. -/
inductive RoundEnd where
  | next
  | leave
deriving Repr, DecidableEq

/-- What the way in which a part of a round was left means for the loop. -/
def roundEnd (result : Except Jump Unit) : ScriptM RoundEnd := do
  match result with
  | .ok _ => return .next
  | .error (.break_ count) => if 1 < count then jump (.break_ (count - 1)) else return .leave
  | .error (.continue_ count) => if 1 < count then jump (.continue_ (count - 1)) else return .next
  | .error other => jump other

/-- True when a condition was left by a jump that begins the next round. -/
def isContinue : Except Jump Unit → Bool
  | .error (.continue_ _) => true
  | _ => false

/-- Does something as a part of a loop. -/
def inLoop {α : Type} (action : ScriptM α) : ScriptM α := do
  modify fun state => { state with loopDepth := state.loopDepth + 1 }
  andFinally action (modify fun state => { state with loopDepth := state.loopDepth - 1 })

/-- Leaves loops, as many as there are at most. -/
def leaveLoops (continues : Bool) (arguments : List String) : ScriptM Nat := do
  let count ← match arguments with
    | [] => pure 1
    | text :: _ => do
      let count ← number text
      if count = 0 then fail ("Illegal number: " ++ text)
      pure count
  setStatus 0
  let count := min count (← get).loopDepth
  if count = 0 then return 0
  else jump (if continues then .continue_ count else .break_ count)

/-- The status that leaving is to have: that of an argument, or the last one. -/
def givenStatus (arguments : List String) : ScriptM Unit := do
  match arguments with
  | text :: _ => setStatus (← number text)
  | [] =>
    match (← get).statusBeforeTrap with
    | some status => setStatus status
    | none => return

/-- Starts a part of a script that runs on its own. In the background it hears no interrupts. -/
def forkPart (inBackground isFirst : Bool) (part : ScriptM Nat) : ScriptM Nat :=
  fork do
    enterSubshell
    if inBackground then
      ask (.arrange Signal.interrupt .ignored)
      ask (.arrange Signal.quit .ignored)
      if isFirst then
        discard (ask (.close 0))
        discard (ask (.openFile "/dev/null" { read := true } 0))
    part

/-- Makes a descriptor stand for what another one stands for, which is closed. -/
def moveDescriptor (source target : Nat) : ScriptM Unit := do
  if source ≠ target then
    discard (ask (.redirect source target))
    discard (ask (.close source))

/-- Connects the input and the output of a stage with its neighbours. -/
def connect (input output unused : Option Nat) : ScriptM Unit := do
  match unused with
  | some descriptor => discard (ask (.close descriptor))
  | none => pure ()
  match input with
  | some descriptor => moveDescriptor descriptor 0
  | none => pure ()
  match output with
  | some descriptor => moveDescriptor descriptor 1
  | none => pure ()

/-- Closes a descriptor, if one is given. -/
def closeEnd (descriptor : Option Nat) : ScriptM Unit := do
  match descriptor with
  | some descriptor => discard (ask (.close descriptor))
  | none => return

/-- Starts the stages of a pipeline. The result are their numbers. -/
def startStages (start : Bool → ScriptM Unit → Command → ScriptM Nat) :
    Option Nat → Bool → List Command → ScriptM (List Nat)
  | _, _, [] => return []
  | input, isFirst, [stage] => do
    let child ← start isFirst (connect input none none) stage
    closeEnd input
    return [child]
  | input, isFirst, stage :: rest => do
    let ends : Nat × Nat ← ask .makePipe
    let child ← start isFirst (connect input (some ends.2) (some ends.1)) stage
    closeEnd input
    closeEnd (some ends.2)
    return child :: (← startStages start (some ends.1) false rest)

/-- Shows a command that is about to be run. -/
def trace (words : List String) : ScriptM Unit := do
  let start := ((← get).value? "PS4").getD ""
  discard (write 2 (start ++ " ".intercalate words ++ "\n"))

/-- A word as it is shown before a command is run. -/
def tracedWord (text : String) : String :=
  if text.isEmpty then "''"
  else if ScriptQuote.hasMeaning text then ScriptQuote.single text
  else if ScriptQuote.needsEscapes text then ScriptQuote.escaped text
  else text

/-! ## Statuses -/

/-- Waits until processes have ended, and keeps how. -/
def awaitStatuses : Nat → List Nat → List (Nat × Nat) → ScriptM (List (Nat × Nat))
  | 0, _, known => return known
  | _, [], known => return known
  | fuel + 1, numbers, known => do
    match ← ask (.await none .untilEnded) with
    | .ok (some (number, ending)) =>
      if numbers.contains number then
        announceEnding number ending
        awaitStatuses fuel (numbers.filter (· ≠ number)) ((number, statusOf ending) :: known)
      else
        noteEnding number ending
        awaitStatuses fuel numbers known
    | .ok none => awaitStatuses fuel numbers known
    | .error .interrupted => awaitStatuses fuel numbers known
    | .error _ => return known
where
  /-- Says that a signal has ended a process. -/
  announceEnding (number : Nat) : Ending → ScriptM Unit
    | .exited _ => return
    | .signaled signal => do
      if signal = Signal.terminate then discard (write 2 (signal.description ++ "\n"))
      else if signal ≠ Signal.interrupt && signal ≠ Signal.pipe then
        warn (Numeral.padLeft 5 ' ' (toString number) ++ " " ++ Numeral.padRight 23 signal.description)

/-- Waits for the stages of a pipeline of the extended dialect. -/
def awaitStages (numbers : List Nat) : ScriptM Nat := do
  let known ← awaitStatuses patience numbers []
  let statuses := numbers.map fun number => (known.lookup number).getD 127
  modify fun state => { state with statuses }
  let last := statuses.getLastD 0
  if (← get).switches.contains "pipefail" then
    return (statuses.reverse.find? (· ≠ 0)).getD 0
  else return last

/-- Waits for a process that a command was run in. -/
def awaitChild (child : Nat) : ScriptM Nat := do
  if ← isExtended then awaitStages [child] else awaitProcesses [child]

/-! ## Menus -/

/-- Blanks from one column to another, as few as there can be. -/
def indentation : Nat → Nat → Nat → String
  | 0, _, _ => ""
  | fuel + 1, from_, upTo =>
    if upTo ≤ from_ then ""
    else if from_ / 8 < upTo / 8 then "\t" ++ indentation fuel (from_ + 8 - from_ % 8) upTo
    else " " ++ indentation fuel (from_ + 1) upTo

def menu (items : List String) : String :=
  let count := items.length
  let digits (number : Nat) : Nat := (toString number).length
  let widest := (items.map String.length).foldl max 0 + digits count + 4
  let columns := max 1 (80 / widest)
  let rows := (count + columns - 1) / columns
  let columns := (count + rows - 1) / max 1 rows
  let (rows, columns) := if rows = 1 then (columns, 1) else (rows, columns)
  let cell (row column : Nat) : String :=
    let place := row + column * rows
    match items[place]? with
    | none => ""
    | some item =>
      let width := if column = 0 then digits rows else digits count
      let text := Numeral.padLeft width ' ' (toString (place + 1)) ++ ") " ++ item
      if place + rows < count then
        text ++ indentation 200 (column * widest + text.length) ((column + 1) * widest)
      else text
  String.join ((List.range rows).map fun row => String.join ((List.range columns).map (cell row)) ++ "\n")

/-! ## What is wrong with a script -/

/-- Reports what is wrong with a script of the extended dialect. -/
def reportFaults (error : SyntaxError) : ScriptM Unit := do
  let state ← get
  for (line, text) in (error.line, error.text) :: error.more do
    discard (write 2 (reportName state ++ ": " ++ state.reading ++ "line " ++ toString line ++ ": " ++ text ++ "\n"))

/-- Reports what is odd about a script of the extended dialect. -/
def reportWarnings (warnings : List (Nat × String)) : ScriptM Unit := do
  let state ← get
  for (line, text) in warnings do
    discard (write 2 (reportName state ++ ": " ++ state.reading ++ "line " ++ toString line ++ ": " ++ text ++ "\n"))

/-! ## Leaving in the extended dialect -/

/-- The number that an argument of a builtin gives, of which there may be only one. -/
def soleNumber (arguments : List String) : ScriptM (Option (Option Int)) := do
  match arguments with
  | [] => return none
  | [text] =>
    match signedNumber? text with
    | some value => return some (some value)
    | none =>
      warn (text ++ ": numeric argument required")
      return some none
  | _ => drop "too many arguments"

def statusFrom (value : Int) : Nat :=
  (value % 256).toNat

/-- Leaves the script with a status. -/
def exitExtended (arguments : List String) : ScriptM Nat := do
  match ← soleNumber arguments with
  | none => givenStatus []
  | some none => setStatus 2
  | some (some value) => setStatus (statusFrom value)
  jump .exit

/-- Leaves a function or a file with a status. -/
def returnExtended (arguments : List String) : ScriptM Nat := do
  let given ← soleNumber arguments
  let state ← get
  if state.frames.isEmpty then
    warn "can only \x60return' from a function or sourced script"
    return 2
  match given with
  | none => givenStatus []
  | some none => setStatus 2
  | some (some value) => setStatus (statusFrom value)
  jump .return_

/-- Leaves loops, as many as there are at most. -/
def leaveLoopsExtended (continues : Bool) (arguments : List String) : ScriptM Nat := do
  let depth := (← get).loopDepth
  if depth = 0 then
    warn "only meaningful in a \x60for', \x60while', or \x60until' loop"
    return 0
  match ← soleNumber arguments with
  | some none =>
    setStatus ((← get).status ||| 128)
    jump .exit
  | none => jump (if continues then .continue_ 1 else .break_ 1)
  | some (some value) =>
    if value ≤ 0 then
      warn (toString value ++ ": loop count out of range")
      setStatus 1
      jump (.break_ depth)
    else
      setStatus 0
      let count := min value.toNat depth
      jump (if continues then .continue_ count else .break_ count)

/-- The text of a script that a builtin runs, and its path. -/
def readSourced (name : String) : ScriptM (String × String) := do
  let path ←
    if name.contains '/' then pure name
    else
      match ← findFile false name .nowhere (← searchPlaces none) with
      | .found path => pure path
      | _ => pure name
  if ← isDirectory path then failWith 1 (name ++ ": is a directory")
  match ← ask (.openFile path { read := true } 0) with
  | .error error => onBehalf none (failWith 1 (name ++ ": " ++ error.text))
  | .ok descriptor =>
    let bytes ← readAll descriptor patience .empty
    discard (ask (.close descriptor))
    return (Octets.ofBytes bytes, path)

/-- The state with one script less around what is run. -/
def lowerLevel (state : State) : State :=
  match (state.value? "SHLVL").bind String.toNat? with
  | some level => state.assign "SHLVL" (toString (level - 1)) false
  | none => state

/-- The options of `exec`: the name that the program is given, whether it gets no variables, and the words. -/
def execWords (arguments : List String) : ScriptM (Option String × Bool × List String) := do
  let (options, words) ← readOptions "cla:" arguments
  let given := (options.find? fun option => option.1 = 'a').map (·.2)
  let isLogin := options.any fun option => option.1 = 'l'
  let name := given.orElse fun _ => if isLogin then words.head?.map ("-" ++ ·) else none
  return (name, options.any fun option => option.1 = 'c', words)

/-- Refuses to become a program that there is not. -/
def refuseExec {α : Type} (name : String) (status : Nat) (report : String) : ScriptM α := do
  warn (name ++ ": " ++ report)
  setStatus status
  jump .exit

/-- Becomes the program that `exec` names. -/
def execExtended (arguments : List String) : ScriptM Nat := do
  let (given, isBare, words) ← execWords arguments
  match words with
  | [] => return 0
  | name :: rest =>
    let path ←
      if name.contains '/' then
        let directory := (← get).directory
        pure (if name.startsWith "/" then name else directory ++ (if directory = "/" then "" else "/") ++
          (if name.startsWith "./" then (name.drop 2).toString else name))
      else
        match ← findFile true name .nowhere (← searchPlaces none) with
        | .found path => pure path
        | _ => refuseExec name 127 "not found"
    if !(← get).isSubshell then modify lowerLevel
    let state ← get
    let environment := if isBare then [] else environmentFor state path
    let arguments := given.getD name :: rest
    let error : SystemError ← match ← ask (.execute path arguments environment) with
      | .notAProgram => do
        let interpreter := interpreterPath state.dialect
        ask (.execute interpreter (interpreter :: path :: rest) environment)
      | error => pure error
    let isPlace ← isDirectory path
    if isPlace then refuseExec name 126 ("cannot execute: " ++ SystemError.isDirectory.text)
    else
      onBehalf none (warn (path ++ ": " ++ error.text))
      if executeStatus error = 126 then warn (path ++ ": cannot execute: " ++ error.text)
      setStatus (executeStatus error)
      jump .exit

/-- The file that a name after `.` stands for. -/
def findSource (name : String) : ScriptM String := do
  if name.contains '/' then return name
  else
    match ← findFile false name .nowhere (← searchPlaces none) with
    | .found path => return path
    | _ => fail (name ++ ": not found")

/-- The text of a script in a file. -/
def readScript (path : String) : ScriptM String := do
  match ← ask (.openFile path { read := true } 0) with
  | .error error =>
    fail ("cannot open " ++ path ++ ": " ++
      (if error = .missing || error = .notADirectory then "No such file" else error.text))
  | .ok descriptor =>
    let bytes ← readAll descriptor patience .empty
    discard (ask (.close descriptor))
    return Octets.ofBytes bytes

/-- What `command` does with its arguments. -/
inductive CommandUse where
  /-- Runs a command, looked for in some directories. -/
  | run (path : Option String) (arguments : List String)
  | describe (atLength : Bool) (path : Option String) (name : String)
  | nothing

/-- The directories in which programs are looked for by default. -/
def defaultPath : String := "/usr/local/sbin:/usr/local/bin:/usr/sbin:/usr/bin:/sbin:/bin"

/-- What `command` is asked to do. -/
def commandUse (arguments : List String) : ScriptM CommandUse := do
  let (options, operands) ← readOptions "pvV" arguments
  let path := if options.any fun option => option.1 = 'p' then some defaultPath else none
  match operands, (options.filter fun option => option.1 ≠ 'p').getLast? with
  | [], _ => return .nothing
  | operands, none => return .run path operands
  | name :: _, some (letter, _) => return .describe (letter = 'V') path name

/-- A word of a command that is expanded and is not divided, because it assigns something. -/
def expandAssignment (run : Runner) (word : Word) : ScriptM (List String) := do
  match Reader.assignment? word with
  | some (name, value) => return [name ++ "=" ++ (← expandText run .inAssignment value)]
  | none => expandFields run word

/-- The name of the builtin that words call, past any number of `command`. -/
def calledName : List String → String
  | "command" :: rest =>
    (rest.dropWhile fun text => text = "command" || text.startsWith "-").headD ""
  | name :: _ => name
  | [] => ""

/-- An assignment in the extended dialect. -/
structure Assigning where
  name : String
  subscript : Option Word := none
  appends : Bool := false
  value : Word := []
  /-- The elements of an array. -/
  items : Option (List Word) := none

def Assigning.ofWord (name : String) (word : Word) : Assigning :=
  let (start, value) : Assigning × Word := match word with
    | .target _ subscript appends :: rest => ({ name, subscript, appends }, rest)
    | _ => ({ name }, word)
  match value.getLast? with
  | some (.compound items) => { start with items := some items }
  | _ => { start with value }

/-- What stands before the value of an assignment. -/
def assigningStart (run : Runner) (assigning : Assigning) : ScriptM (String × Option String) := do
  let sign := if assigning.appends then "+=" else "="
  match assigning.subscript with
  | none => return (assigning.name ++ sign, none)
  | some word =>
    let subscript ← expandText run .nowhere word
    return (assigning.name ++ "[" ++ subscript ++ "]" ++ sign, some subscript)

/-- Makes an assignment, which is shown if that is asked for. -/
def makeAssignment (run : Runner) (exported : Bool) (assigning : Assigning) : ScriptM Unit := do
  let (start, subscript) ← assigningStart run assigning
  match assigning.items with
  | some items =>
    let elements ← expandElements run items
    let shown := elements.map fun element =>
      (element.subscript.map fun key => "[" ++ tracedWord key ++ "]=").getD "" ++ tracedWord element.text
    traceLine (start ++ "(" ++ " ".intercalate shown ++ ")")
    setElements assigning.name elements assigning.appends
  | none =>
    let text ← expandText run .inAssignment assigning.value
    traceLine (start ++ (if text.isEmpty then "" else tracedWord text))
    match subscript with
    | some subscript => setElementAt assigning.name subscript text assigning.appends
    | none => setValue assigning.name text assigning.appends exported

/-- A word of a declaration in the extended dialect, which has a number among the arguments. -/
def expandDeclared (run : Runner) (number : Nat) (word : Word) : ScriptM (List String) := do
  match Reader.assignment? word with
  | none => expandFields run word
  | some (name, value) =>
    let assigning := Assigning.ofWord name value
    let (start, _) ← assigningStart run assigning
    match assigning.items with
    | some items =>
      let elements ← expandElements run items
      modify fun state => { state with given := (number, elements) :: state.given }
      return [start]
    | none => return [start ++ (← expandText run .inAssignment assigning.value)]

/-- A word of a command in the extended dialect. One that looks like an assignment has tildes in its value. -/
def expandArgument (run : Runner) (word : Word) : ScriptM (List String) := do
  let isPlain := word.any fun
    | .text text false => text.contains '~'
    | _ => false
  match (if isPlain then Reader.assignment? word else none) with
  | some (name, value) =>
    let items ← expand run { tildes := .inAssignment, divides := true } value
    let fields := fieldsOf (← get).separators (.run (name ++ "=") false false :: items)
    return (← fields.mapM pathsOf).flatten
  | none => expandFields run word

/-- The fields of the words of a command. What is found first decides about those that follow. -/
def expandWords (run : Runner) : List String → List Word → ScriptM (List String)
  | sofar, [] => return sofar
  | sofar, word :: rest => do
    let name := calledName sofar
    let state ← get
    let declares := state.dialect.takesAssignments name && (state.functions.lookup name).isNone
    let fields ← match declares, state.dialect with
      | true, .plain => expandAssignment run word
      | true, .extended => expandDeclared run (sofar.length - 1) word
      | false, .plain => expandFields run word
      | false, .extended => expandArgument run word
    expandWords run (sofar ++ fields) rest

/-- How many characters so many lines of a text have. -/
def lengthOfLines : Nat → List Char → Nat
  | 0, _ => 0
  | _, [] => 0
  | count + 1, c :: rest =>
    if c = '\n' then lengthOfLines count rest + 1 else lengthOfLines (count + 1) rest + 1

/-- Looks for the program of a stage of a pipeline, if its name is a plain one, so that it is known. -/
def noteStage : Command → ScriptM Unit
  | .simple _ _ (word :: _) _ => do
    match word with
    | [.text name false] =>
      let state ← get
      let isPlain := Name.isValid name.toList
      if isPlain && !state.dialect.isBuiltin name && (state.functions.lookup name).isNone then
        discard (lookUp none name)
    | _ => return
  | _ => return

end ScriptM

end Shell.Machine.Script
