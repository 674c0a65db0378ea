import Shell.Machine.Script.Builtin.Options
import Shell.Machine.Script.Builtin.Variables

/-! # Signals and jobs in the extended dialect

How scripts of the extended dialect send signals, arrange what is run when one arrives, and wait for what they have
started.
-/

/-! ## Builtins for processes

Signals, traps and jobs.
-/

namespace Shell.Machine.Script.ScriptM

/-- The signal that a text stands for, by number or by name; 0 stands for the end of the script. -/
def signal? (text : String) : Option Signal :=
  match Numeral.natural? text with
  | some number => if number ≤ Signal.greatest then some number else none
  | none => Signal.ofName? text

/-! ## Sending signals -/

/-- How `kill` is to be called. -/
def killUsage : String :=
  "Usage: kill [-s sigspec | -signum | -sigspec] [pid | job]... or\nkill -l [exitstatus]"

def sendAll (signal : Signal) : Nat → List String → ScriptM Nat
  | status, [] => return status
  | status, text :: rest => do
    let target : Int ←
      if text.startsWith "%" then pure (-((← findJob text).leader : Int))
      else if text.startsWith "-" then pure (-((← number (text.drop 1).toString) : Int))
      else pure ((← number text) : Int)
    match ← ask (.send target signal) with
    | .ok _ => sendAll signal status rest
    | .error error =>
      warn (error.text ++ "\n")
      sendAll signal 1 rest

def signalNames : String :=
  String.join ("0\n" :: ((List.range Signal.greatest).map fun n => Signal.name (n + 1) ++ "\n"))

def nameSignal (text : String) : ScriptM Nat := do
  let value ← number text
  let signal := if 128 < value then value - 128 else value
  if 0 < signal && signal ≤ Signal.greatest then emit (Signal.name signal ++ "\n")
  else fail ("invalid signal number or exit status: " ++ text)

/-- Sends signals or lists them. -/
def kill (arguments : List String) : ScriptM Nat := do
  let direct := match arguments with
    | first :: _ => if first.startsWith "-" then signal? (first.drop 1).toString else none
    | [] => none
  let (signal, lists, operands) ← match direct with
    | some signal => pure (some signal, false, arguments.drop 1)
    | none =>
      let (options, operands) ← readOptions "ls:" arguments
      let signal ← match (options.filter fun option => option.1 = 's').getLast? with
        | none => pure none
        | some (_, text) =>
          match signal? text with
          | some signal => pure (some signal)
          | none => fail ("invalid signal number or name: " ++ text)
      pure (signal, options.any fun option => option.1 = 'l', operands)
  if lists then
    match operands with
    | [] => emit signalNames
    | text :: _ => nameSignal text
  else if operands.isEmpty then fail killUsage
  else sendAll (signal.getD Signal.terminate) 0 operands

/-! ## Traps -/

def trapLine (entry : Signal × String) : String :=
  "trap -- " ++ quoteText entry.2 ++ " " ++ Signal.name entry.1 ++ "\n"

/-- Arranges what is run when a signal arrives. Without an action the signal does what it always does. -/
def setTrap (signal : Signal) (action : Option String) : ScriptM Unit := do
  modify fun state =>
    let others := state.traps.filter fun entry => entry.1 ≠ signal
    let traps := match action with
      | some action => (signal, action) :: others
      | none => others
    { state with traps := traps.mergeSort fun left right => left.1 ≤ right.1 }
  if signal ≠ 0 then
    ask (.arrange signal (match action with
      | none => .default
      | some action => if action.isEmpty then .ignored else .kept))

/-- Arranges what is run when signals arrive. -/
def setTraps (action : Option String) : List String → ScriptM Nat
  | [] => return 0
  | text :: rest => do
    match signal? text with
    | none =>
      discard (write 2 ("trap: " ++ text ++ ": bad trap\n"))
      return 1
    | some signal =>
      setTrap signal action
      setTraps action rest

/-- Shows or sets traps. -/
def trap (arguments : List String) : ScriptM Nat := do
  let (_, operands) ← readOptions "" arguments
  match operands with
  | [] => emit (String.join ((← get).traps.map trapLine))
  | [signal] => setTraps none [signal]
  | action :: signals =>
    if (Numeral.natural? action).isSome then setTraps none operands
    else setTraps (if action = "-" then none else some action) signals

/-! ## Jobs -/

def awaitJobs : List Nat → ScriptM Nat
  | [] => return 0
  | number :: rest => do
    match ← awaitJob false number patience with
    | .interrupted signal => return 128 + signal
    | .done _ => awaitJobs rest

/-- Waits for those that arguments name. `status` is that of the last one. -/
def awaitNamed : Nat → List String → ScriptM Nat
  | status, [] => return status
  | status, text :: rest => do
    let job ← if text.startsWith "%" then some <$> findJob text else findProcess text
    match job with
    | none => awaitNamed status rest
    | some job =>
      match ← awaitJob true job.number patience with
      | .interrupted signal => return 128 + signal
      | .done status => awaitNamed status rest

def wait (arguments : List String) : ScriptM Nat := do
  let (_, operands) ← readOptions "" arguments
  if operands.isEmpty then awaitJobs ((← get).jobs.map Job.number) else awaitNamed 127 operands

/-- What is said about how a job has ended, if it has. -/
def describeJob (job : Job) : String :=
  if !job.isDone then "Running"
  else
    match job.members.getLast?.bind Member.end? with
    | some (.signaled signal) => signal.description
    | some (.exited 0) => "Done"
    | some (.exited code) => "Done(" ++ toString code ++ ")"
    | none => "Done"

/-- So wide is what comes before the commands of a job. -/
def jobWidth : Nat := 33

def jobLines (withNumbers : Bool) (current previous : Option Nat) (job : Job) : String :=
  let mark := if some job.number = current then "+" else if some job.number = previous then "-" else " "
  let start := "[" ++ toString job.number ++ "] " ++ mark ++ " "
  let process := if withNumbers then toString job.leader ++ " " else ""
  let first := Numeral.padRight jobWidth (start ++ process ++ describeJob job)
  let others := job.members.drop 1
  if withNumbers then
    let lines := others.map fun member =>
      " |\n" ++ Numeral.padRight jobWidth ("".pushn ' ' start.length ++ toString member.number ++ " ")
    first ++ String.join lines ++ "\n"
  else first ++ String.join (others.map fun _ => " | ") ++ "\n"

/-- The lines that show some of the jobs that there are. One that has ended is forgotten when it has been shown. -/
def showJobs (withNumbers : Bool) : List Job → List Job → String
  | _, [] => ""
  | known, job :: rest =>
    let numbers := known.map Job.number
    let known := if job.isDone then known.filter fun other => other.number ≠ job.number else known
    jobLines withNumbers numbers.head? numbers[1]? job ++ showJobs withNumbers known rest

/-- Lists the jobs. Those that have ended are forgotten. -/
def listJobs (arguments : List String) : ScriptM Nat := do
  let (options, operands) ← readOptions "lp" arguments
  collectEnded patience
  let all := (← get).jobs.reverse
  let jobs ← if operands.isEmpty then pure all else operands.mapM findJob
  let last := options.getLast?.map (·.1)
  if last = some 'p' then
    emit (String.join (jobs.map fun job => toString job.leader ++ "\n"))
  else
    let shown := jobs.map Job.number
    modify fun state =>
      { state with jobs := state.jobs.filter fun job => !(job.isDone && shown.contains job.number) }
    emit (showJobs (last = some 'l') all jobs)

/-- Takes jobs into the foreground or into the background, if they had been made for that. -/
def resumeJob (arguments : List String) : ScriptM Nat := do
  let (_, operands) ← readOptions "" arguments
  let job := operands.head?
  discard (findJob (job.getD "%"))
  fail ("job " ++ job.getD "(null)" ++ " not created under job control")

/-- How much time has been used, which does not show. -/
def timesText : String := "0m0.000000s 0m0.000000s\n0m0.000000s 0m0.000000s\n"

/-- Shows limits, of which there are none. -/
def ulimit (arguments : List String) : ScriptM Nat := do
  let (_, operands) ← readOptions "HSatfdscmlpnvwr" arguments
  if operands.isEmpty then emit "unlimited\n" else return 0

end Shell.Machine.Script.ScriptM

namespace Shell.Machine.Script.ScriptM

/-- The signal that a text stands for, by number or by name, with or without `SIG` before it. -/
def signalOf? (text : String) : Option Signal :=
  let plain := if text.toUpper.startsWith "SIG" then (text.drop 3).toString else text
  match Numeral.natural? text with
  | some number => if number ≤ Signal.greatest then some number else none
  | none =>
    match plain.toUpper with
    | "DEBUG" => some Signal.debug
    | "ERR" => some Signal.failure
    | "RETURN" => some Signal.return_
    | _ => Signal.ofName? plain

def fullName (signal : Signal) : String :=
  if signal = 0 || Signal.greatest < signal then Signal.name signal else "SIG" ++ Signal.name signal

def signalTable : String :=
  let numbers := (List.range Signal.greatest).map (· + 1) |>.filter fun number => number ≠ 32 && number ≠ 33
  let cell (place : Nat) (number : Nat) : String :=
    Numeral.padLeft 2 ' ' (toString number) ++ ") " ++ fullName number ++
      (if (place + 1) % 5 = 0 then "\n" else "\t")
  String.join (((List.range numbers.length).zip numbers).map fun (place, number) => cell place number) ++ "\n"

/-! ## Sending signals -/

/-- Names signals that are given by number, and the other way round. -/
def nameSignals : Nat → List String → ScriptM Nat
  | status, [] => return status
  | status, text :: rest => do
    let found : Option String := match Numeral.natural? text with
      | some number =>
        let signal := if 128 < number then number - 128 else number
        if signal ≤ Signal.greatest then some (Signal.name signal) else none
      | none => (signalOf? text).map toString
    match found with
    | some name =>
      discard (emit (name ++ "\n"))
      nameSignals status rest
    | none =>
      warn (text ++ ": invalid signal specification")
      nameSignals 1 rest

/-- The job that a text names after a percent sign. -/
def jobNamed? (text : String) : ScriptM (Option Job) := do
  let jobs := (← get).jobs
  let name := (text.drop 1).toString
  return if name.isEmpty || name = "%" || name = "+" then jobs.getLast?
    else if name = "-" then (jobs.dropLast.getLast?).orElse fun _ => jobs.getLast?
    else jobs.find? fun job => some job.number = name.toNat?

/-- Sends a signal to what arguments name, one after another. The status is 0 if any of them got it. -/
def sendEach (signal : Signal) : Nat → List String → ScriptM Nat
  | status, [] => return status
  | status, text :: rest => do
    let target : Option Int ←
      if text.startsWith "%" then
        match ← jobNamed? text with
        | some job => pure (some (job.last : Int))
        | none => do
          warn (text ++ ": no such job")
          pure none
      else
        match Numeral.whole? text with
        | some number => pure (some number)
        | none => do
          warn (text ++ ": arguments must be process or job IDs")
          pure none
    match target with
    | none => sendEach signal 1 rest
    | some target =>
      match ← ask (.send target signal) with
      | .ok _ => sendEach signal status rest
      | .error error =>
        warn ("(" ++ toString target ++ ") - " ++ error.text)
        sendEach signal 1 rest

/-- Sends signals or names them. -/
def killExtended (arguments : List String) : ScriptM Nat := do
  let choose (text : String) (rest : List String) : ScriptM Nat := do
    match signalOf? text with
    | some signal => if rest.isEmpty then advise else sendEach signal 0 rest
    | none =>
      warn (text ++ ": invalid signal specification")
      return 1
  match arguments with
  | [] => advise
  | "-l" :: rest | "-L" :: rest => if rest.isEmpty then emit signalTable else nameSignals 0 rest
  | ["-s"] | ["-n"] =>
    warn (arguments.headD "" ++ ": option requires an argument")
    return 1
  | "-s" :: text :: rest | "-n" :: text :: rest => choose text rest
  | "--" :: rest => choose "TERM" rest
  | text :: rest =>
    if text.startsWith "-" && 1 < text.length then
      choose (text.drop 1).toString (if rest.head? = some "--" then rest.drop 1 else rest)
    else choose "TERM" (text :: rest)

/-! ## Traps -/

/-- The line that shows a trap. -/
def trapShown (entry : Signal × String) : String :=
  "trap -- " ++ ScriptQuote.single entry.2 ++ " " ++ fullName entry.1 ++ "\n"

/-- Arranges what is run in some cases, one after another. -/
def arrangeTraps (action : Option String) : Nat → List String → ScriptM Nat
  | status, [] => return status
  | status, text :: rest => do
    match signalOf? text with
    | some signal =>
      if signal ≤ Signal.greatest then setTrap signal action
      else
        modify fun state =>
          let others := state.traps.filter fun entry => entry.1 ≠ signal
          { state with traps := others ++ ((action.filter (!·.isEmpty)).map fun action => (signal, action)).toList }
      arrangeTraps action status rest
    | none =>
      warn (text ++ ": invalid signal specification")
      arrangeTraps action 1 rest

/-- Shows traps, or arranges what is run when signals arrive and in other cases. -/
def trapExtended (arguments : List String) : ScriptM Nat := do
  let (options, operands) ← readOptions "lp" arguments
  let traps := ((← get).traps.mergeSort fun left right => left.1 ≤ right.1)
  if options.any fun option => option.1 = 'l' then return ← emit signalTable
  let shows := options.any fun option => option.1 = 'p'
  match operands with
  | [] => emit (String.join (traps.map trapShown))
  | [text] =>
    if shows then
      let wanted := signalOf? text
      emit (String.join ((traps.filter fun entry => some entry.1 = wanted).map trapShown))
    else if (signalOf? text).isSome then arrangeTraps none 0 [text]
    else advise
  | action :: signals =>
    if shows then
      let wanted := operands.filterMap signalOf?
      emit (String.join ((traps.filter fun entry => wanted.contains entry.1).map trapShown))
    else if (Numeral.natural? action).isSome then arrangeTraps none 0 operands
    else arrangeTraps (if action = "-" then none else some action) 0 signals

/-! ## Jobs -/

/-- Waits for those that arguments name. `status` is that of the last one. -/
def awaitEach : Nat → List String → ScriptM Nat
  | status, [] => return status
  | _, text :: rest => do
    let found : Option Job ←
      if text.startsWith "%" then jobNamed? text
      else pure ((← get).jobs.reverse.find? fun job => some job.last = text.toNat?)
    match found with
    | some job =>
      match ← awaitJob false job.number patience with
      | .interrupted signal => return 128 + signal
      | .done status => awaitEach status rest
    | none =>
      if text.startsWith "%" then
        warn (text ++ ": no such job")
        awaitEach 127 rest
      else if text.all Char.isDigit then
        warn ("pid " ++ text ++ " is not a child of this shell")
        awaitEach 127 rest
      else
        warn ("\x60" ++ text ++ "': not a pid or valid job spec")
        awaitEach 1 rest

/-- Waits until any job has ended that nobody has waited for. -/
def awaitAny : Nat → ScriptM Nat
  | 0 => return 127
  | fuel + 1 => do
    let jobs := (← get).jobs.filter fun job => !job.waited
    match jobs.find? Job.isDone with
    | some job =>
      noteWaited fun other => other.number = job.number
      return statusOfJob job
    | none =>
      if jobs.isEmpty then return 127
      match ← ask (.await none .untilSignal) with
      | .ok (some (child, ending)) =>
        noteEnding child ending
        awaitAny fuel
      | .ok none => awaitAny fuel
      | .error .interrupted =>
        match ← ask .pendingSignal with
        | some signal => return 128 + signal
        | none => awaitAny fuel
      | .error _ => return 127

def waitExtended (arguments : List String) : ScriptM Nat := do
  let (options, operands) ← readOptions "fnp:" arguments
  if options.any fun option => option.1 = 'n' then awaitAny patience
  else if operands.isEmpty then awaitJobs ((← get).jobs.map Job.number)
  else awaitEach 0 operands

/-- What is said about how a job of the extended dialect has ended, if it has. -/
def jobState (job : Job) : String :=
  if !job.isDone then "Running"
  else
    match job.members.getLast?.bind Member.end? with
    | some (.signaled signal) => signal.description
    | some (.exited 0) => "Done"
    | some (.exited code) => "Exit " ++ toString code
    | none => "Done"

/-- True for a job that a signal has ended, which is forgotten at once. -/
def isBroken (job : Job) : Bool :=
  job.isDone && (job.members.getLast?.bind Member.end?) matches some (.signaled _)

/-- Lists jobs. Those that have ended are forgotten. -/
def jobsExtended (arguments : List String) : ScriptM Nat := do
  let (options, operands) ← readOptions "lnprsx" arguments
  collectEnded patience
  for text in operands do
    let found : Option Job ← jobNamed? text
    if found.isNone then return ← failWith 1 (text ++ ": no such job")
  let has (letter : Char) : Bool := options.any fun option => option.1 = letter
  let all := (← get).jobs
  let shown := all.filter fun job => !job.waited && !isBroken job && !(has 'r' && job.isDone) && !(has 's')
  let last := shown.getLast?.map Job.number
  let previous := shown.dropLast.getLast?.map Job.number
  let line (job : Job) : String :=
    let mark := if some job.number = last then "+" else if some job.number = previous then "-" else " "
    let number := if has 'l' then " " ++ toString job.leader ++ " " else "  "
    "[" ++ toString job.number ++ "]" ++ mark ++ number ++ Numeral.padRight 24 (jobState job) ++ job.text ++
      (if job.isDone then "" else " &") ++ "\n"
  modify fun state =>
    { state with jobs := state.jobs.map fun job => if job.isDone then { job with waited := true } else job }
  if has 'p' then emit (String.join (shown.map fun job => toString job.leader ++ "\n"))
  else emit (String.join (shown.map line))

/-- Forgets jobs. -/
def disown (arguments : List String) : ScriptM Nat := do
  let (options, operands) ← readOptions "ahr" arguments
  let jobs := (← get).jobs
  if operands.isEmpty then
    if options.isEmpty && jobs.all Job.isDone then
      warn "current: no such job"
      return 1
    modify fun state => { state with jobs := if options.isEmpty then state.jobs.dropLast else [] }
    return 0
  else
    let mut status := 0
    for text in operands do
      let found : Option Job ←
        if text.startsWith "%" then jobNamed? text
        else pure (jobs.find? fun job => some job.last = text.toNat?)
      match found with
      | some job =>
        modify fun state => { state with jobs := state.jobs.filter fun other => other.number ≠ job.number }
      | none =>
        warn (text ++ ": no such job")
        status := 1
    return status

/-- How much time has been used, which does not show. -/
def timesExtended : String := "0m0.000s 0m0.000s\n0m0.000s 0m0.000s\n"

/-- Shows limits. -/
def ulimitExtended (arguments : List String) : ScriptM Nat := do
  let (options, operands) ← readOptions "SHabcdefiklmnpqrstuvxPRT" arguments
  if !operands.isEmpty then return 0
  let kind := ((options.filter fun option => !"SH".contains option.1).getLast?.map (·.1)).getD 'f'
  emit (match kind with
    | 'c' => "0\n"
    | 'n' => "1048576\n"
    | 's' => "8192\n"
    | 'p' => "8\n"
    | _ => "unlimited\n")

def refuseControl : ScriptM Nat := do
  warn "no job control"
  return 1

/-! ## Options of the script's own arguments -/

/-- Finds the next option of the script. -/
def getoptsExtended (arguments : List String) : ScriptM Nat := do
  match arguments with
  | known :: name :: given => do
    let state ← get
    let list := if given.isEmpty then state.parameters else given
    let found := nextOption known list state.optionIndex state.optionOffset
    if !found.done then
      let showsErrors := (state.value? "OPTERR") ≠ some "0"
      let report := match found.report.toList with
        | [] => ""
        | 'I' :: _ => "illegal option -- " ++ refusedLetter list found
        | _ => "option requires an argument -- " ++ refusedLetter list found
      if showsErrors && !report.isEmpty then discard (write 2 (state.name ++ ": " ++ report ++ "\n"))
      match found.value with
      | some value => setValue "OPTARG" value false false
      | none => modify fun state => state.eraseVariable "OPTARG"
    setCounter "OPTIND" found.next
    let length := ((list[found.next - 2]?).getD "").length
    let offset := if found.rest.isEmpty || found.done then 0 else length - found.rest.length
    modify fun state => { state with optionIndex := found.next, optionOffset := offset }
    if !Name.isValid name.toList then return ← refuseName name
    setValue name (String.singleton found.letter) false false
    return if found.done then 1 else 0
  | _ => advise
where
  /-- The letter that was refused, which stands before what is left of the argument. -/
  refusedLetter (list : List String) (found : FoundOption) : String :=
    let argument := ((list[found.next - 2]?).getD "").toList
    match argument.reverse.drop found.rest.length with
    | letter :: _ => String.singleton letter
    | [] => ""

/-- Shows or sets aliases. -/
def aliasExtended (arguments : List String) : ScriptM Nat := do
  let line (entry : String × String) : String := "alias " ++ entry.1 ++ "=" ++ ScriptQuote.single entry.2 ++ "\n"
  let (_, operands) ← readOptions "p" arguments
  if operands.isEmpty then
    let all := (← get).aliases.mergeSort fun left right => left.1 ≤ right.1
    emit (String.join (all.map line))
  else
    let mut status := 0
    for text in operands do
      match splitAssignment text with
      | (name, some value) =>
        modify fun state =>
          { state with aliases := (name, value) :: state.aliases.filter fun entry => entry.1 ≠ name }
      | (name, none) =>
        match (← get).aliases.lookup name with
        | some value => discard (write 1 (line (name, value)))
        | none =>
          warn (name ++ ": not found")
          status := 1
    return status

/-- Takes away aliases. -/
def unaliasExtended (arguments : List String) : ScriptM Nat := do
  let (options, names) ← readOptions "a" arguments
  if !options.isEmpty then
    modify fun state => { state with aliases := [] }
    return 0
  if names.isEmpty then advise
  let mut status := 0
  for name in names do
    if ((← get).aliases.lookup name).isNone then
      warn (name ++ ": not found")
      status := 1
    modify fun state =>
      { state with aliases := state.aliases.filter fun entry => entry.1 ≠ name }
  return status

end Shell.Machine.Script.ScriptM
