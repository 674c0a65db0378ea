import Shell.Machine.Load
import Shell.Machine.Tools
import Shell.Process.Host

/-! # Machines as hosts

A machine is a system that a shell can run on. A program that has been started runs while the shell waits for
it or looks at it.
-/

/-! ## Taking turns

The processes of a machine take turns. In its turn a process goes on until it has to wait, or until it has
made so many calls. When all have to wait, time passes until a pause is over.
-/

/-! ## Answering calls

What comes of each thing that a process may ask for.
-/

namespace Shell.Machine

/-- Whether a child is one that is waited for. -/
def isAwaited (number : Nat) (wanted : Option Nat) (entry : Nat × Process) : Bool :=
  entry.2.parent = number && (wanted.isNone || wanted = some entry.1)

/-- Looks for a child that has ended, and forgets it. -/
def awaitChild (number : Nat) (wanted : Option Nat) (patience : Patience) :
    Action (Answer (Option (Nat × Ending))) := do
  let children := (← get).processes.filter (isAwaited number wanted)
  let ended := children.findSome? fun (child, process) => process.ending.map (child, ·)
  match ended with
  | some (child, ending) =>
    removeProcess child
    return .ok (some (child, ending))
  | none =>
    if children.isEmpty then return .refuse .noChildren
    let kept := ((← process? number).map Process.kept).getD []
    return match patience with
      | .none => .ok none
      | .untilEnded => .wait
      | .untilSignal => if kept.isEmpty then .wait else .refuse .interrupted

/-- Sends a signal to a process, or to all that the machine runs when none is named. -/
def send (number : Nat) (target : Int) (signal : Signal) : Action (Answer Unit) := do
  if Signal.greatest < signal then return .refuse .invalid
  let processes := (← get).processes
  let targets : List Nat :=
    if target = 0 then processes.map (·.1)
    else if target < 0 then []
    else (processes.map (·.1)).filter fun other => Int.ofNat other = target
  if targets.isEmpty then
    return if target = shellNumber then .ok () else .refuse .noProcess
  for other in targets do
    deliver other signal
  return if (← ending? number).isSome then .gone else .ok ()

def arrange (number : Nat) (signal : Signal) (disposition : Disposition) : Action Unit :=
  modifyProcess number fun process =>
    let others := process.arranged.filter fun entry => entry.1 ≠ signal
    { process with
      arranged := (signal, disposition) :: others
      kept := if disposition = .kept then process.kept else process.kept.filter (· ≠ signal) }

/-- Takes the first signal that was kept for a process. -/
def takeSignal (number : Nat) : Action (Option Signal) := do
  match ((← process? number).map Process.kept).getD [] with
  | [] => return none
  | signal :: rest =>
    modifyProcess number fun process => { process with kept := rest }
    return some signal

/-- Waits until time has passed. -/
def pause (number time : Nat) : Action (Attempt Unit) := do
  let now := (← get).clock
  match (← process? number).bind Process.wakeAt with
  | none =>
    modifyProcess number fun process => { process with wakeAt := some (now + time) }
    return .wait
  | some moment =>
    if now < moment then return .wait
    modifyProcess number fun process => { process with wakeAt := none }
    return .reply ()

/-- Makes a pipe and gives a process descriptors for its ends. -/
def makePipe (number : Nat) : Action (Attempt (Nat × Nat)) := do
  let (input, output) ← addPipe
  let reading ← addDescriptor number 0 { opened := input }
  let writing ← addDescriptor number 0 { opened := output }
  return .reply (reading, writing)

/-- Reads or sets the permissions that new files of a process do not get. -/
def maskOf (number : Nat) (mask : Option Nat) : Action (Attempt Nat) := do
  let old := ((← process? number).map Process.mask).getD 0
  match mask with
  | some mask => modifyProcess number fun process => { process with mask := mask &&& 0o777 }
  | none => pure ()
  return .reply old

/-- Makes a process matter less by so much, between -20 and 19. -/
def priority (number : Nat) (change : Int) : Action (Attempt Int) := do
  let old := ((← process? number).map Process.niceness).getD 0
  let niceness := max (-20) (min 19 (old + change))
  modifyProcess number fun process => { process with niceness }
  return .reply niceness

/-- Answers a call of a process. -/
def perform (programs : Programs) (number : Nat) : (call : Call) → Action (Attempt call.Reply)
  | .rest => return .reply ()
  | .read descriptor most => read number descriptor { most }
  | .readUpTo descriptor last => read number descriptor { most := Pipe.capacity, last }
  | .write descriptor bytes => write number descriptor bytes
  | .openFile path mode permissions => openFile number path mode permissions
  | .close descriptor => close number descriptor
  | .duplicate descriptor least => duplicate number descriptor least
  | .redirect descriptor target => redirect number descriptor target
  | .makePipe => makePipe number
  | .changeDirectory path => changeDirectory number path
  | .workingDirectory => do
    let directory ← directoryOf number
    return .reply ((← get).files.pathOf directory)
  | .inspect path follow => inspect number path follow
  | .inspectOpen descriptor => inspectOpen number descriptor
  | .list path => list number path
  | .makeDirectory path mode => makeDirectory number path mode
  | .removeDirectory path => removeDirectory number path
  | .remove path => remove number path
  | .rename path target => rename number path target
  | .linkFile path target => linkFile number path target
  | .makeLink path target => makeLink number path target
  | .readLink path => readLink number path
  | .changeMode path mode => changeMode number path mode
  | .stamp path time => stamp number path time
  | .truncate path size => truncate number path size
  | .execute path arguments environment => execute programs number path arguments environment
  | .await child patience => awaitChild number child patience
  | .send target signal => send number target signal
  | .arrange signal disposition => do
    arrange number signal disposition
    return .reply ()
  | .disposition signal => do
    match ← process? number with
    | some process => return .reply (process.disposition signal)
    | none => return .reply .default
  | .takeSignal => do return .reply (← takeSignal number)
  | .pendingSignal => do return .reply ((← process? number).bind fun process => process.kept.head?)
  | .ownNumber => return .reply number
  | .parentNumber => do return .reply (((← process? number).map Process.parent).getD orphanage)
  | .pause time => pause number time
  | .clock => do return .reply (← get).clock
  | .mask mask => maskOf number mask
  | .priority change => priority number change

end Shell.Machine

/-! ## Turns -/

namespace Shell.Machine

/-- Makes a child of a process. -/
def forkProcess (number : Nat) (behaviour : Behaviour) : Action Nat := do
  match ← process? number with
  | none => return 0
  | some parent =>
    addProcess {
      behaviour, parent := number, descriptors := parent.descriptors
      directory := parent.directory, mask := parent.mask, niceness := parent.niceness
      arranged := parent.arranged }

/-- Sets what a process does next. -/
def setBehaviour (number : Nat) (behaviour : Behaviour) : Action Unit :=
  modifyProcess number fun process => { process with behaviour }

/-- Carries out what a process asks for. False when it has to wait or has ended. -/
def step (programs : Programs) (number : Nat) : Action Bool := do
  match ← process? number with
  | none => return false
  | some process =>
    if process.ending.isSome || process.stopped then return false
    match process.behaviour with
    | .exit code =>
      finish number (.exited (code % 256))
      return true
    | .fork child next =>
      let number' ← forkProcess number child
      setBehaviour number (next number')
      return true
    | .call call next =>
      match ← perform programs number call with
      | .reply value =>
        setBehaviour number (next value)
        return true
      | .gone => return true
      | .wait => return false

/-- Carries out so many steps of a process at most. True if there was one. -/
def advance (programs : Programs) (number : Nat) : Nat → Action Bool
  | 0 => return false
  | steps + 1 => do
    if ← step programs number then
      discard (advance programs number steps)
      return true
    else return false

/-- How many calls a process may make in its turn. -/
def turn : Nat := 256

/-- Gives each process its turn. True if one of them did something. -/
def advanceAll (programs : Programs) : List Nat → Action Bool
  | [] => return false
  | number :: rest => do
    let moved ← advance programs number turn
    return (← advanceAll programs rest) || moved

/-- How long it takes until all processes have had their turn, in microseconds. -/
def roundTime : Nat := 100

/-- When the first pause is over. -/
def nextWake (machine : Machine) : Option Nat :=
  (machine.processes.filterMap fun entry => entry.2.wakeAt).min?

/-- Gives each process its turn, or lets time pass if all have to wait. False if nothing can happen. -/
def round (programs : Programs) : Action Bool := do
  let moved ← advanceAll programs ((← get).processes.map (·.1))
  if moved then
    modify fun machine => { machine with clock := machine.clock + roundTime }
    return true
  else
    match nextWake (← get) with
    | none => return false
    | some moment =>
      modify fun machine => { machine with clock := max machine.clock moment }
      return true

/-- Lets processes run until a moment, for so many rounds at most. -/
def runUntil (programs : Programs) (moment : Nat) : Nat → Action Unit
  | 0 => return
  | rounds + 1 => do
    let machine ← get
    if moment ≤ machine.clock then return
    let moved ← advanceAll programs (machine.processes.map (·.1))
    let wake := (nextWake (← get)).getD moment
    let time := if moved then machine.clock + roundTime else min moment (max wake (machine.clock + 1))
    modify fun machine => { machine with clock := time }
    runUntil programs moment rounds

/-- Lets processes run until one has ended, for so many rounds at most. -/
def runToEnd (programs : Programs) (number : Nat) : Nat → Action (Option Ending)
  | 0 => return none
  | rounds + 1 => do
    match ← ending? number with
    | some ending => return some ending
    | none => if ← round programs then runToEnd programs number rounds else return none

end Shell.Machine

namespace Shell.Machine

/-! ## Files -/

/-- The file that a path leads to for the shell. -/
def fileAt? (machine : Machine) (path : String) : Option FileId :=
  (machine.files.find machine.directory (Octets.ofString path) true).toOption

/-- True when a path leads to anything at all. -/
def pathExists (machine : Machine) (path : String) : Bool :=
  (machine.fileAt? path).isSome

/-- The permissions of the regular file that a path leads to, if it leads to one. -/
def modeOf? (machine : Machine) (path : String) : Option Nat := do
  match ← machine.files.node? (← machine.fileAt? path) with
  | { kind := .plain _, mode, .. } => some mode
  | _ => none

def isFile (machine : Machine) (path : String) : Bool :=
  (machine.modeOf? path).isSome

/-- True when a path leads to a regular file that someone may execute. -/
def isExecutable (machine : Machine) (path : String) : Bool :=
  (machine.modeOf? path).any fun mode => mode &&& 0o111 ≠ 0

/-! ## Programs -/

/-- What a program that is started finds in its environment. -/
def launchEnvironment (machine : Machine) (launch : Launch) : List String :=
  let bindings := launch.env.foldl (fun sofar entry => sofar.insert entry.1 entry.2)
    (if launch.inheritEnv then machine.environment else {})
  bindings.toList.map fun (name, value) => Octets.ofString (name ++ "=" ++ value)

/-- True when no text that a program is given has a zero byte in it. -/
def isPassable (launch : Launch) : Bool :=
  let texts := launch.arguments ++ launch.env.flatMap fun entry => [entry.1, entry.2]
  !texts.any fun text => text.contains '\x00'

/-- What a shell is told when the system refuses to start a program. -/
def refusal : SystemError → StartError
  | .missing => .missing
  | .denied => .denied
  | error => .other error.message

/-- The open file from which to read what a child writes, which is given away only once. -/
def takeOutlet (child : Child) : Action (Option Nat) :=
  modifyGet fun machine =>
    (machine.outlets.lookup child,
      { machine with outlets := machine.outlets.filter fun entry => entry.1 ≠ child })

/-- The open file that a program reads from, and whether the shell needs it no longer. -/
def inputFor (input : Option Child) : Action (Nat × Bool) := do
  match input with
  | none => return (0, false)
  | some child =>
    match ← takeOutlet child with
    | some id => return (id, true)
    | none => return (← addOpened { channel := .device .null, read := true, write := false }, true)

/-- Starts a program for a shell. -/
def start (launch : Launch) : Action (Except StartError Child) := do
  if !isPassable launch then return .error (.other "nul byte found in provided data")
  let machine ← get
  let path := Octets.ofString launch.path
  let arguments := path :: launch.arguments.map Octets.ofString
  let environment := machine.launchEnvironment launch
  match behaviourOf programs machine machine.directory path arguments environment with
  | .error error => return .error (refusal error)
  | .ok behaviour =>
    let (input, givesUp) ← inputFor launch.input
    let pipe ← if launch.pipesOutput then some <$> addPipe else pure none
    let output := (pipe.map (·.2)).getD 1
    let child ← addProcess {
      behaviour, parent := shellNumber, directory := machine.directory
      descriptors := [(0, { opened := input }), (1, { opened := output }), (2, { opened := 2 })] }
    if givesUp then release input
    match pipe with
    | none => return .ok child
    | some (reading, writing) =>
      release writing
      modify fun machine => { machine with outlets := (child, reading) :: machine.outlets }
      return .ok child

/-- How a program has ended, as a shell is told. -/
def Ending.outcome : Ending → Outcome
  | exited code => .exited code
  | signaled signal => .signaled signal

/-- How often the processes of a machine have their turn while a shell waits. -/
def patience : Nat := 1000000000

/-- How long it takes a shell to look at a program, in microseconds. -/
def lookTime : Nat := 1000

/-- A machine as a shell sees it. -/
def host : Host Machine where
  pathExists := pathExists
  isFile := isFile
  isExecutable := isExecutable
  start := start
  wait child := do
    match ← runToEnd programs child patience with
    | some ending => return ending.outcome
    | none => return .failed "the program does not end"
  poll child := do
    runUntil programs ((← get).clock + lookTime) patience
    return (← ending? child).map Ending.outcome
  kill child := do
    finish child (.signaled Signal.kill)
    match ← takeOutlet child with
    | some id => release id
    | none => return

/-- Lets all processes run until they have ended or nothing more can happen. -/
def settle : Nat → Action Unit
  | 0 => return
  | rounds + 1 => do if ← round programs then settle rounds

end Shell.Machine
