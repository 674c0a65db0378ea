import Shell.Machine.Call
import Shell.Scope.Bindings

/-! # Processes of a machine

A machine in memory: files, a clock, and processes that share open files. What processes write to one another
goes through pipes, and so does what reaches the shell that started them.
-/

namespace Shell.Machine

/-- Bytes on their way from those who write to those who read. -/
structure Pipe where
  content : ByteArray := .empty
  /-- How many bytes of the content have been read. -/
  taken : Nat := 0
  readers : Nat := 1
  writers : Nat := 1
  /-- Whether those who write have to wait when nobody reads for long. -/
  bounded : Bool := true
deriving Inhabited

/-- The bytes that a pipe holds before those who write have to wait. -/
def Pipe.capacity : Nat := 65536

/-- How many bytes there are to read. -/
def Pipe.size (pipe : Pipe) : Nat := pipe.content.size - pipe.taken

/-- What an open file is connected with. -/
inductive Channel where
  | file (id : FileId)
  | directory (id : FileId)
  | pipe (id : Nat)
  | device (device : Device)
deriving Repr, DecidableEq, Inhabited

/-- An open file, which several descriptors may share. -/
structure OpenFile where
  channel : Channel
  read : Bool
  write : Bool
  append : Bool := false
  /-- Where the next byte is read or written. -/
  offset : Nat := 0
  /-- How many descriptors stand for it. -/
  references : Nat := 1
deriving Inhabited

/-- What a descriptor stands for. -/
structure Descriptor where
  opened : Nat
  /-- Whether it is closed when the process becomes another program. -/
  closes : Bool := false
deriving Repr, DecidableEq, Inhabited

/-- A process. -/
structure Process where
  behaviour : Behaviour
  parent : Nat
  descriptors : List (Nat × Descriptor)
  directory : FileId
  mask : Nat := 0o022
  /-- How little the process matters. -/
  niceness : Int := 0
  /-- What was arranged for signals. -/
  arranged : List (Signal × Disposition) := []
  /-- Signals that were kept. -/
  kept : List Signal := []
  /-- When a pause is over. -/
  wakeAt : Option Nat := none
  stopped : Bool := false
  ending : Option Ending := none

/-- When machines are started, in microseconds. -/
def startTime : Nat := 1767225600000000

end Machine

/-- A machine. -/
structure Machine where
  files : Machine.FileTree := {}
  /-- The directory of the shell. -/
  directory : Machine.FileId := 0
  /-- The environment of the shell. -/
  environment : Bindings := {}
  /-- Microseconds since the beginning of 1970. -/
  clock : Nat := Machine.startTime
  /-- The first three are the input, the output and the error output of the shell. -/
  pipes : Array Machine.Pipe := #[
    { writers := 0 }, { bounded := false }, { bounded := false }]
  /-- The first three are the open files of the shell. -/
  opened : Array Machine.OpenFile := #[
    { channel := .pipe 0, read := true, write := false },
    { channel := .pipe 1, read := false, write := true },
    { channel := .pipe 2, read := false, write := true }]
  processes : List (Nat × Machine.Process) := []
  /-- The open files from which the shell lets a program read what another one writes. -/
  outlets : List (Nat × Nat) := []
  /-- The number of the process that was started last. -/
  lastProcess : Nat := 1000

namespace Machine

def shellNumber : Nat := 1000

/-- The number of the process that takes over those whose parent has ended. -/
def orphanage : Nat := 1

/-- Does something on a machine. -/
abbrev Action := StateM Machine

/-! ## Processes -/

def process? (number : Nat) : Action (Option Process) := do
  return (← get).processes.lookup number

def modifyProcess (number : Nat) (change : Process → Process) : Action Unit :=
  modify fun machine =>
    { machine with
      processes := machine.processes.map fun (other, process) =>
        if other = number then (other, change process) else (other, process) }

/-- How a process has ended, if it has. -/
def ending? (number : Nat) : Action (Option Ending) := do
  return (← process? number).bind Process.ending

def Process.disposition (process : Process) (signal : Signal) : Disposition :=
  if signal.isAbsolute then .default else (process.arranged.lookup signal).getD .default

/-! ## Open files -/

def modifyPipe (id : Nat) (change : Pipe → Pipe) : Action Unit :=
  modify fun machine => { machine with pipes := machine.pipes.modify id change }

def modifyOpened (id : Nat) (change : OpenFile → OpenFile) : Action Unit :=
  modify fun machine => { machine with opened := machine.opened.modify id change }

/-- Opens a file that no descriptor stands for yet. -/
def addOpened (file : OpenFile) : Action Nat :=
  modifyGet fun machine =>
    (machine.opened.size, { machine with opened := machine.opened.push file })

/-- Counts one more descriptor for an open file. -/
def retain (id : Nat) : Action Unit :=
  modifyOpened id fun file => { file with references := file.references + 1 }

/-- Counts one descriptor less for an open file. The last one closes it. -/
def release (id : Nat) : Action Unit := do
  modifyOpened id fun file => { file with references := file.references - 1 }
  match (← get).opened[id]? with
  | some { channel := .pipe pipe, references := 0, read, write, .. } =>
    modifyPipe pipe fun pipe =>
      { pipe with
        readers := pipe.readers - read.toNat
        writers := pipe.writers - write.toNat }
  | _ => return

/-- Makes a pipe and opens both its ends, that for reading first. -/
def addPipe : Action (Nat × Nat) := do
  let id ← modifyGet fun machine =>
    (machine.pipes.size, { machine with pipes := machine.pipes.push {} })
  let input ← addOpened { channel := .pipe id, read := true, write := false }
  let output ← addOpened { channel := .pipe id, read := false, write := true }
  return (input, output)

/-! ## Beginning and ending -/

/-- Starts a process that has the descriptors given to it. -/
def addProcess (process : Process) : Action Nat := do
  for (_, descriptor) in process.descriptors do
    retain descriptor.opened
  modifyGet fun machine =>
    let number := machine.lastProcess + 1
    (number, { machine with
      lastProcess := number, processes := machine.processes ++ [(number, process)] })

def removeProcess (number : Nat) : Action Unit :=
  modify fun machine =>
    { machine with processes := machine.processes.filter fun entry => entry.1 ≠ number }

/-- Keeps a signal for a process until it asks for it. -/
def keepSignal (number : Nat) (signal : Signal) : Action Unit :=
  modifyProcess number fun process =>
    if process.kept.contains signal then process
    else { process with kept := process.kept ++ [signal] }

/-- Lets a process know that a child has ended, if it cares. -/
def tellParent (parent : Nat) : Action Unit := do
  match ← process? parent with
  | none => return
  | some process =>
    if process.disposition Signal.child = .kept then keepSignal parent Signal.child

/-- Ends a process. Its children go to the orphanage, where nobody asks how they end. -/
def finish (number : Nat) (ending : Ending) : Action Unit := do
  match ← process? number with
  | none => return
  | some process =>
    if process.ending.isSome then return
    for (_, descriptor) in process.descriptors do
      release descriptor.opened
    modifyProcess number fun process =>
      { process with
        ending := some ending, descriptors := [], behaviour := .exit 0, kept := [], wakeAt := none }
    modify fun machine =>
      let known := machine.processes.filter fun (_, child) =>
        child.parent ≠ number || child.ending.isNone
      let processes := known.map fun (other, child) =>
        if child.parent = number then (other, { child with parent := orphanage })
        else (other, child)
      { machine with processes }
    if process.parent = orphanage then removeProcess number
    tellParent process.parent

/-- Makes a signal arrive at a process. -/
def deliver (number : Nat) (signal : Signal) : Action Unit := do
  match ← process? number with
  | none => return
  | some process =>
    if process.ending.isSome || signal = 0 then return
    if signal = Signal.continue_ then
      modifyProcess number fun process => { process with stopped := false }
    match process.disposition signal with
    | .ignored => return
    | .kept => keepSignal number signal
    | .default =>
      if signal.isHarmless then return
      else if signal.isStop then
        modifyProcess number fun process => { process with stopped := true }
      else finish number (.signaled signal)

end Machine

end Shell
