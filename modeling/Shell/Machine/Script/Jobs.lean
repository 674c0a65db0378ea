import Shell.Machine.Script.State

/-! # Jobs

The processes that a script starts: how they are waited for, what is said about those that a signal has ended, and
which of them go on in the background.
-/

namespace Shell.Machine.Script

namespace Member

/-- How a process has ended, if it is known. -/
def end? (entry : Member) : Option Ending := entry.ending

end Member

namespace Job

/-- True when all processes of a job have ended. -/
def isDone (job : Job) : Bool :=
  job.members.all fun member => member.ending.isSome

/-- The process that a job is known by. -/
def leader (job : Job) : Nat :=
  (job.members.head?.map Member.number).getD 0

/-- The process whose status is that of the job. -/
def last (job : Job) : Nat :=
  (job.members.getLast?.map Member.number).getD 0

end Job

namespace ScriptM

/-- How often something is done that is expected to end. -/
def patience : Nat := 1000000000

def statusOf : Ending → Nat
  | .exited code => code
  | .signaled signal => 128 + signal

def statusOfJob (job : Job) : Nat :=
  ((job.members.getLast?.bind Member.end?).map statusOf).getD 0

/-- Notes how a process of a background job has ended. -/
def noteEnding (number : Nat) (ending : Ending) : ScriptM Unit :=
  modify fun state =>
    let jobs := state.jobs.map fun job =>
      let members := job.members.map fun member =>
        if member.number = number then { member with ending := some ending } else member
      { job with members }
    { state with jobs }

/-- Says that a signal has ended a process that was waited for. -/
def announce : Ending → ScriptM Unit
  | .exited _ => return
  | .signaled signal => do
    if signal ≠ Signal.interrupt && signal ≠ Signal.pipe then
      discard (write 2 (signal.description ++ "\n"))

/-- Waits until processes have ended. `last` is how the last of them has ended, once that is known. -/
def awaitAll (wanted : Nat) : Nat → List Nat → Option Ending → ScriptM Nat
  | 0, _, last => return (last.map statusOf).getD 0
  | _, [], last => return (last.map statusOf).getD 0
  | fuel + 1, numbers, last => do
    match ← ask (.await none .untilEnded) with
    | .ok (some (number, ending)) =>
      if numbers.contains number then
        announce ending
        let last := if number = wanted then some ending else last
        awaitAll wanted fuel (numbers.filter (· ≠ number)) last
      else
        noteEnding number ending
        awaitAll wanted fuel numbers last
    | .ok none => awaitAll wanted fuel numbers last
    | .error .interrupted => awaitAll wanted fuel numbers last
    | .error _ => return (last.map statusOf).getD 127

/-- Waits until processes have ended. The status is that of the last one. -/
def awaitProcesses (numbers : List Nat) : ScriptM Nat :=
  awaitAll (numbers.getLastD 0) patience numbers none

/-- The first number, from one on, that no job has which still matters; so many are tried. -/
def freeJobNumber (jobs : List Job) : Nat → Nat → Nat
  | 0, number => number
  | count + 1, number =>
    let isFree := jobs.all fun job => job.number ≠ number || (job.isDone && job.waited)
    if isFree then number else freeJobNumber jobs count (number + 1)

/-- Adds a job to those in the background, in the place of one that does not matter any more. -/
def addJob (numbers : List Nat) (text : String) : ScriptM Unit :=
  modify fun state =>
    let number := freeJobNumber state.jobs (state.jobs.length + 1) 1
    let job : Job := { number, members := numbers.map fun number => { number }, text }
    let others := state.jobs.filter fun other => other.number ≠ number
    { state with jobs := others ++ [job], lastBackground := numbers.getLast? }

/-- Notes that somebody has waited for jobs. -/
def noteWaited (isMeant : Job → Bool) : ScriptM Unit :=
  modify fun state =>
    { state with
      jobs := state.jobs.map fun job => if isMeant job then { job with waited := true } else job }

/-- Notes how children have ended that nobody has asked for. -/
def collectEnded : Nat → ScriptM Unit
  | 0 => return
  | fuel + 1 => do
    match ← ask (.await none .none) with
    | .ok (some (number, ending)) =>
      noteEnding number ending
      collectEnded fuel
    | _ => return

def job? (number : Nat) : ScriptM (Option Job) := do
  return (← get).jobs.find? fun job => job.number = number

/-- Why a wait for a job is over. -/
inductive Waited where
  | done (status : Nat)
  | interrupted (signal : Signal)

/-- Waits until a background job has ended or a signal arrives that the script cares for.
    `announces` says whether it is told that a signal has ended a process of the job. -/
def awaitJob (announces : Bool) (number : Nat) : Nat → ScriptM Waited
  | 0 => return .done 0
  | fuel + 1 => do
    match ← job? number with
    | none => return .done 127
    | some job =>
      if job.isDone then
        noteWaited fun job => job.number = number
        return .done (statusOfJob job)
      match ← ask (.await none .untilSignal) with
      | .ok (some (child, ending)) =>
        noteEnding child ending
        if announces && job.members.any fun member => member.number = child then announce ending
        awaitJob announces number fuel
      | .ok none => awaitJob announces number fuel
      | .error .interrupted =>
        match ← ask .pendingSignal with
        | some signal => return .interrupted signal
        | none => awaitJob announces number fuel
      | .error _ => return .done 127

/-- The background job that a text names after a percent sign. -/
def findJob (text : String) : ScriptM Job := do
  let jobs := (← get).jobs
  let name := (text.drop 1).toString
  let (job, report) :=
    if name.isEmpty || name = "%" || name = "+" then (jobs.getLast?, "No current job")
    else if name = "-" then (jobs.dropLast.getLast?, "No previous job")
    else (jobs.find? fun job => some job.number = name.toNat?, "No such job: " ++ text)
  match job with
  | some job => return job
  | none => fail report

/-- The background job whose status is that of a process. -/
def findProcess (text : String) : ScriptM (Option Job) := do
  match text.toNat? with
  | some number => return (← get).jobs.reverse.find? fun job => job.last = number
  | none => fail ("Illegal number: " ++ text)

/-- Enters a part of a script that runs on its own: traps count no longer, and there are no jobs. -/
def enterSubshell : ScriptM Unit := do
  for (signal, action) in (← get).traps do
    if signal ≠ 0 && !action.isEmpty then ask (.arrange signal .default)
  modify fun state =>
    { state with
      isSubshell := true, jobs := [], nesting := state.nesting + 1
      traps := state.traps.filter fun entry => entry.2.isEmpty }

end ScriptM

end Shell.Machine.Script
