import Shell.Process.Host

/-! # Background jobs

The pipelines that were started and not waited for, under numbers that are never used twice. A job has
ended when all its stages have, and its status is that of its last stage.
-/

namespace Shell

/-- One child of a job, with its status once that is known. -/
structure Stage where
  child : Child
  status : Option Status := none
deriving Repr, DecidableEq, Inhabited

/-- A background pipeline. -/
structure Job where
  /-- The command line it was started with. -/
  command : String
  stages : List Stage
deriving Repr, DecidableEq, Inhabited

/-- Whether a job has ended. -/
inductive JobStatus where
  | running
  | done (status : Status)
deriving Repr, DecidableEq, Inhabited

namespace JobStatus

/-- A status as it is shown in listings. -/
def render : JobStatus → String
  | running => "Running"
  | done status => "Done(" ++ status.render ++ ")"

end JobStatus

variable {σ : Type}

namespace Stage

/-- Looks whether the child has ended. A status that is known stays as it is. -/
def poll (host : Host σ) (stage : Stage) : StateM σ Stage := do
  match stage.status with
  | some _ => return stage
  | none => return { stage with status := (← host.poll stage.child).map Outcome.status }

/-- Waits until the child has ended. -/
def wait (host : Host σ) (stage : Stage) : StateM σ Status := do
  match stage.status with
  | some status => return status
  | none => return (← host.wait stage.child).status

end Stage

namespace Job

/-- Looks at stages in order up to the first that has not ended. `last` is the status of the stage
    before them. -/
def pollStages (host : Host σ) : List Stage → Status → StateM σ (List Stage × JobStatus)
  | [], last => return ([], .done last)
  | stage :: rest, _ => do
    let stage ← stage.poll host
    match stage.status with
    | none => return (stage :: rest, .running)
    | some status =>
      let (rest, result) ← pollStages host rest status
      return (stage :: rest, result)

/-- Looks whether a job has ended. -/
def poll (host : Host σ) (job : Job) : StateM σ (Job × JobStatus) := do
  let (stages, status) ← pollStages host job.stages .success
  return ({ job with stages }, status)

/-- Waits for stages in order. `last` is the status of the stage before them. -/
def waitStages (host : Host σ) : List Stage → Status → StateM σ Status
  | [], last => return last
  | stage :: rest, _ => do waitStages host rest (← stage.wait host)

/-- Waits until a job has ended. -/
def wait (host : Host σ) (job : Job) : StateM σ Status :=
  waitStages host job.stages .success

end Job

/-- Background jobs by number, the oldest first. -/
structure JobTable where
  /-- The number given out last. -/
  last : JobId := 0
  jobs : List (JobId × Job) := []
deriving Repr, DecidableEq, Inhabited

namespace JobTable

/-- Enters children that were started as a job of their own. -/
def insert (command : String) (children : List Child) (table : JobTable) : JobId × JobTable :=
  let id := table.last + 1
  (id, ⟨id, table.jobs ++ [(id, { command, stages := children.map fun child => { child } })]⟩)

/-- The numbers in increasing order. -/
def ids (table : JobTable) : List JobId :=
  table.jobs.map (·.1)

def size (table : JobTable) : Nat :=
  table.jobs.length

/-- True when there are no jobs. -/
def isEmpty (table : JobTable) : Bool :=
  table.jobs.isEmpty

def get? (id : JobId) (table : JobTable) : Option Job :=
  table.jobs.lookup id

def command? (id : JobId) (table : JobTable) : Option String :=
  (table.get? id).map Job.command

/-- Puts another job in the place of the one with a number. -/
def replace (id : JobId) (job : Job) (table : JobTable) : JobTable :=
  { table with
    jobs := table.jobs.map fun entry => if entry.1 = id then (id, job) else entry }

def erase (id : JobId) (table : JobTable) : JobTable :=
  { table with jobs := table.jobs.filter fun entry => entry.1 ≠ id }

/-- Looks whether a job has ended. -/
def status (host : Host σ) (id : JobId) (table : JobTable) :
    StateM σ (Option JobStatus × JobTable) := do
  match table.get? id with
  | none => return (none, table)
  | some job =>
    let (job, status) ← job.poll host
    return (some status, table.replace id job)

/-- Divides jobs into those that have ended, with their statuses, and those that have not. -/
def sift (host : Host σ) :
    List (JobId × Job) → StateM σ (List (JobId × Status) × List (JobId × Job))
  | [] => return ([], [])
  | (id, job) :: rest => do
    let (job, status) ← job.poll host
    let (ended, left) ← sift host rest
    match status with
    | .done status => return ((id, status) :: ended, left)
    | .running => return (ended, (id, job) :: left)

/-- Removes the jobs that have ended and returns them in order of number. -/
def reap (host : Host σ) (table : JobTable) : StateM σ (List (JobId × Status) × JobTable) := do
  let (ended, jobs) ← sift host table.jobs
  return (ended, { table with jobs })

/-- Waits until a job has ended and removes it. -/
def wait (host : Host σ) (id : JobId) (table : JobTable) :
    StateM σ (Option Status × JobTable) := do
  match table.get? id with
  | none => return (none, table)
  | some job => return (some (← job.wait host), table.erase id)

end JobTable

end Shell
