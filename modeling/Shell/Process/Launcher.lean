import Shell.Process.Host
import Shell.Process.JobTable

/-! # Launching commands

A launcher runs commands on a host: it finds their programs, connects the stages of a pipeline and keeps the
background jobs. A pipeline is started as a whole or not at all.
-/

/-! ## Finding programs

A name with a slash in it is a path. Any other name is looked for in the directories of a search path, in
their order, and the first file that can be executed is the program.
-/

namespace Shell.Search

/-- The directories of a search path. Empty ones do not count. -/
def directories (searchPath : String) : List String :=
  (searchPath.splitOn ":").filter fun directory => !directory.isEmpty

/-- The path of a name in a directory. An absolute name stands for itself. -/
def join (directory name : String) : String :=
  if name.startsWith "/" then name
  else if directory.endsWith "/" then directory ++ name
  else directory ++ "/" ++ name

def candidates (name searchPath : String) : List String :=
  (directories searchPath).map fun directory => join directory name

variable {σ : Type}

/-- The first path at which a name can be executed. -/
def inPath? (host : Host σ) (state : σ) (name searchPath : String) : Option String :=
  (candidates name searchPath).find? fun path =>
    host.isFile state path && host.isExecutable state path

/-- Why there is no program to start. -/
inductive Failure where
  | notFound
  | notExecutable
deriving Repr, DecidableEq, Inhabited

/-- The path of the program that a name stands for. -/
def program (host : Host σ) (state : σ) (name searchPath : String) : Except Failure String :=
  if name.contains '/' then
    if !host.pathExists state name then .error .notFound
    else if !host.isExecutable state name then .error .notExecutable
    else .ok name
  else
    match inPath? host state name searchPath with
    | some path => .ok path
    | none =>
      if (candidates name searchPath).any (host.isFile state) then .error .notExecutable
      else .error .notFound

end Shell.Search

/-! ## The launcher -/

namespace Shell

/-- How commands are started. -/
structure SpawnSettings where
  /-- The search path of a command whose environment has none. -/
  defaultPath : String := "/usr/local/bin:/usr/bin:/bin"
  /-- Whether a command sees the environment of the shell itself as well as its own. -/
  inheritEnv : Bool := false
deriving Repr, DecidableEq, Inhabited

/-- What launching keeps: settings, background jobs and the state of the host. -/
structure Launcher (σ : Type) where
  settings : SpawnSettings := {}
  jobs : JobTable := {}
  host : σ

namespace Launcher

variable {σ : Type}

def searchPath (settings : SpawnSettings) (invocation : Invocation) : String :=
  (invocation.envVar? "PATH").getD settings.defaultPath

/-- The path of the program of a command. -/
def resolve (host : Host σ) (settings : SpawnSettings) (state : σ) (invocation : Invocation)
    (name : String) : Except Search.Failure String :=
  Search.program host state name (searchPath settings invocation)

/-- A command as it is given to the host. -/
def launch (settings : SpawnSettings) (invocation : Invocation) (path : String) : Launch :=
  { path, arguments := invocation.argv.drop 1, env := invocation.env
    inheritEnv := settings.inheritEnv }

def onHost {α : Type} (action : StateM σ α) : StateM (Launcher σ) α :=
  modifyGet fun launcher =>
    let (value, host) := action.run launcher.host
    (value, { launcher with host })

/-- Runs one command to its end. -/
def run (host : Host σ) (invocation : Invocation) : StateM (Launcher σ) Outcome := do
  match invocation.program? with
  | none => return .failed "empty command"
  | some name =>
    let launcher ← get
    match resolve host launcher.settings launcher.host invocation name with
    | .error .notFound => return .notFound
    | .error .notExecutable => return .notExecutable
    | .ok path =>
      match ← onHost (host.start (launch launcher.settings invocation path)) with
      | .ok child => onHost (host.wait child)
      | .error error => return error.outcome

/-- Starts one stage of a pipeline. Its input is the output of the stage before it. -/
def startStage (host : Host σ) (settings : SpawnSettings) (before : Option Child)
    (isLast : Bool) (stage : Invocation) : StateM σ (Except SpawnError Child) := do
  let name := stage.program?.getD ""
  match resolve host settings (← get) stage name with
  | .error .notFound => return .error (.notFound name)
  | .error .notExecutable => return .error (.notExecutable name)
  | .ok path =>
    let launch := { launch settings stage path with input := before, pipesOutput := !isLast }
    match ← host.start launch with
    | .ok child => return .ok child
    | .error cause => return .error (.start name cause)

/-- Ends children and waits for them. -/
def abandon (host : Host σ) : List Child → StateM σ Unit
  | [] => return
  | child :: rest => do
    host.kill child
    discard (host.wait child)
    abandon host rest

/-- Starts the stages that are left after `started`. When one fails, those that were started are
    ended and no other is tried. -/
def startFrom (host : Host σ) (settings : SpawnSettings) (started : List Child) :
    List Invocation → StateM σ (Except SpawnError (List Child))
  | [] => return .ok started
  | stage :: rest => do
    match ← startStage host settings started.getLast? rest.isEmpty stage with
    | .ok child => startFrom host settings (started ++ [child]) rest
    | .error error =>
      abandon host started
      return .error error

def startAll (host : Host σ) (settings : SpawnSettings) (stages : List Invocation) :
    StateM σ (Except SpawnError (List Child)) :=
  if stages.isEmpty then return .error .emptyPipeline else startFrom host settings [] stages

/-- Waits for children in order. `last` is how the one before them ended. -/
def waitAll (host : Host σ) : List Child → Outcome → StateM σ Outcome
  | [], last => return last
  | child :: rest, _ => do waitAll host rest (← host.wait child)

def runPipeline (host : Host σ) (stages : List Invocation) : StateM (Launcher σ) Outcome := do
  match ← onHost (startAll host (← get).settings stages) with
  | .ok children => onHost (waitAll host children (.exited 0))
  | .error error => return error.outcome

/-- The command line of a pipeline. -/
def describe (stages : List Invocation) : String :=
  " | ".intercalate (stages.map Invocation.describe)

def spawnBackground (host : Host σ) (stages : List Invocation) :
    StateM (Launcher σ) (Except SpawnError JobId) := do
  match ← onHost (startAll host (← get).settings stages) with
  | .ok children =>
    modifyGet fun launcher =>
      let (id, jobs) := launcher.jobs.insert (describe stages) children
      (.ok id, { launcher with jobs })
  | .error error => return .error error

/-- Does something with the background jobs. -/
def onJobs {α : Type} (action : JobTable → StateM σ (α × JobTable)) : StateM (Launcher σ) α :=
  modifyGet fun launcher =>
    let ((value, jobs), host) := (action launcher.jobs).run launcher.host
    (value, { launcher with jobs, host })

/-- Runs the commands of an evaluator on a host. -/
def spawner (host : Host σ) : Spawner (Launcher σ) where
  run := run host
  runPipeline := runPipeline host
  spawnBackground := spawnBackground host

end Launcher

end Shell
