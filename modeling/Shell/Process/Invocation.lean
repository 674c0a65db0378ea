import Shell.Status

/-! # Invocations

What a command amounts to once its words are expanded, how running it can end, and what the evaluator asks of
whatever runs commands.
-/

namespace Shell

/-- A command ready to run. -/
structure Invocation where
  /-- The program and its arguments. -/
  argv : List String
  /-- The whole environment. -/
  env : List (String × String)
deriving Repr, DecidableEq, Inhabited

namespace Invocation

/-- The name of the program, if there is any word. -/
def program? (invocation : Invocation) : Option String :=
  invocation.argv.head?

/-- The first value of a name in the environment. -/
def envVar? (name : String) (invocation : Invocation) : Option String :=
  invocation.env.lookup name

/-- The words with blanks between them. -/
def describe (invocation : Invocation) : String :=
  " ".intercalate invocation.argv

end Invocation

/-- How a command ended. -/
inductive Outcome where
  | exited (code : Int)
  | signaled (signal : Int)
  | notFound
  | notExecutable
  /-- It could not be started for another reason. -/
  | failed (reason : String)
deriving Repr, DecidableEq, Inhabited

namespace Outcome

def status : Outcome → Status
  | exited code => ⟨code⟩
  | signaled signal => .ofSignal signal
  | notFound => .notFound
  | notExecutable => .notExecutable
  | failed _ => .failure

end Outcome

/-- Why a program that was found did not start. -/
inductive StartError where
  /-- Something that it needs is not there. -/
  | missing
  /-- It may not be run. -/
  | denied
  | other (reason : String)
deriving Repr, DecidableEq, Inhabited

namespace StartError

def message : StartError → String
  | missing => "No such file or directory (os error 2)"
  | denied => "Permission denied (os error 13)"
  | other reason => reason

/-- How a command ends that does not start. -/
def outcome : StartError → Outcome
  | missing => .notFound
  | denied => .notExecutable
  | other reason => .failed reason

end StartError

/-- Why a pipeline did not start. -/
inductive SpawnError where
  | emptyPipeline
  | notFound (program : String)
  | notExecutable (program : String)
  | start (program : String) (cause : StartError)
deriving Repr, DecidableEq, Inhabited

namespace SpawnError

def message : SpawnError → String
  | emptyPipeline => "pipeline has no stages"
  | notFound program => program ++ ": command not found"
  | notExecutable program => program ++ ": permission denied"
  | start program cause => "failed to start " ++ program ++ ": " ++ cause.message

/-- How a pipeline ends that does not start. Without stages there is nothing that could fail. -/
def outcome : SpawnError → Outcome
  | emptyPipeline => .exited 0
  | notFound _ => .notFound
  | notExecutable _ => .notExecutable
  | start _ cause => cause.outcome

end SpawnError

/-- The number of a background job. -/
abbrev JobId := Nat

/-- Runs commands; `σ` is what it keeps between requests. -/
structure Spawner (σ : Type) where
  /-- Runs one command to its end. -/
  run : Invocation → StateM σ Outcome
  /-- Runs commands side by side, each feeding the next. The outcome is that of the last. -/
  runPipeline : List Invocation → StateM σ Outcome
  /-- Starts commands in the same way and does not wait for them. -/
  spawnBackground : List Invocation → StateM σ (Except SpawnError JobId)

end Shell
