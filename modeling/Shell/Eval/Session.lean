import Shell.Arith.Evaluate
import Shell.Node
import Shell.Process.Invocation

/-! # Sessions

What an evaluator keeps while it walks a tree: the variables, the two special parameters that remember what
happened, and the states of whatever runs commands and substitutes scripts. It also keeps a record of
everything it has asked of those two, and one of the frames that it has opened and closed.
-/

namespace Shell

/-- Why an evaluation stops. -/
inductive EvalError where
  | arithmetic (cause : Arith.Error)
  /-- A script is to be substituted, and there is nothing that could run it. -/
  | noSubstituter (script : String)
  | commandFailed (reason : String)
  /-- A stage of a pipeline that is not a command with words. -/
  | unsupportedStage (kind : String)
deriving Repr, DecidableEq, Inhabited

namespace EvalError

def message : EvalError → String
  | arithmetic cause => "arithmetic error: " ++ cause.message
  | noSubstituter script => "no command substituter available for `" ++ script ++ "`"
  | commandFailed reason => "command substitution failed: " ++ reason
  | unsupportedStage kind => kind ++ " cannot be a pipeline stage"

end EvalError

/-- What ends an evaluation early. -/
inductive Fault where
  /-- An error in what is evaluated. -/
  | error (error : EvalError)
  /-- A word that has more markers than substitutions. -/
  | shortWord (word : Word)
  /-- A loop that has gone round as often as it may. -/
  | loopLimit
deriving Repr, DecidableEq, Inhabited

/-- What happens to the frames of a scope. -/
inductive FrameEvent where
  /-- One is opened, and there are so many. -/
  | opened (depth : Nat)
  /-- The innermost is closed, and so many are left. -/
  | closed (depth : Nat)
  /-- The root frame was to be closed, which is a fault of whoever opened and closed frames. -/
  | refused
deriving Repr, DecidableEq, Inhabited

/-- Something that an evaluator asks of the world. -/
inductive Request where
  | run (invocation : Invocation)
  | pipeline (stages : List Invocation)
  | background (stages : List Invocation)
  | substitute (script : String)
deriving Repr, DecidableEq, Inhabited

/-- Runs the scripts of command substitutions; `τ` is what it keeps between them. -/
abbrev Substituter (τ : Type) :=
  String → Scope → τ → Except EvalError String × Scope × τ

/-- The world as an evaluator sees it. -/
structure World (σ τ : Type) where
  spawner : Spawner σ
  /-- What runs scripts, if anything does. -/
  substituter : Option (Substituter τ)
  /-- The number of the shell's own process, as a text. -/
  processId : String

/-- What an evaluator keeps. -/
structure Session (σ τ : Type) where
  scope : Scope
  spawner : σ
  substituter : τ
  /-- The status of the construct that was completed last. -/
  lastStatus : Status := .success
  /-- The background job that was started last. -/
  lastBackground : Option JobId := none
  /-- What was asked of the world, in order. -/
  requests : List Request := []
  /-- How the evaluator opened and closed frames, the last first. -/
  frameEvents : List FrameEvent := []

namespace Session

variable {σ τ : Type}

def openFrame (session : Session σ τ) : Session σ τ :=
  let scope := session.scope.push
  { session with scope, frameEvents := .opened scope.depth :: session.frameEvents }

/-- Closes the innermost frame, if it is not the root. -/
def closeFrame (session : Session σ τ) : Session σ τ :=
  match session.scope.pop? with
  | some scope => { session with scope, frameEvents := .closed scope.depth :: session.frameEvents }
  | none => { session with frameEvents := .refused :: session.frameEvents }

end Session

/-- A step of an evaluation. What it has done to the session stays done when it ends early. -/
abbrev EvalM (σ τ : Type) := ExceptT Fault (StateM (Session σ τ))

namespace EvalM

variable {σ τ : Type}

/-- Ends the evaluation with an error. -/
def fail {α : Type} (error : EvalError) : EvalM σ τ α :=
  throw (.error error)

def modifyScope (f : Scope → Scope) : EvalM σ τ Unit :=
  modify fun session => { session with scope := f session.scope }

/-- Makes a request of the spawner. -/
def ask {α : Type} (request : Request) (answer : StateM σ α) : EvalM σ τ α :=
  modifyGet fun session =>
    let (value, spawner) := answer.run session.spawner
    (value, { session with spawner, requests := session.requests ++ [request] })

/-- Evaluates an expression and makes its assignments. -/
def arithmetic (expr : String) : EvalM σ τ Int64 := do
  let (outcome, scope) := Arith.perform expr (← get).scope
  modifyScope fun _ => scope
  match outcome with
  | .ok value => return value
  | .error cause => fail (.arithmetic cause)

/-- Has a script run and returns its output. -/
def substitute (world : World σ τ) (script : String) : EvalM σ τ String := do
  match world.substituter with
  | none => fail (.noSubstituter script)
  | some substituter =>
    let session ← get
    let (answer, scope, memory) := substituter script session.scope session.substituter
    let requests := session.requests ++ [Request.substitute script]
    set { session with scope, substituter := memory, requests }
    match answer with
    | .ok output => return output
    | .error error => fail error

/-- Does something in a frame of its own, which is closed however it ends. -/
def inFrame {α : Type} (action : EvalM σ τ α) : EvalM σ τ α := ExceptT.mk do
  modify Session.openFrame
  let result ← action.run
  modify Session.closeFrame
  return result

end EvalM

end Shell
