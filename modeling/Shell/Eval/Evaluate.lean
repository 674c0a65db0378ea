import Shell.Eval.Expand
import Shell.Glob.Match

/-! # Evaluation

A tree is walked to a status. How a command ends is data and flows through the constructs; only a fault in an
expansion or a pipeline that cannot be built ends the walk early. Every loop may go round a limited number of
times, which bounds the walk and is no part of the language.
-/

namespace Shell.EvalM

variable {σ τ : Type}

/-- Notes the status of a construct that has been completed. -/
def complete (action : EvalM σ τ Status) : EvalM σ τ Status := do
  let status ← action
  modify fun session => { session with lastStatus := status }
  return status

/-- Expands the words of a command and binds its assignments in the innermost frame. -/
def prepare (world : World σ τ) (command : Command) : EvalM σ τ Invocation := do
  for assignment in command.assignments do
    let value ← expand world assignment.value
    modifyScope (Scope.setLocal assignment.name value)
  let argv ← command.words.mapM (expand world)
  return ⟨argv, (← get).scope.environ.toList⟩

/-- Runs a command. One without words sets variables. -/
def runCommand (world : World σ τ) (command : Command) : EvalM σ τ Status := do
  if command.words.isEmpty then
    for assignment in command.assignments do
      let value ← expand world assignment.value
      modifyScope (Scope.set assignment.name value)
    return .success
  else
    inFrame do
      let invocation ← prepare world command
      let outcome ← ask (.run invocation) (world.spawner.run invocation)
      return outcome.status

/-- The commands of the stages of a pipeline. The first stage that has none is an error. -/
def stageCommands : List Node → EvalM σ τ (List Command)
  | [] => return []
  | stage :: rest =>
    match stage.stage? with
    | some command => return command :: (← stageCommands rest)
    | none => fail (.unsupportedStage stage.kindName)

/-- Prepares the stages of a pipeline in order, each in a frame of its own. -/
def prepareStages (world : World σ τ) (commands : List Command) : EvalM σ τ (List Invocation) :=
  commands.mapM fun command => inFrame (prepare world command)

/-- Starts commands and goes on without them. -/
def runBackground (world : World σ τ) (stages : List Invocation) : EvalM σ τ Status := do
  match ← ask (.background stages) (world.spawner.spawnBackground stages) with
  | .ok job =>
    modify fun session => { session with lastBackground := some job }
    return .success
  | .error _ => return .failure

/-- Runs a pipeline. A single command in the foreground is run as if it stood alone. -/
def runPipeline (world : World σ τ) (stages : List Node) (background : Bool) :
    EvalM σ τ Status := do
  match ← stageCommands stages, background with
  | [], _ => return .success
  | [only], false => runCommand world only
  | commands, false => do
    let prepared ← prepareStages world commands
    return (← ask (.pipeline prepared) (world.spawner.runPipeline prepared)).status
  | commands, true => do
    runBackground world (← prepareStages world commands)

/-- Goes round a loop while its condition says so. The status is that of the last round. -/
def runLoop (kind : LoopKind) (condition body : EvalM σ τ Status) :
    Nat → Status → EvalM σ τ Status
  | 0, _ => throw .loopLimit
  | rounds + 1, status => do
    let test ← condition
    let proceeds :=
      match kind with
      | .whileTrue => test.isSuccess
      | .untilTrue => !test.isSuccess
    if proceeds then runLoop kind condition body rounds (← body) else return status

/-- Does something for each value of a variable. The status is that of the last round. -/
def runForEach (name : String) (body : EvalM σ τ Status) : List String → Status → EvalM σ τ Status
  | [], status => return status
  | value :: rest, _ => do
    modifyScope (Scope.set name value)
    runForEach name body rest (← body)

/-- Expands patterns in order until one accepts a text. -/
def anyPattern (world : World σ τ) (subject : String) : List Word → EvalM σ τ Bool
  | [] => return false
  | pattern :: rest => do
    if Glob.accepts (← expand world pattern) subject then return true
    else anyPattern world subject rest

mutual

/-- Walks a construct to its status. Each loop in it may go round `limit` times. -/
def evaluate (world : World σ τ) (limit : Nat) : Node → EvalM σ τ Status
  | .list nodes => complete (evaluateList world limit nodes .success)
  | .chain op left right => complete do
    let status ← evaluate world limit left
    match op, status.isSuccess with
    | .both, true | .either, false => evaluate world limit right
    | _, _ => return status
  | .negate inner => complete do return (← evaluate world limit inner).negate
  | .loop kind condition body =>
    complete <|
      runLoop kind (evaluate world limit condition) (evaluate world limit body) limit .success
  | .forEach name items body => complete do
    let values ← items.mapM (expand world)
    runForEach name (evaluate world limit body) values .success
  | .branch links => complete (evaluateLinks world limit links)
  | .case subject arms => complete do
    evaluateArms world limit (← expand world subject) arms
  | .command command => complete (runCommand world command)
  | .arithmetic expr => complete do return .ofBool ((← arithmetic expr) != 0)
  | .pipeline stages background => complete (runPipeline world stages background)
  | .finish => complete (return .success)

/-- Walks constructs in order. The status is that of the last, or `status` if there is none. -/
def evaluateList (world : World σ τ) (limit : Nat) : List Node → Status → EvalM σ τ Status
  | [], status => return status
  | node :: rest, _ => do evaluateList world limit rest (← evaluate world limit node)

/-- Walks the links of an `if` up to the first whose condition succeeds. -/
def evaluateLinks (world : World σ τ) (limit : Nat) : Links → EvalM σ τ Status
  | .done => return .success
  | .otherwise body => evaluate world limit body
  | .test condition body rest => do
    if (← evaluate world limit condition).isSuccess then evaluate world limit body
    else evaluateLinks world limit rest

/-- Walks the arms of a `case` up to the first with a pattern that accepts the subject. -/
def evaluateArms (world : World σ τ) (limit : Nat) (subject : String) :
    List Arm → EvalM σ τ Status
  | [] => return .success
  | .mk patterns body :: rest => do
    if ← anyPattern world subject patterns then evaluate world limit body
    else evaluateArms world limit subject rest

end

-- their equations, generated here once for all proofs
attribute [grind =] stageCommands runPipeline evaluate evaluateList evaluateLinks evaluateArms

end Shell.EvalM
