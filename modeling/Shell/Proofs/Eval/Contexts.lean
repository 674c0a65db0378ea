import Shell.Eval.Evaluate

/-! # A construct and what is around it

A construct asks of its parts nothing but to be evaluated, and does so in an order of its own. Only
the stages of a pipeline are looked at without being evaluated: a command is taken apart, and of
anything else the kind is reported. So whatever is around a part, as long as the part is no stage,
the whole makes of the part what it makes of its evaluation.
-/

namespace Shell

/-- An operator of a chain goes on to its right side after such a status. -/
def ChainOp.goesOn : ChainOp → Status → Bool
  | both, status => status.isSuccess
  | either, status => !status.isSuccess

/-- Links that come after conditions and what these guard. -/
def Links.after (rest : Links) : List (Node × Node) → Links
  | [] => rest
  | (condition, body) :: tests => .test condition body (rest.after tests)

namespace Node

/-- A construct in which one part is left open. -/
inductive Layer where
  | list (before after : List Node)
  | chainLeft (op : ChainOp) (right : Node)
  | chainRight (op : ChainOp) (left : Node)
  | negate
  | loopCondition (kind : LoopKind) (body : Node)
  | loopBody (kind : LoopKind) (condition : Node)
  | forEach (name : String) (items : List Word)
  /-- The condition of a link, after others. -/
  | test (tests : List (Node × Node)) (body : Node) (rest : Links)
  /-- What a condition guards, after other links. -/
  | guarded (tests : List (Node × Node)) (condition : Node) (rest : Links)
  | otherwise (tests : List (Node × Node))
  | arm (subject : Word) (before : List Arm) (patterns : List Word) (after : List Arm)
  | stage (before after : List Node) (background : Bool)

def Layer.fill (node : Node) : Layer → Node
  | list before after => .list (before ++ node :: after)
  | chainLeft op right => .chain op node right
  | chainRight op left => .chain op left node
  | negate => .negate node
  | loopCondition kind body => .loop kind node body
  | loopBody kind condition => .loop kind condition node
  | forEach name items => .forEach name items node
  | test tests body rest => .branch ((Links.test node body rest).after tests)
  | guarded tests condition rest => .branch ((Links.test condition node rest).after tests)
  | otherwise tests => .branch ((Links.otherwise node).after tests)
  | arm subject before patterns after => .case subject (before ++ .mk patterns node :: after)
  | stage before after background => .pipeline (before ++ node :: after) background

def Layer.isStage : Layer → Bool
  | stage .. => true
  | _ => false

/-- A position in a construct: all that is around it, the outermost first. -/
abbrev Context := List Layer

def Context.fill (node : Node) : Context → Node
  | [] => node
  | layer :: inner => layer.fill (Context.fill node inner)

/-- What stands at the position is not itself a stage of a pipeline. -/
def Context.isFree (context : Context) : Bool :=
  context.getLast?.all fun layer => !layer.isStage

/-- What has a part is no command, and its kind is the same whatever the part. -/
theorem Layer.stage?_fill (layer : Layer) (node : Node) : (layer.fill node).stage? = none := by
  cases layer <;> rfl

theorem Layer.kindName_fill (layer : Layer) (node other : Node) :
    (layer.fill node).kindName = (layer.fill other).kindName := by
  cases layer with
  | chainLeft op | chainRight op => cases op <;> rfl
  | loopCondition kind | loopBody kind => cases kind <;> rfl
  | _ => rfl

end Node

namespace EvalM

variable {σ τ : Type} (world : World σ τ) (limit : Nat)

/-- Walks links up to the first whose condition succeeds, and if there is none goes further. -/
def evaluateTests : List (Node × Node) → EvalM σ τ Status → EvalM σ τ Status
  | [], further => further
  | (condition, body) :: tests, further => do
    if (← evaluate world limit condition).isSuccess then evaluate world limit body
    else evaluateTests tests further

/-- Walks arms up to the first that accepts the subject, and if there is none goes further. -/
def evaluateArmsThen (subject : String) : List Arm → EvalM σ τ Status → EvalM σ τ Status
  | [], further => further
  | .mk patterns body :: arms, further => do
    if ← anyPattern world subject patterns then evaluate world limit body
    else evaluateArmsThen subject arms further

/-- What a construct does if its open part does something. The part itself is asked for only where
    it is a stage. -/
def runLayer (part : Node) (action : EvalM σ τ Status) : Node.Layer → EvalM σ τ Status
  | .list before after => complete do
    let _ ← evaluateList world limit before .success
    evaluateList world limit after (← action)
  | .chainLeft op right => complete do
    let status ← action
    if op.goesOn status then evaluate world limit right else return status
  | .chainRight op left => complete do
    let status ← evaluate world limit left
    if op.goesOn status then action else return status
  | .negate => complete do return (← action).negate
  | .loopCondition kind body =>
    complete (runLoop kind action (evaluate world limit body) limit .success)
  | .loopBody kind condition =>
    complete (runLoop kind (evaluate world limit condition) action limit .success)
  | .forEach name items => complete do
    let values ← items.mapM (expand world)
    runForEach name action values .success
  | .test tests body rest => complete <| evaluateTests world limit tests do
    if (← action).isSuccess then evaluate world limit body else evaluateLinks world limit rest
  | .guarded tests condition rest => complete <| evaluateTests world limit tests do
    if (← evaluate world limit condition).isSuccess then action
    else evaluateLinks world limit rest
  | .otherwise tests => complete (evaluateTests world limit tests action)
  | .arm subject before patterns after => complete do
    let text ← expand world subject
    evaluateArmsThen world limit text before do
      if ← anyPattern world text patterns then action else evaluateArms world limit text after
  | .stage before after background =>
    evaluate world limit (.pipeline (before ++ part :: after) background)

/-- What a whole construct does if what stands at a position does something. -/
def runContext (action : EvalM σ τ Status) : Node.Context → EvalM σ τ Status
  | [] => action
  | layer :: inner =>
    runLayer world limit (Node.Context.fill .finish inner) (runContext action inner) layer

/-! ## One layer -/

variable {world limit}

theorem evaluate_list (nodes : List Node) :
    evaluate world limit (.list nodes) = complete (evaluateList world limit nodes .success) := by
  rw [evaluate]

theorem evaluate_chain (op : ChainOp) (left right : Node) :
    evaluate world limit (.chain op left right) = complete (do
      let status ← evaluate world limit left
      if op.goesOn status then evaluate world limit right else return status) := by
  rw [evaluate]
  refine congrArg complete (bind_congr fun status => ?_)
  cases op <;> cases success : status.isSuccess <;> simp [ChainOp.goesOn, success]

theorem evaluateList_append (first second : List Node) (status : Status) :
    evaluateList world limit (first ++ second) status =
      (evaluateList world limit first status >>= evaluateList world limit second) := by
  induction first generalizing status with
  | nil => simp [evaluateList]
  | cons node first ih => simp [evaluateList, ih]

theorem evaluateLinks_after (rest : Links) (tests : List (Node × Node)) :
    evaluateLinks world limit (rest.after tests) =
      evaluateTests world limit tests (evaluateLinks world limit rest) := by
  induction tests with
  | nil => rfl
  | cons test tests ih => simp [Links.after, evaluateLinks, evaluateTests, ih]

theorem evaluateArms_append (subject : String) (before after : List Arm) :
    evaluateArms world limit subject (before ++ after) =
      evaluateArmsThen world limit subject before (evaluateArms world limit subject after) := by
  induction before with
  | nil => rfl
  | cons arm before ih =>
      obtain ⟨patterns, body⟩ := arm
      simp [evaluateArms, evaluateArmsThen, ih]

theorem evaluate_stage {node part : Node} (noCommand : node.stage? = none)
    (noCommand' : part.stage? = none) (kind : node.kindName = part.kindName)
    (before after : List Node) (background : Bool) :
    evaluate world limit (.pipeline (before ++ node :: after) background) =
      evaluate world limit (.pipeline (before ++ part :: after) background) := by
  have same : (stageCommands (before ++ node :: after) : EvalM σ τ (List Command)) =
      stageCommands (before ++ part :: after) := by
    induction before with
    | nil => simp only [List.nil_append, stageCommands, noCommand, noCommand', kind]
    | cons stage before ih => simp only [List.cons_append, stageCommands, ih]
  rw [evaluate, evaluate, runPipeline, runPipeline, same]

theorem evaluate_layer {layer : Node.Layer} (free : layer.isStage = false) (node part : Node) :
    evaluate world limit (layer.fill node) =
      runLayer world limit part (evaluate world limit node) layer := by
  cases layer with
  | list before after =>
      rw [Node.Layer.fill, evaluate_list, evaluateList_append]
      rfl
  | chainLeft op right => exact evaluate_chain op node right
  | chainRight op left => exact evaluate_chain op left node
  | test tests body rest | guarded tests condition rest | otherwise tests =>
      rw [Node.Layer.fill, evaluate, evaluateLinks_after]
      rfl
  | arm subject before patterns after =>
      rw [Node.Layer.fill, evaluate]
      simp only [evaluateArms_append]
      rfl
  | negate | loopCondition | loopBody | forEach =>
      rw [Node.Layer.fill, evaluate]
      rfl
  | stage => cases free

/-! ## All that is around a position -/

/-- What is around a position makes of what stands there what it makes of its evaluation. -/
theorem evaluate_fill {context : Node.Context} (free : context.isFree = true) (node : Node) :
    evaluate world limit (context.fill node) =
      runContext world limit (evaluate world limit node) context := by
  induction context with
  | nil => rfl
  | cons layer inner ih =>
      rw [Node.Context.fill, runContext]
      cases inner with
      | nil =>
          have unstaged : layer.isStage = false := by simpa [Node.Context.isFree] using free
          exact evaluate_layer unstaged node _
      | cons next inner =>
          rw [← ih (by simpa [Node.Context.isFree] using free)]
          by_cases staged : layer.isStage = true
          · cases layer with
            | stage before after background =>
                exact evaluate_stage (next.stage?_fill _) (next.stage?_fill _)
                  (next.kindName_fill _ _) before after background
            | _ => cases staged
          · exact evaluate_layer (by simpa using staged) _ _

end EvalM

end Shell
