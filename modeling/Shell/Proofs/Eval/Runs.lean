import Shell.Eval.Evaluate

/-! # What a whole evaluation does to a session

A relation between sessions that every elementary step respects holds between the sessions
before and after a whole evaluation, however it ends. `Respected` lists the steps, and
`upholds_evaluate` is the induction over the tree and over the rounds of its loops. The steps of
single commands are apart, as they leave alone what an evaluator remembers.
-/

namespace Shell

/-- The stages that a request asks to be started and not waited for. -/
def Request.background? : Request → Option (List Invocation)
  | .background stages => some stages
  | .run _ | .pipeline _ | .substitute _ => none

end Shell

namespace Shell.EvalM

variable {σ τ : Type}

/-- An action leaves a session to which the one it found is related, whatever its outcome. -/
def Upholds {α : Type} (R : Session σ τ → Session σ τ → Prop) (action : EvalM σ τ α) : Prop :=
  ∀ session, R session (action.run.run session).2

/-- A preorder on sessions: what holds after each of several steps holds after all of them. -/
structure Composable (R : Session σ τ → Session σ τ → Prop) : Prop where
  refl (session : Session σ τ) : R session session
  trans {first second third : Session σ τ} : R first second → R second third → R first third

/-- A preorder on sessions that the elementary steps of a command respect. -/
structure RespectedByCommands (world : World σ τ) (R : Session σ τ → Session σ τ → Prop) : Prop
    extends Composable R where
  set (name value : String) (session : Session σ τ) :
    R session { session with scope := session.scope.set name value }
  setLocal (name value : String) (session : Session σ τ) :
    R session { session with scope := session.scope.setLocal name value }
  /-- The spawner answers a request and waits for what it has started. -/
  ask {request : Request} (waits : request.background? = none) (spawner : σ)
    (session : Session σ τ) :
    R session { session with spawner, requests := session.requests ++ [request] }
  /-- The substituter runs a script. -/
  substitute {substituter : Substituter τ} (installed : world.substituter = some substituter)
    (script : String) (session : Session σ τ) :
    R session { session with
      scope := (substituter script session.scope session.substituter).2.1
      substituter := (substituter script session.scope session.substituter).2.2
      requests := session.requests ++ [.substitute script] }
  /-- What is done between the opening and the closing of a frame is done to a session as well. -/
  frame {session session' : Session σ τ} : R session.openFrame session' → R session session'.closeFrame

/-- A preorder on sessions that the elementary steps of an evaluation respect. -/
structure Respected (world : World σ τ) (R : Session σ τ → Session σ τ → Prop) : Prop
    extends RespectedByCommands world R where
  status (status : Status) (session : Session σ τ) : R session { session with lastStatus := status }
  /-- The spawner answers a request to start something in the background. -/
  start (stages : List Invocation) (spawner : σ) (session : Session σ τ) :
    R session { session with spawner, requests := session.requests ++ [.background stages] }
  background (job : JobId) (session : Session σ τ) :
    R session { session with lastBackground := some job }

variable {α β : Type} {world : World σ τ} {R : Session σ τ → Session σ τ → Prop}

theorem run_bind (action : EvalM σ τ α) (further : α → EvalM σ τ β) (session : Session σ τ) :
    (action >>= further).run.run session =
      ExceptT.bindCont further (action.run.run session).1 (action.run.run session).2 :=
  rfl

theorem run_get_bind (further : Session σ τ → EvalM σ τ α) (session : Session σ τ) :
    (get >>= further).run.run session = (further session).run.run session :=
  rfl

theorem run_inFrame (action : EvalM σ τ α) (session : Session σ τ) :
    (inFrame action).run.run session =
      ((action.run.run session.openFrame).1, (action.run.run session.openFrame).2.closeFrame) :=
  rfl

theorem run_ask (request : Request) (answer : StateM σ α) (session : Session σ τ) :
    (EvalM.ask request answer).run.run session = (.ok (answer.run session.spawner).1, { session with
      spawner := (answer.run session.spawner).2
      requests := session.requests ++ [request] }) :=
  rfl

theorem run_runBackground (world : World σ τ) (stages : List Invocation)
    (session : Session σ τ) :
    (runBackground world stages).run.run session =
      match (world.spawner.spawnBackground stages).run session.spawner with
      | (.ok job, spawner) => (.ok .success, { session with
          spawner, requests := session.requests ++ [.background stages], lastBackground := some job })
      | (.error _, spawner) => (.ok .failure, { session with
          spawner, requests := session.requests ++ [.background stages] }) := by
  rw [runBackground, run_bind, run_ask]
  generalize (world.spawner.spawnBackground stages).run session.spawner = result
  obtain ⟨answer, spawner⟩ := result
  cases answer <;> rfl

theorem run_complete (action : EvalM σ τ Status) (session : Session σ τ) :
    (complete action).run.run session =
      match action.run.run session with
      | (.ok status, after) => (.ok status, { after with lastStatus := status })
      | (.error fault, after) => (.error fault, after) := by
  rw [complete, run_bind]
  generalize action.run.run session = result
  obtain ⟨outcome, after⟩ := result
  cases outcome <;> rfl

theorem upholds_get_bind {further : Session σ τ → EvalM σ τ α}
    (next : ∀ session, R session ((further session).run.run session).2) :
    Upholds R (get >>= further) :=
  next

namespace Composable

variable (composable : Composable R)
include composable

theorem upholds_pure (value : α) : Upholds R (pure value : EvalM σ τ α) :=
  composable.refl

theorem upholds_throw (fault : Fault) : Upholds R (throw fault : EvalM σ τ α) :=
  composable.refl

theorem upholds_get : Upholds R (get : EvalM σ τ (Session σ τ)) :=
  composable.refl

theorem relates_bind_of {action : EvalM σ τ α} {further : α → EvalM σ τ β} {session : Session σ τ}
    (first : R session (action.run.run session).2)
    (next : ∀ value after, action.run.run session = (.ok value, after) →
      R after ((further value).run.run after).2) :
    R session ((action >>= further).run.run session).2 := by
  rw [run_bind]
  generalize action.run.run session = result at first next ⊢
  obtain ⟨outcome, session'⟩ := result
  cases outcome with
  | error fault => exact first
  | ok value => exact composable.trans first (next value session' rfl)

theorem relates_bind {action : EvalM σ τ α} {further : α → EvalM σ τ β} {session : Session σ τ}
    (first : R session (action.run.run session).2) (next : ∀ value, Upholds R (further value)) :
    R session ((action >>= further).run.run session).2 :=
  composable.relates_bind_of first fun value after _ => next value after

theorem upholds_bind {action : EvalM σ τ α} {further : α → EvalM σ τ β} (first : Upholds R action)
    (next : ∀ value, Upholds R (further value)) : Upholds R (action >>= further) :=
  fun session => composable.relates_bind (first session) next

theorem upholds_mapM {action : α → EvalM σ τ β} (each : ∀ item, Upholds R (action item))
    (items : List α) : Upholds R (items.mapM action) := by
  induction items with
  | nil => exact composable.upholds_pure []
  | cons item items ih =>
      rw [List.mapM_cons]
      refine composable.upholds_bind (each item) fun value => ?_
      exact composable.upholds_bind ih fun values => composable.upholds_pure (value :: values)

theorem upholds_forIn {action : α → β → EvalM σ τ (ForInStep β)}
    (each : ∀ item value, Upholds R (action item value)) (items : List α) (value : β) :
    Upholds R (forIn items value action) := by
  induction items generalizing value with
  | nil => exact composable.upholds_pure value
  | cons item items ih =>
      rw [List.forIn_cons]
      refine composable.upholds_bind (each item value) fun step => ?_
      cases step with
      | done value => exact composable.upholds_pure value
      | yield value => exact ih value

end Composable

namespace RespectedByCommands

variable (respected : RespectedByCommands world R)
include respected

/-! ## Elementary actions -/

theorem upholds_inFrame {action : EvalM σ τ α} (inside : Upholds R action) :
    Upholds R (inFrame action) :=
  fun session => respected.frame (inside session.openFrame)

theorem upholds_ask {request : Request} (waits : request.background? = none)
    (answer : StateM σ α) : Upholds R (EvalM.ask request answer : EvalM σ τ α) :=
  fun session => respected.ask waits (answer.run session.spawner).2 session

/-! ## Expansion -/

theorem commit (writes : List (String × Int64)) (session : Session σ τ) :
    R session { session with scope := Arith.commit writes session.scope } := by
  induction writes generalizing session with
  | nil => exact respected.refl session
  | cons entry writes ih =>
      exact respected.trans (respected.set entry.1 (Arith.Numeral.render entry.2) session) (ih _)

theorem upholds_arithmetic (expr : String) : Upholds R (arithmetic expr : EvalM σ τ Int64) := by
  refine upholds_get_bind fun session => ?_
  have assigned : R session { session with scope := (Arith.perform expr session.scope).2 } := by
    unfold Arith.perform
    split
    next result _ => exact respected.commit result.writes session
    next => exact respected.refl session
  refine respected.relates_bind assigned fun _ => ?_
  split
  · exact respected.upholds_pure _
  · exact respected.upholds_throw _

theorem upholds_substitute (script : String) : Upholds R (EvalM.substitute world script) := by
  cases installed : world.substituter with
  | none =>
      simp only [EvalM.substitute, installed]
      exact respected.upholds_throw _
  | some substituter =>
      simp only [EvalM.substitute, installed]
      refine upholds_get_bind fun session => ?_
      refine respected.relates_bind (respected.substitute installed script session) fun _ => ?_
      split
      · exact respected.upholds_pure _
      · exact respected.upholds_throw _

theorem upholds_resolve (sub : Substitution) : Upholds R (resolve world sub) := by
  cases sub with
  | parameter name =>
      exact respected.upholds_bind respected.upholds_get fun _ => respected.upholds_pure _
  | arithmetic expr =>
      exact respected.upholds_bind (respected.upholds_arithmetic expr) fun _ =>
        respected.upholds_pure _
  | command script =>
      exact respected.upholds_bind (respected.upholds_substitute script) fun _ =>
        respected.upholds_pure _

theorem upholds_expandFrom (word : Word) (text : List Char) (subs : List Substitution) :
    Upholds R (expandFrom world word text subs) := by
  induction text generalizing subs with
  | nil => exact respected.upholds_pure []
  | cons c rest ih =>
      simp only [expandFrom]
      split
      · cases subs with
        | nil => exact respected.upholds_throw _
        | cons sub subs =>
            refine respected.upholds_bind (respected.upholds_resolve sub) fun value => ?_
            exact respected.upholds_bind (ih subs) fun _ => respected.upholds_pure _
      · exact respected.upholds_bind (ih subs) fun _ => respected.upholds_pure _

theorem upholds_expand (word : Word) : Upholds R (expand world word) := by
  unfold expand
  split
  · exact respected.upholds_pure _
  · exact respected.upholds_bind (respected.upholds_expandFrom word _ _) fun _ =>
      respected.upholds_pure _

/-! ## Commands and pipelines -/

theorem upholds_prepare (command : Command) : Upholds R (prepare world command) := by
  refine respected.upholds_bind (respected.upholds_forIn (fun assignment _ => ?_) _ _) fun _ => ?_
  · refine respected.upholds_bind (respected.upholds_expand assignment.value) fun value => ?_
    exact respected.upholds_bind (respected.setLocal assignment.name value) fun _ =>
      respected.upholds_pure _
  · refine respected.upholds_bind (respected.upholds_mapM respected.upholds_expand _) fun _ => ?_
    exact respected.upholds_bind respected.upholds_get fun _ => respected.upholds_pure _

theorem upholds_runCommand (command : Command) : Upholds R (runCommand world command) := by
  unfold runCommand
  split
  · refine respected.upholds_bind (respected.upholds_forIn (fun assignment _ => ?_) _ _) fun _ =>
      respected.upholds_pure _
    refine respected.upholds_bind (respected.upholds_expand assignment.value) fun value => ?_
    exact respected.upholds_bind (respected.set assignment.name value) fun _ =>
      respected.upholds_pure _
  · refine respected.upholds_inFrame ?_
    refine respected.upholds_bind (respected.upholds_prepare command) fun invocation => ?_
    exact respected.upholds_bind (respected.upholds_ask rfl _) fun _ => respected.upholds_pure _

theorem upholds_stageCommands (stages : List Node) :
    Upholds R (stageCommands stages : EvalM σ τ (List Command)) := by
  induction stages with
  | nil => exact respected.upholds_pure []
  | cons stage stages ih =>
      simp only [stageCommands]
      split
      · exact respected.upholds_bind ih fun _ => respected.upholds_pure _
      · exact respected.upholds_throw _

theorem upholds_prepareStages (commands : List Command) :
    Upholds R (prepareStages world commands) :=
  respected.upholds_mapM (fun command =>
    respected.upholds_inFrame (respected.upholds_prepare command)) commands

/-- A pipeline in the foreground starts nothing in the background. -/
theorem upholds_runPipeline_of {background : Bool}
    (starting : background = true → ∀ stages, Upholds R (runBackground world stages))
    (stages : List Node) : Upholds R (runPipeline world stages background) := by
  refine respected.upholds_bind (respected.upholds_stageCommands stages) fun commands => ?_
  split
  · exact respected.upholds_pure _
  · exact respected.upholds_runCommand _
  · refine respected.upholds_bind (respected.upholds_prepareStages _) fun _ => ?_
    exact respected.upholds_bind (respected.upholds_ask rfl _) fun _ => respected.upholds_pure _
  · exact respected.upholds_bind (respected.upholds_prepareStages _) (starting rfl)

/-! ## Loops and choices -/

theorem upholds_runLoop (kind : LoopKind) {condition body : EvalM σ τ Status}
    (test : Upholds R condition) (round : Upholds R body) (rounds : Nat) (status : Status) :
    Upholds R (runLoop kind condition body rounds status) := by
  induction rounds generalizing status with
  | zero => exact respected.upholds_throw _
  | succ rounds ih =>
      refine respected.upholds_bind test fun answer => ?_
      dsimp only
      split
      all_goals
        split
        · exact respected.upholds_bind round ih
        · exact respected.upholds_pure _

theorem upholds_runForEach (name : String) {body : EvalM σ τ Status} (round : Upholds R body)
    (values : List String) (status : Status) :
    Upholds R (runForEach name body values status) := by
  induction values generalizing status with
  | nil => exact respected.upholds_pure status
  | cons value values ih =>
      refine respected.upholds_bind (respected.set name value) fun _ => ?_
      exact respected.upholds_bind round ih

theorem upholds_anyPattern (subject : String) (patterns : List Word) :
    Upholds R (anyPattern world subject patterns) := by
  induction patterns with
  | nil => exact respected.upholds_pure false
  | cons pattern patterns ih =>
      refine respected.upholds_bind (respected.upholds_expand pattern) fun text => ?_
      split
      · exact respected.upholds_pure true
      · exact ih

end RespectedByCommands

namespace Respected

variable (respected : Respected world R)
include respected

/-! ## What an evaluator remembers -/

theorem upholds_complete {action : EvalM σ τ Status} (inside : Upholds R action) :
    Upholds R (complete action) :=
  respected.upholds_bind inside fun status =>
    respected.upholds_bind (respected.status status) fun _ => respected.upholds_pure status

theorem upholds_runBackground (stages : List Invocation) :
    Upholds R (runBackground world stages) := by
  refine respected.upholds_bind (fun session => respected.start stages _ session) fun answer => ?_
  cases answer with
  | ok job =>
      exact respected.upholds_bind (respected.background job) fun _ => respected.upholds_pure _
  | error => exact respected.upholds_pure _

theorem upholds_runPipeline (stages : List Node) (background : Bool) :
    Upholds R (runPipeline world stages background) :=
  respected.upholds_runPipeline_of (fun _ => respected.upholds_runBackground) stages

/-! ## Trees -/

variable (limit : Nat)

mutual

/-- What every elementary step does to a session is what a whole evaluation does to it. -/
theorem upholds_evaluate (node : Node) : Upholds R (evaluate world limit node) := by
  rw [evaluate.eq_def]
  cases node with
  | list nodes => exact respected.upholds_complete (upholds_evaluateList nodes .success)
  | chain op left right =>
      refine respected.upholds_complete ?_
      refine respected.upholds_bind (upholds_evaluate left) fun status => ?_
      split
      · exact upholds_evaluate right
      · exact upholds_evaluate right
      · exact respected.upholds_pure status
  | negate inner =>
      refine respected.upholds_complete ?_
      exact respected.upholds_bind (upholds_evaluate inner) fun _ => respected.upholds_pure _
  | loop kind condition body =>
      refine respected.upholds_complete ?_
      exact respected.upholds_runLoop kind (upholds_evaluate condition) (upholds_evaluate body) _ _
  | forEach name items body =>
      refine respected.upholds_complete ?_
      refine respected.upholds_bind (respected.upholds_mapM respected.upholds_expand items) ?_
      exact fun values => respected.upholds_runForEach name (upholds_evaluate body) values .success
  | branch links => exact respected.upholds_complete (upholds_evaluateLinks links)
  | case subject arms =>
      refine respected.upholds_complete ?_
      refine respected.upholds_bind (respected.upholds_expand subject) fun text => ?_
      exact upholds_evaluateArms text arms
  | command command => exact respected.upholds_complete (respected.upholds_runCommand command)
  | arithmetic expr =>
      refine respected.upholds_complete ?_
      exact respected.upholds_bind (respected.upholds_arithmetic expr) fun _ =>
        respected.upholds_pure _
  | pipeline stages background =>
      exact respected.upholds_complete (respected.upholds_runPipeline stages background)
  | finish => exact respected.upholds_complete (respected.upholds_pure _)

theorem upholds_evaluateList (nodes : List Node) (status : Status) :
    Upholds R (evaluateList world limit nodes status) := by
  cases nodes with
  | nil => exact respected.upholds_pure status
  | cons node rest =>
      exact respected.upholds_bind (upholds_evaluate node) fun status =>
        upholds_evaluateList rest status

theorem upholds_evaluateLinks (links : Links) : Upholds R (evaluateLinks world limit links) := by
  cases links with
  | done => exact respected.upholds_pure Status.success
  | otherwise body => exact upholds_evaluate body
  | test condition body rest =>
      refine respected.upholds_bind (upholds_evaluate condition) fun status => ?_
      split
      · exact upholds_evaluate body
      · exact upholds_evaluateLinks rest

theorem upholds_evaluateArms (subject : String) (arms : List Arm) :
    Upholds R (evaluateArms world limit subject arms) := by
  cases arms with
  | nil => exact respected.upholds_pure Status.success
  | cons arm rest =>
      obtain ⟨patterns, body⟩ := arm
      refine respected.upholds_bind (respected.upholds_anyPattern subject patterns) ?_
      intro accepted
      split
      · exact upholds_evaluate body
      · exact upholds_evaluateArms subject rest

end

end Respected

end Shell.EvalM
