import Shell.Proofs.Eval.Pairs
import Shell.Proofs.Eval.Preparation

/-! # What an evaluator remembers of its history

An evaluator keeps one status and one background job. `Chronicle` is an evaluation that keeps
neither, but everything that has happened: each construct that was completed, at the moment when it
was, and each answer to a request to start a background job. It looks up there what the last status
and the last job are. The two never differ, over any number of calls and however these end.
-/

namespace Shell

/-- What there is to remember of an evaluation. -/
inductive EvalEvent where
  /-- A construct was completed, with such a status. -/
  | completed (status : Status)
  /-- The spawner was asked to start a background job, and gave it a number or refused it. -/
  | asked (stages : List Invocation) (answer : Except SpawnError JobId)
deriving DecidableEq

namespace EvalEvent

def status? : EvalEvent → Option Status
  | completed status => some status
  | asked _ _ => none

def job? : EvalEvent → Option JobId
  | asked _ (.ok job) => some job
  | completed _ | asked _ (.error _) => none

/-- The stages of a job that was asked for, whether it was taken on or not. -/
def background? : EvalEvent → Option (List Invocation)
  | completed _ => none
  | asked stages _ => some stages

/-- Of events, the last first, the status that came last. Before any there is success. -/
def lastStatus (events : List EvalEvent) : Status :=
  (events.findSome? status?).getD .success

def lastJob (events : List EvalEvent) : Option JobId :=
  events.findSome? job?

end EvalEvent

/-- A session that remembers what a history says. -/
def Session.recalling {σ τ : Type} (session : Session σ τ) (events : List EvalEvent) :
    Session σ τ :=
  { session with
    lastStatus := EvalEvent.lastStatus events, lastBackground := EvalEvent.lastJob events }

/-- An evaluation with its whole history, the last event first. -/
abbrev Chronicle (σ τ : Type) := ExceptT Fault (StateM (Session σ τ × List EvalEvent))

namespace Chronicle

variable {σ τ α : Type}

/-- Does something of which nothing is remembered. What it asks is answered from the history. -/
def perform (action : EvalM σ τ α) : Chronicle σ τ α :=
  ExceptT.mk fun (session, events) =>
    let (outcome, after) := action.run.run (session.recalling events)
    (outcome, after, events)

def note (event : EvalEvent) : Chronicle σ τ Unit :=
  modify fun (session, events) => (session, event :: events)

def complete (action : Chronicle σ τ Status) : Chronicle σ τ Status := do
  let status ← action
  note (.completed status)
  return status

/-- Starts commands and goes on without them. What the spawner answers is noted. -/
def runBackground (world : World σ τ) (stages : List Invocation) : Chronicle σ τ Status := do
  let answer ← perform (EvalM.ask (.background stages) (world.spawner.spawnBackground stages))
  note (.asked stages answer)
  match answer with
  | .ok _ => return .success
  | .error _ => return .failure

def runPipeline (world : World σ τ) (stages : List Node) : Bool → Chronicle σ τ Status
  | false => perform (EvalM.runPipeline world stages false)
  | true => do
    match ← perform (EvalM.stageCommands stages) with
    | [] => return .success
    | commands => runBackground world (← perform (EvalM.prepareStages world commands))

def runLoop (kind : LoopKind) (condition body : Chronicle σ τ Status) :
    Nat → Status → Chronicle σ τ Status
  | 0, _ => throw .loopLimit
  | rounds + 1, status => do
    if kind.goesOn (← condition) then runLoop kind condition body rounds (← body)
    else return status

def runForEach (name : String) (body : Chronicle σ τ Status) :
    List String → Status → Chronicle σ τ Status
  | [], status => return status
  | value :: rest, _ => do
    perform (EvalM.modifyScope (Scope.set name value))
    runForEach name body rest (← body)

theorem run_runBackground (world : World σ τ) (stages : List Invocation) (session : Session σ τ)
    (events : List EvalEvent) :
    (runBackground world stages).run.run (session, events) =
      let (answer, spawner) := (world.spawner.spawnBackground stages).run session.spawner
      (.ok (if answer.isOk then .success else .failure),
        { session.recalling events with
          spawner, requests := session.requests ++ [.background stages] },
        .asked stages answer :: events) := by
  have run : (runBackground world stages).run.run (session, events) =
      let (answer, spawner) := (world.spawner.spawnBackground stages).run session.spawner
      ((match answer with
        | .ok _ => return .success
        | .error _ => return .failure : Chronicle σ τ Status).run.run
          ({ session.recalling events with
            spawner, requests := session.requests ++ [.background stages] },
            .asked stages answer :: events)) := rfl
  rw [run]
  generalize (world.spawner.spawnBackground stages).run session.spawner = result
  obtain ⟨answer, spawner⟩ := result
  cases answer <;> rfl

mutual

/-- Walks a construct to its status and notes all that is completed on the way. -/
def evaluate (world : World σ τ) (limit : Nat) : Node → Chronicle σ τ Status
  | .list nodes => complete (evaluateList world limit nodes .success)
  | .chain op left right => complete do
    let status ← evaluate world limit left
    match op, status.isSuccess with
    | .both, true | .either, false => evaluate world limit right
    | _, _ => return status
  | .negate inner => complete do return (← evaluate world limit inner).negate
  | .loop kind condition body =>
    complete <|
      runLoop kind (evaluate world limit condition) (evaluate world limit body) limit .success
  | .forEach name items body => complete do
    let values ← perform (items.mapM (EvalM.expand world))
    runForEach name (evaluate world limit body) values .success
  | .branch links => complete (evaluateLinks world limit links)
  | .case subject arms => complete do
    evaluateArms world limit (← perform (EvalM.expand world subject)) arms
  | .command command => complete (perform (EvalM.runCommand world command))
  | .arithmetic expr => complete do return .ofBool ((← perform (EvalM.arithmetic expr)) != 0)
  | .pipeline stages background => complete (runPipeline world stages background)
  | .finish => complete (return .success)

def evaluateList (world : World σ τ) (limit : Nat) : List Node → Status → Chronicle σ τ Status
  | [], status => return status
  | node :: rest, _ => do evaluateList world limit rest (← evaluate world limit node)

/-- Walks the links of an `if`. They are parts of one construct and are not completed by themselves. -/
def evaluateLinks (world : World σ τ) (limit : Nat) : Links → Chronicle σ τ Status
  | .done => return .success
  | .otherwise body => evaluate world limit body
  | .test condition body rest => do
    if (← evaluate world limit condition).isSuccess then evaluate world limit body
    else evaluateLinks world limit rest

def evaluateArms (world : World σ τ) (limit : Nat) (subject : String) :
    List Arm → Chronicle σ τ Status
  | [] => return .success
  | .mk patterns body :: rest => do
    if ← perform (EvalM.anyPattern world subject patterns) then evaluate world limit body
    else evaluateArms world limit subject rest

end

end Chronicle

/-! ## Calls -/

/-- A call of an evaluator: a construct, and the scope in which it is to be walked. -/
structure Call where
  scope : Scope
  node : Node

/-- Makes calls of one evaluator, each whatever those before it have ended with. -/
def EvalM.evaluateCalls {σ τ : Type} (world : World σ τ) (limit : Nat) :
    List Call → Session σ τ → List (Except Fault Status) × Session σ τ
  | [], session => ([], session)
  | call :: rest, session =>
    let (outcome, after) :=
      (evaluate world limit call.node).run.run { session with scope := call.scope }
    let (outcomes, last) := evaluateCalls world limit rest after
    (outcome :: outcomes, last)

def Chronicle.evaluateCalls {σ τ : Type} (world : World σ τ) (limit : Nat) :
    List Call → Session σ τ × List EvalEvent →
      List (Except Fault Status) × Session σ τ × List EvalEvent
  | [], state => ([], state)
  | call :: rest, (session, events) =>
    let (outcome, after) :=
      (evaluate world limit call.node).run.run ({ session with scope := call.scope }, events)
    let (outcomes, last) := evaluateCalls world limit rest after
    (outcome :: outcomes, last)

namespace EvalM

variable {σ τ α β : Type} {world : World σ τ}

/-! ## Actions of which nothing is remembered -/

def backgrounds (session : Session σ τ) : List (List Invocation) :=
  session.requests.filterMap Request.background?

/-- Nothing has been completed and no job has been asked for. -/
structure Unremembered (before after : Session σ τ) : Prop where
  status : after.lastStatus = before.lastStatus
  job : after.lastBackground = before.lastBackground
  asked : backgrounds after = backgrounds before

/-- Only what completes a construct or starts a job is remembered. -/
theorem respected_unremembered (world : World σ τ) :
    RespectedByCommands world (Unremembered : Session σ τ → Session σ τ → Prop) where
  refl _ := ⟨rfl, rfl, rfl⟩
  trans first second :=
    ⟨second.status.trans first.status, second.job.trans first.job, second.asked.trans first.asked⟩
  set _ _ _ := ⟨rfl, rfl, rfl⟩
  setLocal _ _ _ := ⟨rfl, rfl, rfl⟩
  ask waits _ _ := ⟨rfl, rfl, by simp [backgrounds, waits]⟩
  substitute _ _ _ := ⟨rfl, rfl, by simp [backgrounds, Request.background?]⟩
  frame := by
    intro session inside unremembered
    unfold Session.closeFrame
    split <;> exact ⟨unremembered.status, unremembered.job, unremembered.asked⟩

/-! ## An evaluation beside its chronicle -/

/-- The session of a chronicle, with what it remembers. -/
def recalled (state : Session σ τ × List EvalEvent) : Session σ τ :=
  state.1.recalling state.2

/-- The background jobs that were asked for are those in the history. -/
def Accounts (state : Session σ τ × List EvalEvent) : Prop :=
  backgrounds state.1 = state.2.reverse.filterMap EvalEvent.background?

/-- An action comes to the same as a chronicle and remembers what that has noted, which leaves out
    no background job. -/
def Recalls (action : EvalM σ τ α) (chronicle : Chronicle σ τ α) : Prop :=
  ∀ state, action.run.run (recalled state) = Prod.map id recalled (chronicle.run.run state) ∧
    (Accounts state → Accounts (chronicle.run.run state).2)

theorem recalls_pure (value : α) : Recalls (pure value : EvalM σ τ α) (pure value) :=
  fun _ => ⟨rfl, id⟩

theorem recalls_throw (fault : Fault) : Recalls (throw fault : EvalM σ τ α) (throw fault) :=
  fun _ => ⟨rfl, id⟩

theorem Recalls.bind {action : EvalM σ τ α} {chronicle : Chronicle σ τ α}
    {further : α → EvalM σ τ β} {further' : α → Chronicle σ τ β}
    (first : Recalls action chronicle) (next : ∀ value, Recalls (further value) (further' value)) :
    Recalls (action >>= further) (chronicle >>= further') := by
  intro state
  obtain ⟨same, accounts⟩ := first state
  rw [run_bind, same]
  show _ = Prod.map id recalled
    (ExceptT.bindCont further' (chronicle.run.run state).1 (chronicle.run.run state).2) ∧
    (Accounts state → Accounts
      (ExceptT.bindCont further' (chronicle.run.run state).1 (chronicle.run.run state).2).2)
  generalize chronicle.run.run state = result at accounts ⊢
  obtain ⟨outcome, after⟩ := result
  cases outcome with
  | error fault => exact ⟨rfl, accounts⟩
  | ok value => exact ⟨(next value after).1, fun account => (next value after).2 (accounts account)⟩

/-- What is not remembered need not be noted. -/
theorem recalls_perform {action : EvalM σ τ α} (unremembered : Upholds Unremembered action) :
    Recalls action (.perform action) := by
  rintro ⟨session, events⟩
  have kept := unremembered (session.recalling events)
  show action.run.run (session.recalling events) = Prod.map id recalled
    ((action.run.run (session.recalling events)).1, (action.run.run (session.recalling events)).2,
      events) ∧
    (Accounts (session, events) → Accounts ((action.run.run (session.recalling events)).2, events))
  generalize action.run.run (session.recalling events) = result at kept ⊢
  obtain ⟨outcome, after⟩ := result
  obtain ⟨status, job, asked⟩ := kept
  refine ⟨Prod.ext rfl ?_, asked.trans⟩
  cases after
  cases status
  cases job
  rfl

theorem recalls_completed (status : Status) :
    Recalls (modify fun session => { session with lastStatus := status } : EvalM σ τ PUnit)
      (.note (.completed status)) := by
  refine fun state => ⟨rfl, fun account => ?_⟩
  show backgrounds state.1 =
    (EvalEvent.completed status :: state.2).reverse.filterMap EvalEvent.background?
  rw [List.reverse_cons, List.filterMap_append]
  exact account.trans (List.append_nil _).symm

theorem recalls_complete {action : EvalM σ τ Status} {chronicle : Chronicle σ τ Status}
    (inside : Recalls action chronicle) : Recalls (complete action) (.complete chronicle) :=
  inside.bind fun status => (recalls_completed status).bind fun _ => recalls_pure status

theorem recalls_runBackground (stages : List Invocation) :
    Recalls (runBackground world stages) (.runBackground world stages) := by
  rintro ⟨session, events⟩
  have noted (after : Session σ τ) (answer : Except SpawnError JobId)
      (requests : after.requests = session.requests ++ [.background stages])
      (account : Accounts (session, events)) : Accounts (after, .asked stages answer :: events) := by
    simp only [Accounts, backgrounds] at account ⊢
    simp [requests, account, Request.background?, EvalEvent.background?]
  have ran := run_runBackground world stages (recalled (session, events))
  have chronicled := Chronicle.run_runBackground world stages session events
  rw [show (recalled (session, events)).spawner = session.spawner from rfl] at ran
  generalize (world.spawner.spawnBackground stages).run session.spawner = result at ran chronicled
  obtain ⟨answer, spawner⟩ := result
  rw [ran, chronicled]
  cases answer with
  | ok job => exact ⟨rfl, noted _ _ rfl⟩
  | error refusal => exact ⟨rfl, noted _ _ rfl⟩

theorem recalls_runPipeline (stages : List Node) (background : Bool) :
    Recalls (runPipeline world stages background) (.runPipeline world stages background) := by
  have unremembered := respected_unremembered world
  cases background with
  | false =>
      refine recalls_perform (unremembered.upholds_runPipeline_of ?_ stages)
      exact fun same => Bool.noConfusion same
  | true =>
      have started : ∀ commands, Recalls (prepareStages world commands >>= runBackground world)
          (.perform (prepareStages world commands) >>= .runBackground world) := fun commands =>
        (recalls_perform (unremembered.upholds_prepareStages commands)).bind recalls_runBackground
      refine (recalls_perform (unremembered.upholds_stageCommands stages)).bind fun commands => ?_
      match commands with
      | [] => exact recalls_pure _
      | [only] => exact started [only]
      | first :: second :: rest => exact started (first :: second :: rest)

theorem recalls_runLoop (kind : LoopKind) {condition body : EvalM σ τ Status}
    {condition' body' : Chronicle σ τ Status} (test : Recalls condition condition')
    (round : Recalls body body') (rounds : Nat) (status : Status) :
    Recalls (runLoop kind condition body rounds status)
      (.runLoop kind condition' body' rounds status) := by
  induction rounds generalizing status with
  | zero => exact recalls_throw _
  | succ rounds ih =>
      rw [runLoop_succ, bind_map_left]
      refine test.bind fun answer => ?_
      split
      · exact round.bind ih
      · exact recalls_pure status

theorem recalls_runForEach (name : String) {body : EvalM σ τ Status}
    {body' : Chronicle σ τ Status} (round : Recalls body body') (values : List String)
    (status : Status) :
    Recalls (runForEach name body values status) (.runForEach name body' values status) := by
  induction values generalizing status with
  | nil => exact recalls_pure status
  | cons value values ih =>
      exact (recalls_perform fun _ => ⟨rfl, rfl, rfl⟩).bind fun _ => round.bind ih

variable (limit : Nat)

mutual

/-- An evaluation and its chronicle come to the same, and the one remembers what the other notes. -/
theorem recalls_evaluate (node : Node) :
    Recalls (evaluate world limit node) (.evaluate world limit node) := by
  have unremembered := respected_unremembered world
  rw [evaluate.eq_def, Chronicle.evaluate.eq_def]
  cases node with
  | list nodes => exact recalls_complete (recalls_evaluateList nodes .success)
  | chain op left right =>
      refine recalls_complete ((recalls_evaluate left).bind fun status => ?_)
      cases op with
      | both =>
          cases status.isSuccess with
          | true => exact recalls_evaluate right
          | false => exact recalls_pure status
      | either =>
          cases status.isSuccess with
          | true => exact recalls_pure status
          | false => exact recalls_evaluate right
  | negate inner =>
      exact recalls_complete ((recalls_evaluate inner).bind fun status => recalls_pure _)
  | loop kind condition body =>
      exact recalls_complete
        (recalls_runLoop kind (recalls_evaluate condition) (recalls_evaluate body) _ _)
  | forEach name items body =>
      refine recalls_complete (Recalls.bind (recalls_perform ?_) fun values => ?_)
      · exact unremembered.upholds_mapM unremembered.upholds_expand items
      · exact recalls_runForEach name (recalls_evaluate body) values .success
  | branch links => exact recalls_complete (recalls_evaluateLinks links)
  | case subject arms =>
      refine recalls_complete (Recalls.bind (recalls_perform ?_) fun text => ?_)
      · exact unremembered.upholds_expand subject
      · exact recalls_evaluateArms text arms
  | command command =>
      exact recalls_complete (recalls_perform (unremembered.upholds_runCommand command))
  | arithmetic expr =>
      refine recalls_complete (Recalls.bind (recalls_perform ?_) fun value => recalls_pure _)
      exact unremembered.upholds_arithmetic expr
  | pipeline stages background => exact recalls_complete (recalls_runPipeline stages background)
  | finish => exact recalls_complete (recalls_pure _)

theorem recalls_evaluateList (nodes : List Node) (status : Status) :
    Recalls (evaluateList world limit nodes status) (.evaluateList world limit nodes status) := by
  cases nodes with
  | nil => exact recalls_pure status
  | cons node rest =>
      exact (recalls_evaluate node).bind fun status => recalls_evaluateList rest status

theorem recalls_evaluateLinks (links : Links) :
    Recalls (evaluateLinks world limit links) (.evaluateLinks world limit links) := by
  cases links with
  | done => exact recalls_pure Status.success
  | otherwise body => exact recalls_evaluate body
  | test condition body rest =>
      refine (recalls_evaluate condition).bind fun status => ?_
      split
      · exact recalls_evaluate body
      · exact recalls_evaluateLinks rest

theorem recalls_evaluateArms (subject : String) (arms : List Arm) :
    Recalls (evaluateArms world limit subject arms)
      (.evaluateArms world limit subject arms) := by
  cases arms with
  | nil => exact recalls_pure Status.success
  | cons arm rest =>
      obtain ⟨patterns, body⟩ := arm
      refine Recalls.bind (recalls_perform ?_) fun accepted => ?_
      · exact (respected_unremembered world).upholds_anyPattern subject patterns
      · split
        · exact recalls_evaluate body
        · exact recalls_evaluateArms subject rest

end

theorem evaluateCalls_recalled (world : World σ τ) (limit : Nat) (calls : List Call)
    (state : Session σ τ × List EvalEvent) :
    evaluateCalls world limit calls (recalled state) =
        Prod.map id recalled (Chronicle.evaluateCalls world limit calls state) ∧
      (Accounts state → Accounts (Chronicle.evaluateCalls world limit calls state).2) := by
  induction calls generalizing state with
  | nil => exact ⟨rfl, id⟩
  | cons call calls ih =>
      obtain ⟨session, events⟩ := state
      have recalls : Recalls (evaluate world limit call.node) _ := recalls_evaluate limit call.node
      obtain ⟨here, accounts⟩ := recalls ({ session with scope := call.scope }, events)
      replace here : (evaluate world limit call.node).run.run
          { recalled (session, events) with scope := call.scope } = _ := here
      rw [evaluateCalls, Chronicle.evaluateCalls, here]
      generalize (Chronicle.evaluate world limit call.node).run.run
        ({ session with scope := call.scope }, events) = result at accounts ⊢
      obtain ⟨outcome, after⟩ := result
      obtain ⟨same, further⟩ := ih after
      exact ⟨by simp only [Prod.map_apply, same]; rfl, fun account => further (accounts account)⟩

/-- However many calls are made of a new evaluator, and however each of them ends, they end as their
    chronicle says, and the evaluator remembers what that has noted: the status of the construct
    that was completed last, and the background job that was taken on last. Every background job
    that the spawner was asked for is noted, in order. -/
theorem evaluateCalls_remember_history (world : World σ τ) (limit : Nat) (calls : List Call)
    (scope : Scope) (spawner : σ) (substituter : τ) :
    let fresh : Session σ τ := { scope, spawner, substituter }
    let (outcomes, after) := evaluateCalls world limit calls fresh
    let (outcomes', after', events) := Chronicle.evaluateCalls world limit calls (fresh, [])
    outcomes = outcomes' ∧ after.lastStatus = EvalEvent.lastStatus events ∧
      after.lastBackground = EvalEvent.lastJob events ∧ after = after'.recalling events ∧
      after.requests.filterMap Request.background? =
        events.reverse.filterMap EvalEvent.background? := by
  intro fresh
  obtain ⟨same, accounts⟩ := evaluateCalls_recalled world limit calls (fresh, [])
  replace same : evaluateCalls world limit calls fresh = _ := same
  rw [same]
  exact ⟨rfl, rfl, rfl, rfl, accounts rfl⟩

/-- The second job is refused and the second call divides by zero, but what came before stays. -/
example :
    let spawner : Spawner Nat :=
      ⟨fun _ => pure (.exited 3), fun _ => pure (.exited 0), fun _ => fun started =>
        if started = 0 then (.ok 7, 1) else (.error .emptyPipeline, started)⟩
    let world : World Nat Unit := ⟨spawner, none, "1"⟩
    let job (name : String) : Node := .pipeline [.command { words := [.literal name] }] true
    let calls : List Call :=
      [⟨.empty, .list [job "a", .negate (job "b")]⟩,
        ⟨.empty, .list [.negate .finish, .arithmetic "1 / 0"]⟩]
    let fresh : Session Nat Unit := { scope := .empty, spawner := 0, substituter := () }
    (Chronicle.evaluateCalls world 0 calls (fresh, [])).2.2 =
      [.completed .failure, .completed .success,
        .completed .success, .completed .success, .completed .failure,
        .asked [⟨["b"], []⟩] (.error .emptyPipeline),
        .completed .success, .asked [⟨["a"], []⟩] (.ok 7)] := by
  decide +kernel

end EvalM

end Shell
