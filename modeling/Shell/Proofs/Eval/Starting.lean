import Mathlib.Data.List.Forall2
import Shell.Proofs.Eval.Preparation

/-! # Starting commands

A command, or all commands of a pipeline, are prepared before the spawner is asked for anything,
and then it is asked once. So an evaluation that fails has started nothing. Whether every stage is
a command is settled before that, and a pipeline with another stage does nothing at all.
-/

namespace Shell

def Request.start : (background : Bool) → List Invocation → Request
  | false, [only] => .run only
  | false, stages => .pipeline stages
  | true, stages => .background stages

def Spawner.after {σ : Type} (spawner : Spawner σ) (state : σ) : Request → σ
  | .run invocation => ((spawner.run invocation).run state).2
  | .pipeline stages => ((spawner.runPipeline stages).run state).2
  | .background stages => ((spawner.spawnBackground stages).run state).2
  | .substitute _ => state

/-- A construct is a command that can be started, as it has a word. -/
def Node.Starts (node : Node) (command : Command) : Prop :=
  node = .command command ∧ command.words ≠ []

theorem Node.stage?_eq_some_iff {node : Node} {command : Command} :
    node.stage? = some command ↔ node.Starts command := by
  unfold Node.Starts
  cases node with
  | command other =>
      simp only [stage?, Option.ite_none_left_eq_some, Option.some.injEq, Node.command.injEq,
        List.isEmpty_iff]
      constructor
      · rintro ⟨some, rfl⟩
        exact ⟨rfl, some⟩
      · rintro ⟨rfl, some⟩
        exact ⟨some, rfl⟩
  | _ => simp [stage?]

namespace Session

variable {σ τ : Type} (session : Session σ τ)

@[simp] theorem spawner_closeFrame : session.closeFrame.spawner = session.spawner := by
  unfold closeFrame
  split <;> rfl

@[simp] theorem requests_closeFrame : session.closeFrame.requests = session.requests := by
  unfold closeFrame
  split <;> rfl

end Session

namespace EvalM

variable {σ τ α β : Type} {world : World σ τ}

/-- Nothing has been started, although scripts may have been run. -/
def Unstarted (before after : Session σ τ) : Prop :=
  after.spawner = before.spawner ∧
    ∃ scripts : List String, after.requests = before.requests ++ scripts.map .substitute

theorem composable_unstarted : Composable (Unstarted : Session σ τ → Session σ τ → Prop) where
  refl session := ⟨rfl, [], (List.append_nil _).symm⟩
  trans := by
    rintro first second third ⟨kept, scripts, asked⟩ ⟨kept', scripts', asked'⟩
    refine ⟨kept'.trans kept, scripts ++ scripts', ?_⟩
    rw [asked', asked, List.map_append, List.append_assoc]

theorem unstarted_leaves (session : Session σ τ) (sub : Substitution) :
    Unstarted session (leaves world session sub) := by
  cases sub with
  | parameter name => exact composable_unstarted.refl session
  | arithmetic expr => exact ⟨rfl, [], (List.append_nil _).symm⟩
  | command script =>
      simp only [leaves]
      cases world.substituter with
      | none => exact composable_unstarted.refl session
      | some substituter => exact ⟨rfl, [script], rfl⟩

theorem unstarted_prepare (world : World σ τ) (command : Command) : Upholds Unstarted (prepare world command) :=
  fun _ => composable_unstarted.relates_prepare (fun _ _ _ => ⟨rfl, [], (List.append_nil _).symm⟩)
    fun sub moment _ => unstarted_leaves moment sub

theorem Unstarted.closeFrame {session inside : Session σ τ}
    (unstarted : Unstarted session.openFrame inside) : Unstarted session inside.closeFrame := by
  rw [Unstarted, Session.spawner_closeFrame, Session.requests_closeFrame]
  exact unstarted

theorem unstarted_prepareStages (world : World σ τ) (commands : List Command) :
    Upholds Unstarted (prepareStages world commands) := by
  refine composable_unstarted.upholds_mapM (fun command session => ?_) commands
  rw [run_inFrame]
  exact (unstarted_prepare world command session.openFrame).closeFrame

/-! ## What is started -/

/-- A text is what a word expands to in some session. -/
def Expands (world : World σ τ) (word : Word) (text : String) : Prop :=
  ∃ before after, (expand world word).run.run before = (.ok text, after)

/-- The program and the arguments of an invocation are what the words of a stage expand to. -/
def Prepares (world : World σ τ) (stage : Node) (invocation : Invocation) : Prop :=
  ∃ command, stage.Starts command ∧ List.Forall₂ (Expands world) command.words invocation.argv

theorem exists_of_run_bind {action : EvalM σ τ α} {further : α → EvalM σ τ β}
    {session after : Session σ τ} {result : β}
    (ran : (action >>= further).run.run session = (.ok result, after)) :
    ∃ value middle, action.run.run session = (.ok value, middle) ∧
      (further value).run.run middle = (.ok result, after) := by
  rw [run_bind] at ran
  generalize action.run.run session = result at ran ⊢
  obtain ⟨outcome, middle⟩ := result
  cases outcome with
  | error fault => cases ran
  | ok value => exact ⟨value, middle, rfl, ran⟩

theorem forall₂_of_run_mapM {action : α → EvalM σ τ β} {items : List α}
    {session after : Session σ τ} {values : List β}
    (ran : (items.mapM action).run.run session = (.ok values, after)) :
    List.Forall₂ (fun item value => ∃ before after,
      (action item).run.run before = (.ok value, after)) items values := by
  induction items generalizing session values with
  | nil =>
      cases ran
      exact .nil
  | cons item items ih =>
      rw [List.mapM_cons] at ran
      obtain ⟨value, middle, first, ran⟩ := exists_of_run_bind ran
      obtain ⟨rest, last, others, ran⟩ := exists_of_run_bind ran
      cases ran
      exact .cons ⟨session, middle, first⟩ (ih others)

theorem prepares_of_run {command : Command} {stage : Node} (starts : stage.Starts command)
    {session after : Session σ τ} {invocation : Invocation}
    (ran : (prepare world command).run.run session = (.ok invocation, after)) :
    Prepares world stage invocation := by
  rw [prepare_eq] at ran
  obtain ⟨_, middle, _, ran⟩ := exists_of_run_bind ran
  obtain ⟨argv, last, expanded, ran⟩ := exists_of_run_bind ran
  cases ran
  exact ⟨command, starts, forall₂_of_run_mapM expanded⟩

theorem forall₂_of_run_prepareStages {commands : List Command} {stages : List Node}
    (starts : List.Forall₂ Node.Starts stages commands) {session after : Session σ τ}
    {invocations : List Invocation}
    (ran : (prepareStages world commands).run.run session = (.ok invocations, after)) :
    List.Forall₂ (Prepares world) stages invocations := by
  have each := forall₂_of_run_mapM ran
  clear ran
  induction starts generalizing invocations with
  | nil =>
      cases each
      exact .nil
  | cons here _ ih =>
      cases each with
      | cons first rest =>
          obtain ⟨before, after, ran⟩ := first
          rw [run_inFrame] at ran
          have prepared : (prepare world _).run.run before.openFrame = (.ok _, _) :=
            Prod.ext (Prod.mk.inj ran).1 rfl
          exact .cons (prepares_of_run here prepared) (ih rest)

/-- The spawner has been asked for something once, and scripts may have been run before. -/
def Asked (world : World σ τ) (request : Request) (before after : Session σ τ) : Prop :=
  after.spawner = world.spawner.after before.spawner request ∧
    ∃ scripts : List String,
      after.requests = before.requests ++ scripts.map .substitute ++ [request]

theorem Unstarted.asked {before middle after : Session σ τ} (unstarted : Unstarted before middle)
    {request : Request} (spawner : after.spawner = world.spawner.after middle.spawner request)
    (requests : after.requests = middle.requests ++ [request]) :
    Asked world request before after := by
  obtain ⟨kept, scripts, asked⟩ := unstarted
  exact ⟨by rw [spawner, kept], scripts, by rw [requests, asked]⟩

/-- How an evaluation ends that starts some stages: with an error before anything is started, or
    with a status after all of them, each prepared, were started at once. -/
def Phased (world : World σ τ) (background : Bool) (stages : List Node) (session : Session σ τ) :
    Except Fault Status × Session σ τ → Prop
  | (.error _, after) => Unstarted session after
  | (.ok _, after) => stages ≠ [] → ∃ invocations,
    Asked world (.start background invocations) session after ∧
      List.Forall₂ (Prepares world) stages invocations

theorem Phased.unstarted {background : Bool} {stages : List Node} {session : Session σ τ}
    {result : Except Fault Status × Session σ τ}
    (phased : Phased world background stages session result) {fault : Fault}
    (failed : result.1 = .error fault) : Unstarted session result.2 := by
  obtain ⟨outcome, after⟩ := result
  cases failed
  exact phased

theorem Phased.asked {background : Bool} {stages : List Node} {session : Session σ τ}
    {result : Except Fault Status × Session σ τ}
    (phased : Phased world background stages session result) {status : Status}
    (succeeded : result.1 = .ok status) (some : stages ≠ []) :
    ∃ invocations, Asked world (.start background invocations) session result.2 ∧
      List.Forall₂ (Prepares world) stages invocations := by
  obtain ⟨outcome, after⟩ := result
  cases succeeded
  exact phased some

theorem Phased.complete {background : Bool} {stages : List Node} {session : Session σ τ}
    {action : EvalM σ τ Status}
    (phased : Phased world background stages session (action.run.run session)) :
    Phased world background stages session ((complete action).run.run session) := by
  rw [run_complete]
  generalize action.run.run session = result at phased ⊢
  obtain ⟨outcome, after⟩ := result
  cases outcome with
  | error fault => exact phased
  | ok status => exact phased

theorem phased_runCommand {command : Command} {stage : Node} (starts : stage.Starts command)
    (session : Session σ τ) :
    Phased world false [stage] session ((runCommand world command).run.run session) := by
  have unstarted := unstarted_prepare world command session.openFrame
  rw [runCommand, if_neg (by simpa using starts.2), run_inFrame, run_bind]
  cases prepared : (prepare world command).run.run session.openFrame with
  | mk outcome middle =>
      rw [prepared] at unstarted
      cases outcome with
      | error fault => exact unstarted.closeFrame
      | ok invocation =>
          intro _
          refine ⟨[invocation], ?_, .cons (prepares_of_run starts prepared) .nil⟩
          refine Unstarted.asked (show Unstarted session middle from unstarted) ?_ ?_
          · rw [Session.spawner_closeFrame]
            rfl
          · rw [Session.requests_closeFrame]
            rfl

/-! ## Pipelines -/

theorem stageCommands_of_starts {stages : List Node} {commands : List Command}
    (starts : List.Forall₂ Node.Starts stages commands) :
    (stageCommands stages : EvalM σ τ (List Command)) = pure commands := by
  induction starts with
  | nil => rfl
  | cons here _ ih => simp only [stageCommands, Node.stage?_eq_some_iff.mpr here, ih, pure_bind]

/-- The first stage that cannot be started is reported, whatever comes after it. -/
theorem stageCommands_of_first {before : List Node} {stage : Node} (rest : List Node)
    (startable : ∀ earlier ∈ before, ∃ command, earlier.Starts command)
    (other : ¬∃ command, stage.Starts command) :
    (stageCommands (before ++ stage :: rest) : EvalM σ τ (List Command)) =
      fail (.unsupportedStage stage.kindName) := by
  induction before with
  | nil =>
      have none : stage.stage? = none := by
        refine Option.eq_none_iff_forall_ne_some.mpr fun command found => ?_
        exact other ⟨command, Node.stage?_eq_some_iff.mp found⟩
      simp only [List.nil_append, stageCommands, none]
  | cons earlier before ih =>
      rw [List.forall_mem_cons] at startable
      obtain ⟨⟨command, here⟩, startable⟩ := startable
      simp only [List.cons_append, stageCommands, Node.stage?_eq_some_iff.mpr here, ih startable]
      rfl

theorem starts_or_first (stages : List Node) :
    (∃ commands, List.Forall₂ Node.Starts stages commands) ∨
      ∃ before stage rest, stages = before ++ stage :: rest ∧
        (∀ earlier ∈ before, ∃ command, earlier.Starts command) ∧
        ¬∃ command, stage.Starts command := by
  induction stages with
  | nil => exact .inl ⟨[], .nil⟩
  | cons stage stages ih =>
      by_cases here : ∃ command, stage.Starts command
      · rcases ih with ⟨commands, all⟩ | ⟨before, other, rest, rfl, startable, not⟩
        · obtain ⟨command, here⟩ := here
          exact .inl ⟨command :: commands, .cons here all⟩
        · exact .inr ⟨stage :: before, other, rest, rfl, List.forall_mem_cons.mpr ⟨here, startable⟩,
            not⟩
      · exact .inr ⟨[], stage, stages, rfl, nofun, here⟩

theorem exists_starts_of_mem {stages : List Node} {commands : List Command}
    (starts : List.Forall₂ Node.Starts stages commands) {stage : Node} (member : stage ∈ stages) :
    ∃ command, stage.Starts command := by
  induction starts with
  | nil => cases member
  | cons here _ ih =>
      rcases List.mem_cons.mp member with rfl | member
      · exact ⟨_, here⟩
      · exact ih member

/-- What is done with stages once they are prepared is asking the spawner for them, once. -/
theorem phased_prepareStages {stages : List Node} {commands : List Command}
    (starts : List.Forall₂ Node.Starts stages commands) (background : Bool)
    {further : List Invocation → EvalM σ τ Status}
    (asks : ∀ invocations middle, invocations.length = commands.length →
      ∃ status after, (further invocations).run.run middle = (.ok status, after) ∧
        after.spawner = world.spawner.after middle.spawner (.start background invocations) ∧
        after.requests = middle.requests ++ [.start background invocations])
    (session : Session σ τ) :
    Phased world background stages session
      ((prepareStages world commands >>= further).run.run session) := by
  have unstarted := unstarted_prepareStages world commands session
  rw [run_bind]
  cases prepared : (prepareStages world commands).run.run session with
  | mk outcome middle =>
      rw [prepared] at unstarted
      cases outcome with
      | error fault => exact unstarted
      | ok invocations =>
          have each := forall₂_of_run_prepareStages starts prepared
          have length : invocations.length = commands.length :=
            each.length_eq.symm.trans starts.length_eq
          obtain ⟨status, after, ran, spawner, requests⟩ := asks invocations middle length
          show Phased world background stages session ((further invocations).run.run middle)
          rw [ran]
          exact fun _ => ⟨invocations, unstarted.asked spawner requests, each⟩

theorem asks_runBackground (world : World σ τ) (invocations : List Invocation)
    (session : Session σ τ) :
    ∃ status after, (runBackground world invocations).run.run session = (.ok status, after) ∧
      after.spawner = world.spawner.after session.spawner (.background invocations) ∧
      after.requests = session.requests ++ [.background invocations] := by
  rw [run_runBackground]
  simp only [Spawner.after]
  generalize (world.spawner.spawnBackground invocations).run session.spawner = answer
  obtain ⟨answer, state⟩ := answer
  cases answer with
  | ok job => exact ⟨_, _, rfl, rfl, rfl⟩
  | error cause => exact ⟨_, _, rfl, rfl, rfl⟩

theorem phased_runPipeline {stages : List Node} {commands : List Command}
    (starts : List.Forall₂ Node.Starts stages commands) (background : Bool)
    (session : Session σ τ) :
    Phased world background stages session
      ((runPipeline world stages background).run.run session) := by
  rw [runPipeline, stageCommands_of_starts starts, pure_bind]
  rcases starts with - | ⟨here, - | ⟨here', more⟩⟩
  · exact fun some => absurd rfl some
  · cases background with
    | false => exact phased_runCommand here session
    | true =>
        exact phased_prepareStages (.cons here .nil) true
          (fun invocations middle _ => asks_runBackground world invocations middle) session
  · cases background with
    | false =>
        refine phased_prepareStages (.cons here (.cons here' more)) false
          (fun invocations middle length => ?_) session
        obtain ⟨first, second, rest, rfl⟩ : ∃ first second rest,
            invocations = first :: second :: rest := by
          match invocations with
          | first :: second :: rest => exact ⟨first, second, rest, rfl⟩
        exact ⟨_, _, rfl, rfl, rfl⟩
    | true =>
        exact phased_prepareStages (.cons here (.cons here' more)) true
          (fun invocations middle _ => asks_runBackground world invocations middle) session

/-! ## Which errors there can be -/

section Raises

variable {P : Fault → Prop}

theorem raises_inFrame {action : EvalM σ τ α} (raises : Raises P action) :
    Raises P (inFrame action) :=
  fun session => raises session.openFrame

theorem raises_complete {action : EvalM σ τ Status} (raises : Raises P action) :
    Raises P (complete action) :=
  .bind raises fun status => .bind (fun _ _ same => by cases same) fun _ => raises_pure status

theorem raises_ask (request : Request) (answer : StateM σ α) :
    Raises P (ask request answer : EvalM σ τ α) :=
  fun _ _ same => by cases same

variable (covers : Covers world P) (short : ∀ word, P (.shortWord word))
include covers short

theorem raises_expandFrom (word : Word) (text : List Char) (subs : List Substitution) :
    Raises P (expandFrom world word text subs) := by
  induction text generalizing subs with
  | nil => exact raises_pure []
  | cons c rest ih =>
      simp only [expandFrom]
      split
      · cases subs with
        | nil => exact raises_throw (short word)
        | cons sub subs =>
            exact .bind (raises_resolve covers sub) fun _ => .bind (ih subs) fun _ => raises_pure _
      · exact .bind (ih subs) fun _ => raises_pure _

theorem raises_expand (word : Word) : Raises P (expand world word) := by
  unfold expand
  split
  · exact raises_pure _
  · exact .bind (raises_expandFrom covers short word _ _) fun _ => raises_pure _

theorem raises_prepare (command : Command) : Raises P (prepare world command) := by
  rw [prepare_eq]
  have bound : ∀ assignment, Raises P (bindLocal world assignment) := fun assignment =>
    .bind (raises_expand covers short assignment.value) fun _ => raises_modifyScope _
  refine .bind (.mapM bound _) fun _ => ?_
  exact .bind (.mapM (raises_expand covers short) _) fun _ => .bind raises_get fun _ =>
    raises_pure _

theorem raises_runCommand {command : Command} (some : command.words ≠ []) :
    Raises P (runCommand world command) := by
  rw [runCommand, if_neg (by simpa using some)]
  exact raises_inFrame (.bind (raises_prepare covers short command) fun _ =>
    .bind (raises_ask _ _) fun _ => raises_pure _)

theorem raises_prepareStages (commands : List Command) :
    Raises P (prepareStages world commands) :=
  .mapM (fun command => raises_inFrame (raises_prepare covers short command)) commands

theorem raises_runPipeline {stages : List Node} {commands : List Command}
    (starts : List.Forall₂ Node.Starts stages commands) (background : Bool) :
    Raises P (runPipeline world stages background) := by
  rw [runPipeline, stageCommands_of_starts starts, pure_bind]
  split
  · exact raises_pure _
  · rcases starts with - | ⟨here, - | -⟩
    exact raises_runCommand covers short here.2
  · exact .bind (raises_prepareStages covers short _) fun _ => .bind (raises_ask _ _) fun _ =>
      raises_pure _
  · refine .bind (raises_prepareStages covers short _) fun invocations => ?_
    intro session fault failed
    obtain ⟨status, after, ran, -⟩ := asks_runBackground world invocations session
    rw [ran] at failed
    cases failed

end Raises

/-! ## The phases of an evaluation -/

theorem covers_unsupported
    (silent : ∀ substituter, world.substituter = some substituter →
      ∀ script scope memory kind,
        (substituter script scope memory).1 ≠ .error (.unsupportedStage kind)) :
    Covers world fun fault => ∀ kind, fault ≠ .error (.unsupportedStage kind) where
  arithmetic _ _ same := by cases same
  noSubstituter _ _ same := by cases same
  script := by
    rintro substituter installed script scope memory error failed kind ⟨rfl⟩
    exact silent substituter installed script scope memory kind failed

theorem run_pipeline_of_first (limit : Nat) {before : List Node} {stage : Node} (rest : List Node)
    (background : Bool) (startable : ∀ earlier ∈ before, ∃ command, earlier.Starts command)
    (other : ¬∃ command, stage.Starts command) (session : Session σ τ) :
    (evaluate world limit (.pipeline (before ++ stage :: rest) background)).run.run session =
      (.error (.error (.unsupportedStage stage.kindName)), session) := by
  rw [evaluate, run_complete, runPipeline, stageCommands_of_first rest startable other]
  rfl

/-- A command with words, or a pipeline, asks nothing of the spawner if it ends with an error. If it
    ends with a status and there is a stage, it asks once, for one invocation of each stage in
    order, with one argument for each word in order. A pipeline with a stage that is no command with
    words does nothing but report the first such stage, and no other pipeline has this error unless
    a script reports it. -/
theorem evaluate_starts_once (world : World σ τ) (limit : Nat) (session : Session σ τ) :
    (∀ command : Command, command.words ≠ [] →
      Phased world false [.command command] session
        ((evaluate world limit (.command command)).run.run session)) ∧
    ∀ (stages : List Node) (background : Bool),
      let result := (evaluate world limit (.pipeline stages background)).run.run session
      Phased world background stages session result ∧
      (∀ before stage rest, stages = before ++ stage :: rest →
        (∀ earlier ∈ before, ∃ command, earlier.Starts command) →
        (¬∃ command, stage.Starts command) →
        result = (.error (.error (.unsupportedStage stage.kindName)), session)) ∧
      ((∀ substituter, world.substituter = some substituter → ∀ script scope memory kind,
          (substituter script scope memory).1 ≠ .error (.unsupportedStage kind)) →
        ((∃ kind, result.1 = .error (.error (.unsupportedStage kind))) ↔
          ∃ stage ∈ stages, ¬∃ command, stage.Starts command)) := by
  constructor
  · intro command some
    rw [evaluate]
    exact (phased_runCommand ⟨rfl, some⟩ session).complete
  intro stages background result
  refine ⟨?_, ?_, fun silent => ?_⟩
  · rcases starts_or_first stages with ⟨commands, starts⟩ | ⟨before, stage, rest, rfl, startable,
      other⟩
    · simp only [result]
      rw [evaluate]
      exact (phased_runPipeline starts background session).complete
    · simp only [result]
      rw [run_pipeline_of_first limit rest background startable other]
      exact composable_unstarted.refl session
  · rintro before stage rest rfl startable other
    exact run_pipeline_of_first limit rest background startable other session
  · constructor
    · rintro ⟨kind, failed⟩
      rcases starts_or_first stages with ⟨commands, starts⟩ | ⟨before, stage, rest, rfl, startable,
        other⟩
      · have short : ∀ word kind, Fault.shortWord word ≠ .error (.unsupportedStage kind) :=
          fun word kind same => by cases same
        have raises := raises_complete
          (raises_runPipeline (covers_unsupported silent) short starts background)
        simp only [result] at failed
        rw [evaluate] at failed
        exact absurd rfl (raises session _ failed kind)
      · exact ⟨stage, by simp, other⟩
    · rintro ⟨stage, member, other⟩
      rcases starts_or_first stages with ⟨commands, starts⟩ | ⟨before, first, rest, rfl, startable,
        other'⟩
      · exact absurd (exists_starts_of_mem starts member) other
      · refine ⟨first.kindName, ?_⟩
        simp only [result]
        rw [run_pipeline_of_first limit rest background startable other']

/-- A spawner that keeps what it is asked for: two stages in the background, or nothing. -/
theorem evaluate_starts_once_background :
    let spawner : Spawner (List Request) :=
      ⟨fun invocation => fun asked => (.exited 0, asked ++ [.run invocation]),
        fun stages => fun asked => (.exited 1, asked ++ [.pipeline stages]),
        fun stages => fun asked => (.ok 1, asked ++ [.background stages])⟩
    let substituter : Substituter Unit := fun script scope memory => (.ok script, scope, memory)
    let world : World (List Request) Unit := ⟨spawner, some substituter, "1"⟩
    let stage (word : Word) : Node := .command { words := [.literal "echo", word] }
    let stages (expr : String) : List Node :=
      [stage ⟨"\x01", [.command "date"]⟩, stage ⟨"\x01", [.arithmetic expr]⟩]
    let session : Session (List Request) Unit :=
      { scope := .empty, spawner := [], substituter := () }
    let run (node : Node) := (evaluate world 0 node).run.run session
    (∃ invocations,
      Asked world (.start false invocations) session (run (stage (.literal "a"))).2 ∧
        List.Forall₂ (Prepares world) [stage (.literal "a")] invocations) ∧
      (∃ invocations,
        Asked world (.start true invocations) session
            (run (.pipeline (stages "1 + 1") true)).2 ∧
          List.Forall₂ (Prepares world) (stages "1 + 1") invocations) ∧
      (run (.pipeline (stages "1 + 1") true)).2.spawner =
        [.background [⟨["echo", "date"], []⟩, ⟨["echo", "2"], []⟩]] ∧
      (¬∃ kind, (run (.pipeline (stages "1 + 1") true)).1 =
        .error (.error (.unsupportedStage kind))) ∧
      (run (.pipeline (stages "1 / 0") true)).1 = .error (.error (.arithmetic .divisionByZero)) ∧
      Unstarted session (run (.pipeline (stages "1 / 0") true)).2 ∧
      run (.pipeline (stages "1" ++ [.finish, .negate .finish]) false) =
        (.error (.error (.unsupportedStage "eof")), session) := by
  intro spawner substituter world stage stages session run
  obtain ⟨commands, pipelines⟩ := evaluate_starts_once world 0 session
  have starts : ∀ expr, ∀ stage ∈ stages expr, ∃ command, stage.Starts command := by
    intro expr stage member
    rcases List.mem_pair.mp member with rfl | rfl
    · exact ⟨_, rfl, by simp⟩
    · exact ⟨_, rfl, by simp⟩
  have silent : ∀ substituter, world.substituter = some substituter →
      ∀ script scope memory kind,
        (substituter script scope memory).1 ≠ .error (.unsupportedStage kind) := by
    rintro _ ⟨rfl⟩ script scope memory kind same
    cases same
  have divides : (run (.pipeline (stages "1 / 0") true)).1 =
      .error (.error (.arithmetic .divisionByZero)) := by decide +kernel
  refine ⟨?_, ?_, by decide +kernel, ?_, divides, ?_, ?_⟩
  · have succeeds : (run (stage (.literal "a"))).1 = .ok .success := by decide +kernel
    exact (commands { words := [.literal "echo", .literal "a"] } (by simp)).asked succeeds (by simp)
  · have succeeds : (run (.pipeline (stages "1 + 1") true)).1 = .ok .success := by decide +kernel
    exact (pipelines (stages "1 + 1") true).1.asked succeeds (by simp [stages])
  · rw [(pipelines (stages "1 + 1") true).2.2 silent]
    rintro ⟨stage, member, other⟩
    exact other (starts _ stage member)
  · exact (pipelines (stages "1 / 0") true).1.unstarted divides
  · refine (pipelines _ false).2.1 (stages "1") .finish [.negate .finish] rfl (starts "1") ?_
    rintro ⟨command, same, -⟩
    cases same

end EvalM

end Shell
