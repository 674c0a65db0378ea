import Shell.Proofs.Eval.Runs

/-! # Two evaluations side by side

Two sessions that differ in the last status at most are taken through the same steps and go on
differing in nothing else, as long as no word asks for that status. `alike_evaluate` is the
induction over the tree and over the rounds of its loops. It allows the second evaluation more
rounds than the first, so it also says that a bound on loops that is not reached does not matter.
-/

namespace Shell

/-! ## The words of a construct -/

def Command.allWords (command : Command) : List Word :=
  command.assignments.map Assignment.value ++ command.words

mutual

/-- All words of a construct and of its parts. -/
def Node.words : Node → List Word
  | .list nodes | .pipeline nodes _ => Node.listWords nodes
  | .chain _ left right => left.words ++ right.words
  | .negate inner => inner.words
  | .loop _ condition body => condition.words ++ body.words
  | .forEach _ items body => items ++ body.words
  | .branch links => links.words
  | .case subject arms => subject :: Arm.listWords arms
  | .command command => command.allWords
  | .arithmetic _ | .finish => []

def Node.listWords : List Node → List Word
  | [] => []
  | node :: rest => node.words ++ Node.listWords rest

def Links.words : Links → List Word
  | .done => []
  | .otherwise body => body.words
  | .test condition body rest => condition.words ++ body.words ++ rest.words

def Arm.listWords : List Arm → List Word
  | [] => []
  | .mk patterns body :: rest => patterns ++ body.words ++ Arm.listWords rest

end

theorem Node.words_subset_listWords {node : Node} {nodes : List Node} (member : node ∈ nodes) :
    node.words ⊆ Node.listWords nodes := by
  induction member with
  | head => exact List.subset_append_left _ _
  | tail _ _ ih => exact List.Subset.trans ih (List.subset_append_right _ _)

/-- A loop goes on to another round after such a status of its condition. -/
def LoopKind.goesOn : LoopKind → Status → Bool
  | whileTrue, status => status.isSuccess
  | untilTrue, status => !status.isSuccess

/-! ## Sessions that agree -/

namespace Session

variable {σ τ : Type}

/-- Two sessions differ at most in the status that was noted last. -/
structure Resembles (session session' : Session σ τ) : Prop where
  scope : session.scope = session'.scope
  spawner : session.spawner = session'.spawner
  substituter : session.substituter = session'.substituter
  lastBackground : session.lastBackground = session'.lastBackground
  requests : session.requests = session'.requests
  frameEvents : session.frameEvents = session'.frameEvents

/-- Two sessions resemble each other and, if it counts, have noted the same status. -/
structure Agrees (noted : Prop) (session session' : Session σ τ) : Prop
    extends Resembles session session' where
  lastStatus : noted → session.lastStatus = session'.lastStatus

theorem Agrees.eq {noted : Prop} {session session' : Session σ τ}
    (agrees : Agrees noted session session') (counts : noted) : session = session' := by
  cases session
  cases session'
  obtain ⟨⟨rfl, rfl, rfl, rfl, rfl, rfl⟩, status⟩ := agrees
  obtain rfl := status counts
  rfl

theorem Agrees.openFrame {noted : Prop} {session session' : Session σ τ}
    (agrees : Agrees noted session session') :
    Agrees noted session.openFrame session'.openFrame where
  scope := congrArg Scope.push agrees.scope
  spawner := agrees.spawner
  substituter := agrees.substituter
  lastBackground := agrees.lastBackground
  requests := agrees.requests
  frameEvents := by simp only [Session.openFrame, agrees.scope, agrees.frameEvents]
  lastStatus := agrees.lastStatus

theorem Agrees.closeFrame {noted : Prop} {session session' : Session σ τ}
    (agrees : Agrees noted session session') :
    Agrees noted session.closeFrame session'.closeFrame := by
  unfold Session.closeFrame
  rw [← agrees.scope, ← agrees.frameEvents]
  cases session.scope.pop? with
  | none | some => exact { agrees with scope := rfl, frameEvents := rfl }

end Session

namespace EvalM

open Session (Agrees)

variable {σ τ : Type}

/-- What two evaluations have come to, unless the first was cut off in a loop. -/
inductive Meets (noted cut : Prop) {α : Type} :
    Except Fault α × Session σ τ → Except Fault α × Session σ τ → Prop where
  | agree {outcome : Except Fault α} {after after' : Session σ τ} :
    Agrees noted after after' → Meets noted cut (outcome, after) (outcome, after')
  | cut {after : Session σ τ} {result : Except Fault α × Session σ τ} :
    cut → Meets noted cut (.error .loopLimit, after) result

/-- Two actions come to the same in sessions that agree. -/
def Alike (noted cut : Prop) {α : Type} (action action' : EvalM σ τ α) : Prop :=
  ∀ session session', Agrees noted session session' →
    Meets noted cut (action.run.run session) (action'.run.run session')

/-- A word does not ask for the last status, or the last statuses agree. -/
def Unasked (noted : Prop) (word : Word) : Prop :=
  noted ∨ .parameter "?" ∉ word.subs

variable {α β : Type} {noted cut : Prop} {world : World σ τ}

/-! ## Elementary actions -/

theorem alike_pure (value : α) : Alike noted cut (pure value : EvalM σ τ α) (pure value) :=
  fun _ _ agrees => .agree agrees

theorem alike_throw (fault : Fault) : Alike noted cut (throw fault : EvalM σ τ α) (throw fault) :=
  fun _ _ agrees => .agree agrees

theorem Meets.bind {result result' : Except Fault α × Session σ τ}
    {further further' : α → EvalM σ τ β} (first : Meets noted cut result result')
    (next : ∀ value, Alike noted cut (further value) (further' value)) :
    Meets noted cut (ExceptT.bindCont further result.1 result.2)
      (ExceptT.bindCont further' result'.1 result'.2) := by
  cases first with
  | @agree outcome after after' agrees =>
      cases outcome with
      | error fault => exact .agree agrees
      | ok value => exact next value _ _ agrees
  | cut cut => exact .cut cut

theorem Alike.bind {action action' : EvalM σ τ α} {further further' : α → EvalM σ τ β}
    (first : Alike noted cut action action')
    (next : ∀ value, Alike noted cut (further value) (further' value)) :
    Alike noted cut (action >>= further) (action' >>= further') :=
  fun session session' agrees => (first session session' agrees).bind next

theorem Alike.map {action action' : EvalM σ τ α} (alike : Alike noted cut action action')
    (f : α → β) : Alike noted cut (f <$> action) (f <$> action') := by
  rw [← bind_pure_comp, ← bind_pure_comp]
  exact alike.bind fun value => alike_pure (f value)

theorem alike_get_bind {further further' : Session σ τ → EvalM σ τ α}
    (next : ∀ session session', Agrees noted session session' →
      Meets noted cut ((further session).run.run session) ((further' session').run.run session')) :
    Alike noted cut (get >>= further) (get >>= further') :=
  next

theorem meets_set_bind {session session' next next' : Session σ τ}
    {further further' : EvalM σ τ α} (agrees : Agrees noted next next')
    (alike : Alike noted cut further further') :
    Meets noted cut ((set next >>= fun _ => further : EvalM σ τ α).run.run session)
      ((set next' >>= fun _ => further' : EvalM σ τ α).run.run session') :=
  alike next next' agrees

theorem alike_modifyScope (f : Scope → Scope) :
    Alike noted cut (modifyScope f : EvalM σ τ Unit) (modifyScope f) :=
  fun _ _ agrees => .agree { agrees with scope := congrArg f agrees.scope }

theorem alike_ask (request : Request) (answer : StateM σ α) :
    Alike noted cut (EvalM.ask request answer : EvalM σ τ α) (EvalM.ask request answer) := by
  intro session session' agrees
  rw [run_ask, run_ask, agrees.spawner, agrees.requests]
  exact .agree { agrees with spawner := rfl, requests := rfl }

theorem alike_complete {action action' : EvalM σ τ Status}
    (inside : Alike noted cut action action') :
    Alike noted cut (complete action) (complete action') :=
  inside.bind fun _ =>
    Alike.bind (fun _ _ agrees => .agree { agrees with lastStatus := fun _ => rfl })
      fun _ => alike_pure _

theorem alike_inFrame {action action' : EvalM σ τ α} (inside : Alike noted cut action action') :
    Alike noted cut (inFrame action) (inFrame action') := by
  intro session session' agrees
  have opened := inside _ _ agrees.openFrame
  rw [run_inFrame, run_inFrame]
  generalize action.run.run session.openFrame = result at opened ⊢
  generalize action'.run.run session'.openFrame = result' at opened ⊢
  cases opened with
  | agree agrees => exact .agree agrees.closeFrame
  | cut cut => exact .cut cut

theorem alike_mapM {action action' : α → EvalM σ τ β} (items : List α)
    (each : ∀ item ∈ items, Alike noted cut (action item) (action' item)) :
    Alike noted cut (items.mapM action) (items.mapM action') := by
  induction items with
  | nil => exact alike_pure []
  | cons item items ih =>
      rw [List.forall_mem_cons] at each
      rw [List.mapM_cons, List.mapM_cons]
      refine each.1.bind fun value => ?_
      exact (ih each.2).bind fun values => alike_pure (value :: values)

theorem alike_forIn {action action' : α → β → EvalM σ τ (ForInStep β)} (items : List α) (value : β)
    (each : ∀ item ∈ items, ∀ value, Alike noted cut (action item value) (action' item value)) :
    Alike noted cut (forIn items value action) (forIn items value action') := by
  induction items generalizing value with
  | nil => exact alike_pure value
  | cons item items ih =>
      rw [List.forall_mem_cons] at each
      rw [List.forIn_cons, List.forIn_cons]
      refine (each.1 value).bind fun step => ?_
      cases step with
      | done value => exact alike_pure value
      | yield value => exact ih value each.2

/-! ## Expansion -/

theorem alike_arithmetic (expr : String) :
    Alike noted cut (arithmetic expr : EvalM σ τ Int64) (arithmetic expr) := by
  refine alike_get_bind fun session session' agrees => ?_
  rw [agrees.scope]
  generalize Arith.perform expr session'.scope = performed
  obtain ⟨outcome, scope⟩ := performed
  refine (alike_modifyScope fun _ => scope).bind (fun _ => ?_) session session' agrees
  cases outcome with
  | ok value => exact alike_pure value
  | error cause => exact alike_throw _

theorem alike_substitute (script : String) :
    Alike noted cut (EvalM.substitute world script) (EvalM.substitute world script) := by
  unfold EvalM.substitute
  cases world.substituter with
  | none => exact alike_throw _
  | some substituter =>
      refine alike_get_bind fun session session' agrees => ?_
      rw [agrees.scope, agrees.substituter, agrees.requests]
      obtain ⟨answer, scope, memory⟩ :=
        substituter script session'.scope session'.substituter
      refine meets_set_bind { agrees with scope := rfl, substituter := rfl, requests := rfl } ?_
      cases answer with
      | ok output => exact alike_pure output
      | error error => exact alike_throw _

theorem alike_resolve {sub : Substitution} (unasked : noted ∨ sub ≠ .parameter "?") :
    Alike noted cut (resolve world sub) (resolve world sub) := by
  cases sub with
  | parameter name =>
      refine alike_get_bind fun session session' agrees => ?_
      rw [agrees.scope, agrees.lastBackground]
      by_cases status : name = "?"
      · subst status
        rw [agrees.lastStatus (unasked.resolve_right fun other => other rfl)]
        exact .agree agrees
      · simp only [if_neg status]
        exact .agree agrees
  | arithmetic expr => exact (alike_arithmetic expr).bind fun _ => alike_pure _
  | command script => exact (alike_substitute script).bind fun _ => alike_pure _

theorem alike_expandFrom (word : Word) (text : List Char) {subs : List Substitution}
    (unasked : noted ∨ .parameter "?" ∉ subs) :
    Alike noted cut (expandFrom world word text subs) (expandFrom world word text subs) := by
  induction text generalizing subs with
  | nil => exact alike_pure []
  | cons c rest ih =>
      simp only [expandFrom]
      split
      · cases subs with
        | nil => exact alike_throw _
        | cons sub subs =>
            have unasked' : noted ∨ sub ≠ .parameter "?" ∧ .parameter "?" ∉ subs :=
              unasked.imp_right fun absent => by simpa [eq_comm] using absent
            refine (alike_resolve (unasked'.imp_right And.left)).bind fun value => ?_
            exact (ih (unasked'.imp_right And.right)).bind fun _ => alike_pure _
      · exact (ih unasked).bind fun _ => alike_pure _

theorem alike_expand {word : Word} (unasked : Unasked noted word) :
    Alike noted cut (expand world word) (expand world word) := by
  unfold expand
  split
  · exact alike_pure _
  · exact (alike_expandFrom word _ unasked).bind fun _ => alike_pure _

theorem alike_expandAll {words : List Word} (unasked : ∀ word ∈ words, Unasked noted word) :
    Alike noted cut (words.mapM (expand world)) (words.mapM (expand world)) :=
  alike_mapM words fun word member => alike_expand (unasked word member)

/-! ## Commands and pipelines -/

theorem alike_assign (assign : String → String → Scope → Scope) {assignments : List Assignment}
    (unasked : ∀ assignment ∈ assignments, Unasked noted assignment.value) (value : PUnit) :
    let action (assignment : Assignment) (_ : PUnit) : EvalM σ τ (ForInStep PUnit) := do
      let text ← expand world assignment.value
      modifyScope (assign assignment.name text)
      pure (.yield PUnit.unit)
    Alike noted cut (forIn assignments value action) (forIn assignments value action) := by
  intro action
  refine alike_forIn assignments value fun assignment member _ => ?_
  refine (alike_expand (unasked assignment member)).bind fun text => ?_
  exact (alike_modifyScope _).bind fun _ => alike_pure _

theorem alike_prepare {command : Command}
    (unasked : ∀ word ∈ command.allWords, Unasked noted word) :
    Alike noted cut (prepare world command) (prepare world command) := by
  simp only [Command.allWords, List.forall_mem_append, List.forall_mem_map] at unasked
  refine (alike_assign Scope.setLocal unasked.1 _).bind fun _ => ?_
  refine (alike_expandAll unasked.2).bind fun argv => ?_
  refine alike_get_bind fun session session' agrees => ?_
  rw [agrees.scope]
  exact alike_pure _ session session' agrees

theorem alike_runCommand {command : Command}
    (unasked : ∀ word ∈ command.allWords, Unasked noted word) :
    Alike noted cut (runCommand world command) (runCommand world command) := by
  unfold runCommand
  split
  · simp only [Command.allWords, List.forall_mem_append, List.forall_mem_map] at unasked
    exact (alike_assign Scope.set unasked.1 _).bind fun _ => alike_pure _
  · refine alike_inFrame ((alike_prepare unasked).bind fun invocation => ?_)
    exact (alike_ask _ _).bind fun _ => alike_pure _

theorem alike_prepareStages {commands : List Command}
    (unasked : ∀ command ∈ commands, ∀ word ∈ command.allWords, Unasked noted word) :
    Alike noted cut (prepareStages world commands) (prepareStages world commands) :=
  alike_mapM commands fun command member => alike_inFrame (alike_prepare (unasked command member))

theorem alike_runBackground (stages : List Invocation) :
    Alike noted cut (runBackground world stages) (runBackground world stages) := by
  refine (alike_ask _ _).bind fun answer => ?_
  cases answer with
  | ok job =>
      refine Alike.bind (fun _ _ agrees => ?_) fun _ => alike_pure _
      exact .agree { agrees with lastBackground := rfl }
  | error => exact alike_pure _

variable (σ τ) in
theorem stageCommands_eq (stages : List Node) :
    (∃ commands, (stageCommands stages : EvalM σ τ (List Command)) = pure commands ∧
      stages.map Node.stage? = commands.map some) ∨
    ∃ error, (stageCommands stages : EvalM σ τ (List Command)) = fail error := by
  induction stages with
  | nil => exact .inl ⟨[], rfl, rfl⟩
  | cons stage stages ih =>
      simp only [stageCommands]
      cases found : stage.stage? with
      | none => exact .inr ⟨_, rfl⟩
      | some command =>
          rcases ih with ⟨commands, same, all⟩ | ⟨error, same⟩
          · exact .inl ⟨command :: commands, by simp [same], by simp [found, all]⟩
          · exact .inr ⟨error, by rw [same]; rfl⟩

theorem allWords_of_stage? {node : Node} {command : Command} (found : node.stage? = some command) :
    command.allWords = node.words := by
  cases node with
  | command command' =>
      simp only [Node.stage?, Option.ite_none_left_eq_some, Option.some.injEq] at found
      rw [found.2, Node.words]
  | _ => cases found

theorem alike_runPipeline {stages : List Node} (background : Bool)
    (unasked : ∀ word ∈ Node.listWords stages, Unasked noted word) :
    Alike noted cut (runPipeline world stages background)
      (runPipeline world stages background) := by
  unfold runPipeline
  rcases stageCommands_eq σ τ stages with ⟨commands, same, all⟩ | ⟨error, same⟩
  · have unasked' : ∀ command ∈ commands, ∀ word ∈ command.allWords, Unasked noted word := by
      intro command member word inside
      have : some command ∈ stages.map Node.stage? := all ▸ List.mem_map_of_mem member
      obtain ⟨stage, among, found⟩ := List.mem_map.mp this
      rw [allWords_of_stage? found] at inside
      exact unasked word (Node.words_subset_listWords among inside)
    rw [same, pure_bind]
    split
    · exact alike_pure _
    · rename_i only
      exact alike_runCommand (unasked' only List.mem_cons_self)
    · refine (alike_prepareStages unasked').bind fun _ => ?_
      exact (alike_ask _ _).bind fun _ => alike_pure _
    · exact (alike_prepareStages unasked').bind fun stages => alike_runBackground stages
  · rw [same]
    exact fun _ _ agrees => .agree agrees

/-! ## Loops and choices -/

theorem runLoop_succ (kind : LoopKind) (condition body : EvalM σ τ Status) (rounds : Nat)
    (status : Status) :
    runLoop kind condition body (rounds + 1) status = (do
      if ← kind.goesOn <$> condition then runLoop kind condition body rounds (← body)
      else return status) := by
  rw [runLoop, bind_map_left]
  cases kind <;> rfl

/-- Loops that are alike in their conditions, though these may be asked for opposite answers, are
    alike if they may go round equally often, or the first less often than the second. -/
theorem alike_runLoop {kind kind' : LoopKind} {condition condition' body body' : EvalM σ τ Status}
    (test : Alike noted cut (kind.goesOn <$> condition) (kind'.goesOn <$> condition'))
    (round : Alike noted cut body body') {rounds rounds' : Nat} (fewer : rounds ≤ rounds')
    (equal : cut ∨ rounds = rounds') (status : Status) :
    Alike noted cut (runLoop kind condition body rounds status)
      (runLoop kind' condition' body' rounds' status) := by
  induction rounds generalizing rounds' status with
  | zero =>
      rcases equal with allowed | rfl
      · exact fun _ _ _ => .cut allowed
      · exact alike_throw _
  | succ rounds ih =>
      cases rounds' with
      | zero => exact absurd fewer (Nat.not_succ_le_zero rounds)
      | succ rounds' =>
          rw [runLoop_succ, runLoop_succ]
          refine test.bind fun goesOn => ?_
          split
          · exact round.bind fun status =>
              ih (Nat.le_of_succ_le_succ fewer) (equal.imp_right Nat.succ.inj) status
          · exact alike_pure status

theorem alike_runForEach (name : String) {body body' : EvalM σ τ Status}
    (round : Alike noted cut body body') (values : List String) (status : Status) :
    Alike noted cut (runForEach name body values status) (runForEach name body' values status) := by
  induction values generalizing status with
  | nil => exact alike_pure status
  | cons value values ih => exact (alike_modifyScope _).bind fun _ => round.bind ih

theorem alike_anyPattern (subject : String) {patterns : List Word}
    (unasked : ∀ word ∈ patterns, Unasked noted word) :
    Alike noted cut (anyPattern world subject patterns) (anyPattern world subject patterns) := by
  induction patterns with
  | nil => exact alike_pure false
  | cons pattern patterns ih =>
      rw [List.forall_mem_cons] at unasked
      refine (alike_expand unasked.1).bind fun text => ?_
      split
      · exact alike_pure true
      · exact ih unasked.2

/-! ## Trees -/

variable {limit limit' : Nat}

mutual

/-- An evaluation comes to the same in two sessions that differ in the last status at most, if no
    word asks for that. More rounds for its loops make no difference either, unless there were too
    few. -/
theorem alike_evaluate (fewer : limit ≤ limit') (equal : cut ∨ limit = limit') (node : Node)
    (unasked : ∀ word ∈ node.words, Unasked noted word) :
    Alike noted cut (evaluate world limit node) (evaluate world limit' node) := by
  rw [evaluate.eq_def, evaluate.eq_def]
  cases node with
  | list nodes =>
      rw [Node.words] at unasked
      exact alike_complete (alike_evaluateList fewer equal nodes unasked .success)
  | chain op left right =>
      rw [Node.words, List.forall_mem_append] at unasked
      refine alike_complete ((alike_evaluate fewer equal left unasked.1).bind fun status => ?_)
      split
      · exact alike_evaluate fewer equal right unasked.2
      · exact alike_evaluate fewer equal right unasked.2
      · exact alike_pure status
  | negate inner =>
      rw [Node.words] at unasked
      exact alike_complete ((alike_evaluate fewer equal inner unasked).bind fun _ => alike_pure _)
  | loop kind condition body =>
      rw [Node.words, List.forall_mem_append] at unasked
      refine alike_complete (alike_runLoop ?_ ?_ fewer equal _)
      · exact (alike_evaluate fewer equal condition unasked.1).map _
      · exact alike_evaluate fewer equal body unasked.2
  | forEach name items body =>
      rw [Node.words, List.forall_mem_append] at unasked
      refine alike_complete ((alike_expandAll unasked.1).bind fun values => ?_)
      exact alike_runForEach name (alike_evaluate fewer equal body unasked.2) values .success
  | branch links =>
      rw [Node.words] at unasked
      exact alike_complete (alike_evaluateLinks fewer equal links unasked)
  | case subject arms =>
      rw [Node.words, List.forall_mem_cons] at unasked
      refine alike_complete ((alike_expand unasked.1).bind fun text => ?_)
      exact alike_evaluateArms fewer equal text arms unasked.2
  | command command =>
      rw [Node.words] at unasked
      exact alike_complete (alike_runCommand unasked)
  | arithmetic expr => exact alike_complete ((alike_arithmetic expr).bind fun _ => alike_pure _)
  | pipeline stages background =>
      rw [Node.words] at unasked
      exact alike_complete (alike_runPipeline background unasked)
  | finish => exact alike_complete (alike_pure _)

theorem alike_evaluateList (fewer : limit ≤ limit') (equal : cut ∨ limit = limit')
    (nodes : List Node) (unasked : ∀ word ∈ Node.listWords nodes, Unasked noted word)
    (status : Status) :
    Alike noted cut (evaluateList world limit nodes status)
      (evaluateList world limit' nodes status) := by
  cases nodes with
  | nil => exact alike_pure status
  | cons node rest =>
      rw [Node.listWords, List.forall_mem_append] at unasked
      exact (alike_evaluate fewer equal node unasked.1).bind fun status =>
        alike_evaluateList fewer equal rest unasked.2 status

theorem alike_evaluateLinks (fewer : limit ≤ limit') (equal : cut ∨ limit = limit') (links : Links)
    (unasked : ∀ word ∈ links.words, Unasked noted word) :
    Alike noted cut (evaluateLinks world limit links) (evaluateLinks world limit' links) := by
  cases links with
  | done => exact alike_pure Status.success
  | otherwise body =>
      rw [Links.words] at unasked
      exact alike_evaluate fewer equal body unasked
  | test condition body rest =>
      simp only [Links.words, List.forall_mem_append] at unasked
      refine (alike_evaluate fewer equal condition unasked.1.1).bind fun status => ?_
      split
      · exact alike_evaluate fewer equal body unasked.1.2
      · exact alike_evaluateLinks fewer equal rest unasked.2

theorem alike_evaluateArms (fewer : limit ≤ limit') (equal : cut ∨ limit = limit')
    (subject : String) (arms : List Arm)
    (unasked : ∀ word ∈ Arm.listWords arms, Unasked noted word) :
    Alike noted cut (evaluateArms world limit subject arms)
      (evaluateArms world limit' subject arms) := by
  cases arms with
  | nil => exact alike_pure Status.success
  | cons arm rest =>
      obtain ⟨patterns, body⟩ := arm
      simp only [Arm.listWords, List.forall_mem_append] at unasked
      refine (alike_anyPattern subject unasked.1.1).bind fun accepted => ?_
      split
      · exact alike_evaluate fewer equal body unasked.1.2
      · exact alike_evaluateArms fewer equal subject rest unasked.2

end

end EvalM

end Shell
