import Shell.Proofs.Eval.Expansion

/-! # Preparing a command

A command is prepared substitution by substitution, with a local assignment after each word in
front of it. `Resolves` tells in which session each substitution is resolved: the one in which
everything before it has succeeded. A relation that is respected at each of these moments holds
between the sessions before and after, wherever the preparation ends.
-/

namespace Shell

/-- The substitutions of a word that have a marker. -/
def Word.placed (word : Word) : List Substitution :=
  word.subs.take word.markers

namespace EvalM

variable {σ τ α β : Type}

/-- Something is done for one item after the other, and when it comes to this one, it is so far. -/
def Reaches (action : α → EvalM σ τ β) (items : List α) (session : Session σ τ) (item : α)
    (moment : Session σ τ) : Prop :=
  ∃ before after values, items = before ++ item :: after ∧
    (before.mapM action).run.run session = (.ok values, moment)

theorem reaches_head (action : α → EvalM σ τ β) (item : α) (items : List α)
    (session : Session σ τ) : Reaches action (item :: items) session item session :=
  ⟨[], items, [], rfl, rfl⟩

theorem Reaches.cons {action : α → EvalM σ τ β} {first item : α} {items : List α} {value : β}
    {session next moment : Session σ τ}
    (ran : (action first).run.run session = (.ok value, next))
    (reaches : Reaches action items next item moment) :
    Reaches action (first :: items) session item moment := by
  obtain ⟨before, after, values, rfl, further⟩ := reaches
  refine ⟨first :: before, after, value :: values, rfl, ?_⟩
  rw [List.mapM_cons, run_bind, ran]
  show ((before.mapM action) >>= fun values => pure (value :: values)).run.run next = _
  rw [run_bind, further]
  rfl

theorem Reaches.mem {action : α → EvalM σ τ β} {items : List α} {session moment : Session σ τ}
    {item : α} (reaches : Reaches action items session item moment) : item ∈ items := by
  obtain ⟨before, after, values, rfl, -⟩ := reaches
  simp

/-- Expands a word and binds a name to it in the innermost frame. -/
def bindLocal (world : World σ τ) (assignment : Assignment) : EvalM σ τ Unit := do
  let value ← expand world assignment.value
  modifyScope (Scope.setLocal assignment.name value)

/-- The sessions in which a command that is prepared has its substitutions resolved. -/
inductive Resolves (world : World σ τ) (command : Command) (session : Session σ τ) :
    Substitution → Session σ τ → Prop where
  | inAssignment {assignment : Assignment} {sub : Substitution} {start moment : Session σ τ} :
    Reaches (bindLocal world) command.assignments session assignment start →
      Reaches (resolve world) assignment.value.placed start sub moment →
      Resolves world command session sub moment
  | inWord {bound : List Unit} {word : Word} {sub : Substitution}
    {middle start moment : Session σ τ} :
    (command.assignments.mapM (bindLocal world)).run.run session = (.ok bound, middle) →
      Reaches (expand world) command.words middle word start →
      Reaches (resolve world) word.placed start sub moment →
      Resolves world command session sub moment

/-! ## What is done in order -/

theorem forIn_eq_mapM (action : α → EvalM σ τ β) (items : List α) :
    (forIn items PUnit.unit fun item _ => do
      let _ ← action item
      pure (ForInStep.yield PUnit.unit)) = (do let _ ← items.mapM action) := by
  induction items with
  | nil => rfl
  | cons item items ih =>
      rw [List.forIn_cons, List.mapM_cons]
      simp only [bind_assoc, pure_bind, ih]

theorem prepare_eq (world : World σ τ) (command : Command) :
    prepare world command = (do
      let _ ← command.assignments.mapM (bindLocal world)
      let argv ← command.words.mapM (expand world)
      return ⟨argv, (← get).scope.environ.toList⟩) := by
  have loop := forIn_eq_mapM (bindLocal world) command.assignments
  simp only [bindLocal, bind_assoc] at loop
  simp only [prepare, loop, bind_assoc, pure_bind]

theorem expandFrom_take (world : World σ τ) (word : Word) (text : List Char)
    (subs : List Substitution) :
    expandFrom world word text subs =
      expandFrom world word text (subs.take (text.count marker)) := by
  induction text generalizing subs with
  | nil => rfl
  | cons c rest ih =>
      by_cases same : c = marker
      · subst same
        cases subs with
        | nil => rw [List.take_nil]
        | cons sub subs =>
            simp only [expandFrom, if_true, List.count_cons_self, List.take_succ_cons]
            rw [ih subs]
      · simp only [expandFrom, if_neg same, List.count_cons_of_ne same]
        rw [ih subs]

/-! ## Relations between sessions -/

/-- What a substitution leaves of a session when it is resolved, whether it has a value or not. -/
def leaves (world : World σ τ) (session : Session σ τ) : Substitution → Session σ τ
  | .parameter _ => session
  | .arithmetic expr => { session with scope := (Arith.perform expr session.scope).2 }
  | .command script =>
    match world.substituter with
    | none => session
    | some substituter =>
      let (_, scope, memory) := substituter script session.scope session.substituter
      { session with
        scope, substituter := memory, requests := session.requests ++ [.substitute script] }

theorem run_arithmetic (expr : String) (session : Session σ τ) :
    (arithmetic expr).run.run session =
      ((Arith.perform expr session.scope).1.mapError fun cause => .error (.arithmetic cause),
        { session with scope := (Arith.perform expr session.scope).2 }) := by
  rw [arithmetic, run_get_bind]
  generalize Arith.perform expr session.scope = performed
  obtain ⟨outcome, scope⟩ := performed
  cases outcome <;> rfl

theorem run_substitute {world : World σ τ} {substituter : Substituter τ}
    (installed : world.substituter = some substituter) (script : String) (session : Session σ τ) :
    (substitute world script).run.run session =
      let (answer, scope, memory) := substituter script session.scope session.substituter
      (answer.mapError .error, { session with
        scope, substituter := memory, requests := session.requests ++ [.substitute script] }) := by
  rw [substitute, installed]
  simp only [run_get_bind]
  generalize substituter script session.scope session.substituter = ran
  obtain ⟨answer, scope, memory⟩ := ran
  cases answer <;> rfl

theorem run_bind_pure (action : EvalM σ τ α) (make : α → β) (session : Session σ τ) :
    ((action >>= fun value => pure (make value)).run.run session).2 =
      (action.run.run session).2 := by
  rw [run_bind]
  generalize action.run.run session = result
  obtain ⟨outcome, after⟩ := result
  cases outcome <;> rfl

theorem run_resolve (world : World σ τ) (sub : Substitution) (session : Session σ τ) :
    ((resolve world sub).run.run session).2 = leaves world session sub := by
  cases sub with
  | parameter name => rfl
  | arithmetic expr =>
      rw [resolve, run_bind_pure, run_arithmetic]
      rfl
  | command script =>
      rw [resolve, run_bind_pure, leaves]
      cases installed : world.substituter with
      | none =>
          rw [substitute, installed]
          rfl
      | some substituter => rw [run_substitute installed]

variable {world : World σ τ} {R : Session σ τ → Session σ τ → Prop}

namespace Composable

variable (composable : Composable R)
include composable

theorem relates_mapM {action : α → EvalM σ τ β} {items : List α} {session : Session σ τ}
    (each : ∀ item moment, Reaches action items session item moment →
      R moment ((action item).run.run moment).2) :
    R session ((items.mapM action).run.run session).2 := by
  induction items generalizing session with
  | nil => exact composable.refl session
  | cons item items ih =>
      rw [List.mapM_cons]
      refine composable.relates_bind_of (each item session (reaches_head ..)) ?_
      intro value next ran
      refine composable.relates_bind (ih fun item' moment reaches => ?_) fun values =>
        composable.upholds_pure (value :: values)
      exact each item' moment (reaches.cons ran)

theorem relates_expand {word : Word} {session : Session σ τ}
    (each : ∀ sub moment, Reaches (resolve world) word.placed session sub moment →
      R moment (leaves world moment sub)) :
    R session ((expand world word).run.run session).2 := by
  have enough : word.placed.length ≤ word.raw.toList.count marker :=
    List.length_take_le _ _
  unfold expand
  split
  · exact composable.refl session
  · have here : expandFrom world word word.raw.toList word.subs =
        expandFrom world word word.raw.toList word.placed :=
      expandFrom_take world word word.raw.toList word.subs
    rw [here, expandFrom_eq world word _ _ enough]
    refine composable.relates_bind (composable.relates_bind ?_ fun values => ?_) fun _ =>
      composable.upholds_pure _
    · refine composable.relates_mapM fun sub moment reaches => ?_
      rw [run_resolve]
      exact each sub moment reaches
    · split
      · exact composable.upholds_pure _
      · exact composable.upholds_throw _

/-- A relation holds between the sessions before and after a command is prepared, however that ends,
    if each substitution respects it in the session in which it is resolved. -/
theorem relates_prepare {command : Command} {session : Session σ τ}
    (setLocal : ∀ (name value : String) (session : Session σ τ),
      R session { session with scope := session.scope.setLocal name value })
    (each : ∀ sub moment, Resolves world command session sub moment →
      R moment (leaves world moment sub)) :
    R session ((prepare world command).run.run session).2 := by
  rw [prepare_eq]
  refine composable.relates_bind_of ?_ fun bound middle ran => ?_
  · refine composable.relates_mapM fun assignment start reaches => ?_
    refine composable.relates_bind (composable.relates_expand fun sub moment inside => ?_)
      fun value => setLocal assignment.name value
    exact each sub moment (.inAssignment reaches inside)
  · refine composable.relates_bind ?_ fun argv =>
      composable.upholds_bind composable.upholds_get fun _ => composable.upholds_pure _
    refine composable.relates_mapM fun word start reaches => ?_
    refine composable.relates_expand fun sub moment inside => ?_
    exact each sub moment (.inWord ran reaches inside)

theorem relates_reaches {action : α → EvalM σ τ β} (each : ∀ item, Upholds R (action item))
    {items : List α} {session moment : Session σ τ} {item : α}
    (reaches : Reaches action items session item moment) : R session moment := by
  obtain ⟨before, after, values, -, ran⟩ := reaches
  have upTo : R session ((before.mapM action).run.run session).2 :=
    composable.upholds_mapM each before session
  rwa [ran] at upTo

/-- What every substitution respects holds up to each moment of a preparation. -/
theorem relates_resolves {command : Command} {session moment : Session σ τ} {sub : Substitution}
    (setLocal : ∀ (name value : String) (session : Session σ τ),
      R session { session with scope := session.scope.setLocal name value })
    (each : ∀ sub session, R session (leaves world session sub))
    (resolves : Resolves world command session sub moment) : R session moment := by
  have resolved : ∀ sub, Upholds R (resolve world sub) :=
    fun sub session => run_resolve world sub session ▸ each sub session
  have expanded : ∀ word, Upholds R (expand world word) :=
    fun word session => composable.relates_expand fun sub moment _ => each sub moment
  have bound : ∀ assignment, Upholds R (bindLocal world assignment) :=
    fun assignment => composable.upholds_bind (expanded assignment.value)
      fun value => setLocal assignment.name value
  cases resolves with
  | inAssignment reaches inside =>
      exact composable.trans (composable.relates_reaches bound reaches)
        (composable.relates_reaches resolved inside)
  | inWord ran reaches inside =>
      have before := composable.upholds_mapM bound command.assignments session
      rw [ran] at before
      exact composable.trans before (composable.trans (composable.relates_reaches expanded reaches)
        (composable.relates_reaches resolved inside))

end Composable

end EvalM

end Shell
