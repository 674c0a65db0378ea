import Mathlib.Control.Monad.Basic
import Shell.Proofs.Eval.Pairs

/-! # Who asks for the last status

The status that was noted last is read where a word asks for it and nowhere else, though every
construct notes one. So a construct without such a word does the same whatever was noted before
it, and constructs that do the same but for what they note may stand for each other: a loop that
goes on until its condition succeeds is one that goes on while the opposite does.
-/

namespace Shell

/-- No word of a construct asks for the last status. -/
def Node.IgnoresStatus (node : Node) : Prop :=
  ∀ word ∈ node.words, .parameter "?" ∉ word.subs

instance (node : Node) : Decidable node.IgnoresStatus :=
  inferInstanceAs (Decidable (∀ word ∈ node.words, .parameter "?" ∉ word.subs))

namespace Session

variable {σ τ : Type} {session session' : Session σ τ}

theorem Resembles.agrees (resembles : Resembles session session') : Agrees False session session' :=
  { resembles with lastStatus := nofun }

end Session

namespace EvalM

variable {σ τ : Type} {world : World σ τ}

/-! ## Loops without a bound -/

/-- An evaluation ends like this if its loops may go round often enough. -/
structure Ends (world : World σ τ) (node : Node) (session : Session σ τ)
    (outcome : Except Fault Status) (after : Session σ τ) : Prop where
  inTime : outcome ≠ .error .loopLimit
  enough : ∃ enough, ∀ limit, enough ≤ limit →
    (evaluate world limit node).run.run session = (outcome, after)

/-- An evaluation does not end, however often its loops may go round. -/
def RunsForever (world : World σ τ) (node : Node) (session : Session σ τ) : Prop :=
  ∀ limit, ((evaluate world limit node).run.run session).1 = .error .loopLimit

/-- Where a bound on loops was not reached, a greater one makes no difference. -/
theorem run_evaluate_of_le {limit limit' : Nat} (fewer : limit ≤ limit') (node : Node)
    (session : Session σ τ)
    (inTime : ((evaluate world limit node).run.run session).1 ≠ .error .loopLimit) :
    (evaluate world limit' node).run.run session = (evaluate world limit node).run.run session := by
  have alike : Alike True True (evaluate world limit node) (evaluate world limit' node) :=
    alike_evaluate fewer (.inl trivial) node fun _ _ => .inl trivial
  have meets := alike session session ⟨⟨rfl, rfl, rfl, rfl, rfl, rfl⟩, fun _ => rfl⟩
  generalize (evaluate world limit node).run.run session = result at meets inTime ⊢
  generalize (evaluate world limit' node).run.run session = result' at meets ⊢
  cases meets with
  | agree agrees => rw [agrees.eq trivial]
  | cut => exact absurd rfl inTime

theorem ends_of_inTime {limit : Nat} {node : Node} {session : Session σ τ}
    (inTime : ((evaluate world limit node).run.run session).1 ≠ .error .loopLimit) :
    Ends world node session ((evaluate world limit node).run.run session).1
      ((evaluate world limit node).run.run session).2 :=
  ⟨inTime, limit, fun _ fewer => run_evaluate_of_le fewer node session inTime⟩

/-! ## Two sessions with different statuses -/

/-- Two evaluations end alike and leave the same, but perhaps for the status noted last. -/
def EndAlike (result result' : Except Fault Status × Session σ τ) : Prop :=
  result.1 = result'.1 ∧ result.2.Resembles result'.2

theorem Alike.endAlike {action action' : EvalM σ τ Status}
    (alike : Alike False False action action') {session session' : Session σ τ}
    (resembles : session.Resembles session') :
    EndAlike (action.run.run session) (action'.run.run session') := by
  have meets := alike session session' resembles.agrees
  generalize action.run.run session = result at meets ⊢
  generalize action'.run.run session' = result' at meets ⊢
  cases meets with
  | agree agrees => exact ⟨rfl, agrees.toResembles⟩
  | cut never => exact never.elim

theorem alike_unnoted {cut : Prop} {action action' : EvalM σ τ Status}
    (alike : Alike False cut action action') : Alike False cut action (complete action') := by
  rw [← bind_pure action]
  refine alike.bind fun status => ?_
  exact fun _ _ agrees => .agree { agrees with lastStatus := nofun }

theorem alike_evaluate_ignoring {node : Node} (ignores : node.IgnoresStatus) (limit : Nat) :
    Alike False False (evaluate world limit node) (evaluate world limit node) :=
  alike_evaluate (Nat.le_refl limit) (.inr rfl) node fun word member => .inr (ignores word member)

theorem goesOn_negate (status : Status) :
    LoopKind.whileTrue.goesOn status.negate = LoopKind.untilTrue.goesOn status := by
  cases success : status.isSuccess <;> simp only [LoopKind.goesOn, Status.negate, success] <;> rfl

/-- A loop until a condition succeeds makes the rounds of a loop while its opposite succeeds. -/
theorem alike_evaluate_until {condition body : Node} (ignores : condition.IgnoresStatus)
    (ignores' : body.IgnoresStatus) (limit : Nat) :
    Alike False False (evaluate world limit (.loop .untilTrue condition body))
      (evaluate world limit (.loop .whileTrue (.negate condition) body)) := by
  rw [evaluate, evaluate, evaluate]
  have test : Alike False False (evaluate world limit condition) (evaluate world limit condition) :=
    alike_evaluate_ignoring ignores limit
  have opposite : LoopKind.untilTrue.goesOn <$> evaluate world limit condition =
      LoopKind.whileTrue.goesOn <$> Status.negate <$> evaluate world limit condition := by
    simp only [Functor.map_map, goesOn_negate]
  refine alike_complete (alike_runLoop ?_ (alike_evaluate_ignoring ignores' limit)
    (Nat.le_refl limit) (.inr rfl) _)
  rw [opposite]
  exact (alike_unnoted (test.map Status.negate)).map _

/-- Of two sessions that differ in the last status only, a construct in which no word asks for that
    makes the same: it ends alike, and leaves the same variables and background job and the same
    requests. So do two loops over such constructs of which one goes on until the condition succeeds
    and the other while its opposite does, under every bound on their rounds. Without a bound, one
    of them runs forever if and only if the other does, and otherwise they end alike. -/
theorem evaluate_ignoring_status (world : World σ τ) {session session' : Session σ τ}
    (resembles : session.Resembles session') :
    (∀ node : Node, node.IgnoresStatus → ∀ limit,
      EndAlike ((evaluate world limit node).run.run session)
        ((evaluate world limit node).run.run session')) ∧
    ∀ condition body : Node, condition.IgnoresStatus → body.IgnoresStatus →
      let untilSuccess : Node := .loop .untilTrue condition body
      let whileFailure : Node := .loop .whileTrue (.negate condition) body
      (∀ limit, EndAlike ((evaluate world limit untilSuccess).run.run session)
        ((evaluate world limit whileFailure).run.run session')) ∧
      (RunsForever world untilSuccess session ↔ RunsForever world whileFailure session') ∧
      (¬RunsForever world untilSuccess session → ∃ outcome after after',
        Ends world untilSuccess session outcome after ∧
          Ends world whileFailure session' outcome after' ∧
          after.Resembles after') := by
  refine ⟨fun node ignores limit => (alike_evaluate_ignoring ignores limit).endAlike resembles, ?_⟩
  intro condition body ignores ignores' untilSuccess whileFailure
  have same : ∀ limit, EndAlike ((evaluate world limit untilSuccess).run.run session)
      ((evaluate world limit whileFailure).run.run session') :=
    fun limit => (alike_evaluate_until ignores ignores' limit).endAlike resembles
  refine ⟨same, ?_, fun ends => ?_⟩
  · exact forall_congr' fun limit => by rw [(same limit).1]
  · obtain ⟨limit, inTime⟩ := not_forall.mp ends
    have inTime' := (same limit).1 ▸ inTime
    refine ⟨_, _, _, ends_of_inTime inTime, ?_, (same limit).2⟩
    rw [(same limit).1]
    exact ends_of_inTime inTime'

/-- The condition fails twice and then succeeds, and the second round names the background job that
    the first has started. One session begins after a failure, the other after a success. -/
theorem evaluate_ignoring_status_until :
    let world : World Unit Unit :=
      ⟨⟨fun _ => pure (.exited 3), fun _ => pure (.exited 0), fun _ => pure (.ok 7)⟩, none, "1"⟩
    let condition : Node := .arithmetic "(x += 1) == 3"
    let body : Node := .list [
      .command { words := [.literal "show", ⟨"\x01\x01", [.parameter "!", .parameter "x"]⟩] },
      .pipeline [.command { words := [.literal "job"] }] true,
      .command { words := [.literal "last"] }]
    let session : Session Unit Unit :=
      { scope := Scope.empty, spawner := (), substituter := (), lastStatus := .failure }
    let session' : Session Unit Unit := { session with lastStatus := .success }
    let untilSuccess : Node := .loop .untilTrue condition body
    let whileFailure : Node := .loop .whileTrue (.negate condition) body
    let result := (evaluate world 3 whileFailure).run.run session'
    session.Resembles session' ∧ condition.IgnoresStatus ∧ body.IgnoresStatus ∧
      EndAlike ((evaluate world 3 untilSuccess).run.run session) result ∧
      result.1 = .ok ⟨3⟩ ∧ result.2.lastBackground = some 7 ∧
      result.2.scope.get? "x" = some "3" ∧
      ¬RunsForever world untilSuccess session ∧ ¬RunsForever world whileFailure session' := by
  intro world condition body session session' untilSuccess whileFailure result
  have resembles : session.Resembles session' := ⟨rfl, rfl, rfl, rfl, rfl, rfl⟩
  have ignores : condition.IgnoresStatus := by decide
  have ignores' : body.IgnoresStatus := by decide
  obtain ⟨same, forever, -⟩ :=
    (evaluate_ignoring_status world resembles).2 condition body ignores ignores'
  have ends : ¬RunsForever world untilSuccess session := fun endless => by
    have cutOff : ((evaluate world 3 untilSuccess).run.run session).1 ≠ .error .loopLimit := by
      decide +kernel
    exact cutOff (endless 3)
  refine ⟨resembles, ignores, ignores', same 3, ?_, ?_, ?_, ends, mt forever.mpr ends⟩
  · decide +kernel
  · decide +kernel
  · decide +kernel

end EvalM

end Shell
