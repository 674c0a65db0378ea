import Mathlib.Control.Monad.Basic
import Shell.Proofs.Eval.Contexts

/-! # Laws of the language

Constructs that are written in different ways and do the same: they end alike, leave the same
session and ask the same of the world, in every session and under every bound on loops. Every
construct notes its status when it is completed, so most laws come down to this: noting a status
that has just been noted changes nothing.
-/

namespace Shell

/-- Two ways of writing a construct. -/
inductive Node.Law : Node → Node → Prop where
  /-- A list that is not empty may be part of the list around it. -/
  | flatten (before after : List Node) {inner : List Node} (some : inner ≠ []) :
    Law (.list (before ++ .list inner :: after)) (.list (before ++ inner ++ after))
  | assoc (op : ChainOp) (first second third : Node) :
    Law (.chain op (.chain op first second) third) (.chain op first (.chain op second third))
  /-- Patterns of one arm may be divided between two. -/
  | split (subject : Word) (before after : List Arm) (first second : List Word) (body : Node) :
    Law (.case subject (before ++ .mk (first ++ second) body :: after))
      (.case subject (before ++ .mk first body :: .mk second body :: after))
  /-- A link with a condition may be an `if` in a final `else`. -/
  | elif (tests : List (Node × Node)) (condition body : Node) (rest : Links) :
    Law (.branch ((Links.test condition body rest).after tests))
      (.branch ((Links.otherwise (.branch (.test condition body rest))).after tests))
  /-- Values may be divided between two loops, none of which is left without any. -/
  | forEach (name : String) {first second : List Word} (body : Node)
    (literal : ∀ word ∈ first ++ second, word.isLiteral = true) (some : first ≠ [])
    (some' : second ≠ []) :
    Law (.forEach name (first ++ second) body)
      (.list [.forEach name first body, .forEach name second body])

namespace EvalM

variable {σ τ : Type} {world : World σ τ} {limit : Nat}

/-! ## Noting a status -/

theorem complete_bind {α : Type} (action : EvalM σ τ α) (further : α → EvalM σ τ Status) :
    complete (action >>= further) = action >>= fun value => complete (further value) := by
  unfold complete
  rw [bind_assoc]

theorem complete_complete (action : EvalM σ τ Status) :
    complete (complete action) = complete action := by
  rw [complete, complete, bind_assoc]
  rfl

theorem complete_pure_bind (status : Status) (further : Status → EvalM σ τ Status) :
    (complete (pure status) >>= further) = (complete (pure status) >>= fun _ => further status) :=
  rfl

/-- A construct has noted its status. -/
theorem complete_evaluate (node : Node) :
    complete (evaluate world limit node) = evaluate world limit node := by
  cases node <;> rw [evaluate, complete_complete]

theorem complete_evaluateList {nodes : List Node} (some : nodes ≠ []) (status status' : Status) :
    complete (evaluateList world limit nodes status) = evaluateList world limit nodes status' := by
  induction nodes generalizing status status' with
  | nil => exact absurd rfl some
  | cons node nodes ih =>
      simp only [evaluateList, complete_bind]
      cases nodes with
      | nil =>
          simp only [evaluateList]
          rw [← complete_bind, bind_pure, complete_evaluate]
      | cons next nodes => exact bind_congr fun status => ih (by simp) status status

theorem complete_runForEach (name : String) (body : Node) {values : List String}
    (some : values ≠ []) (status status' : Status) :
    complete (runForEach name (evaluate world limit body) values status) =
      runForEach name (evaluate world limit body) values status' := by
  induction values generalizing status status' with
  | nil => exact absurd rfl some
  | cons value values ih =>
      simp only [runForEach, complete_bind]
      refine bind_congr fun _ => ?_
      cases values with
      | nil =>
          simp only [runForEach]
          rw [← complete_bind, bind_pure, complete_evaluate]
      | cons next values => exact bind_congr fun status => ih (by simp) status status

theorem complete_evaluateTests (tests : List (Node × Node)) (further : EvalM σ τ Status) :
    complete (evaluateTests world limit tests further) =
      evaluateTests world limit tests (complete further) := by
  induction tests with
  | nil => rfl
  | cons test tests ih =>
      simp only [evaluateTests, complete_bind]
      refine bind_congr fun status => ?_
      rw [apply_ite complete, complete_evaluate, ih]

/-! ## The laws -/

theorem evaluate_flatten (before after : List Node) {inner : List Node} (some : inner ≠ []) :
    evaluate world limit (.list (before ++ .list inner :: after)) =
      evaluate world limit (.list (before ++ inner ++ after)) := by
  rw [evaluate_list, evaluate_list, List.append_assoc, evaluateList_append, evaluateList_append]
  refine congrArg complete (bind_congr fun status => ?_)
  rw [evaluateList_append, evaluateList, evaluate_list, complete_evaluateList some _ status]

theorem evaluate_assoc (op : ChainOp) (first second third : Node) :
    evaluate world limit (.chain op (.chain op first second) third) =
      evaluate world limit (.chain op first (.chain op second third)) := by
  simp only [evaluate_chain, complete_bind, bind_assoc]
  refine bind_congr fun status => ?_
  cases goes : op.goesOn status with
  | true =>
      simp only [if_true]
      rw [complete_evaluate, ← complete_bind, complete_complete]
  | false =>
      simp only [Bool.false_eq_true, if_false]
      rw [complete_pure_bind]
      simp only [goes, Bool.false_eq_true, if_false]
      rfl

theorem anyPattern_append (subject : String) (first second : List Word) :
    anyPattern world subject (first ++ second) = (do
      if ← anyPattern world subject first then return true
      else anyPattern world subject second) := by
  induction first with
  | nil => simp [anyPattern]
  | cons pattern first ih =>
      simp only [List.cons_append, anyPattern, bind_assoc, ih]
      refine bind_congr fun text => ?_
      split <;> simp

theorem evaluate_split (subject : Word) (before after : List Arm) (first second : List Word)
    (body : Node) :
    evaluate world limit (.case subject (before ++ .mk (first ++ second) body :: after)) =
      evaluate world limit
        (.case subject (before ++ .mk first body :: .mk second body :: after)) := by
  rw [evaluate, evaluate]
  refine congrArg complete (bind_congr fun text => ?_)
  simp only [evaluateArms_append, evaluateArms, anyPattern_append, bind_assoc]
  refine congrArg _ (bind_congr fun accepted => ?_)
  cases accepted <;> simp

theorem evaluate_elif (tests : List (Node × Node)) (condition body : Node) (rest : Links) :
    evaluate world limit (.branch ((Links.test condition body rest).after tests)) =
      evaluate world limit
        (.branch ((Links.otherwise (.branch (.test condition body rest))).after tests)) := by
  rw [evaluate, evaluate, evaluateLinks_after, evaluateLinks_after, complete_evaluateTests,
    complete_evaluateTests]
  rw [show evaluateLinks world limit (.otherwise (.branch (.test condition body rest))) =
    complete (evaluateLinks world limit (.test condition body rest)) by
      rw [evaluateLinks, evaluate]]
  rw [complete_complete]

theorem mapM_expand_literal {words : List Word} (literal : ∀ word ∈ words, word.isLiteral = true) :
    words.mapM (expand world) = (pure (words.map Word.raw) : EvalM σ τ (List String)) := by
  induction words with
  | nil => rfl
  | cons word words ih =>
      rw [List.forall_mem_cons] at literal
      rw [List.mapM_cons, ih literal.2, expand, if_pos literal.1]
      simp

theorem evaluate_forEach_literal (name : String) {words : List Word}
    (literal : ∀ word ∈ words, word.isLiteral = true) (body : Node) :
    evaluate world limit (.forEach name words body) =
      complete (runForEach name (evaluate world limit body) (words.map Word.raw) .success) := by
  rw [evaluate, mapM_expand_literal literal, pure_bind]

theorem runForEach_append (name : String) (body : EvalM σ τ Status) (first second : List String)
    (status : Status) :
    runForEach name body (first ++ second) status =
      (runForEach name body first status >>= runForEach name body second) := by
  induction first generalizing status with
  | nil => simp [runForEach]
  | cons value first ih => simp [runForEach, ih]

theorem evaluate_forEach_append (name : String) {first second : List Word} (body : Node)
    (literal : ∀ word ∈ first ++ second, word.isLiteral = true) (some : first ≠ [])
    (some' : second ≠ []) :
    evaluate world limit (.forEach name (first ++ second) body) =
      evaluate world limit (.list [.forEach name first body, .forEach name second body]) := by
  obtain ⟨literal₁, literal₂⟩ := List.forall_mem_append.mp literal
  rw [evaluate_list, evaluate_forEach_literal name literal]
  simp only [evaluateList, evaluate_forEach_literal name literal₁,
    evaluate_forEach_literal name literal₂, bind_pure, List.map_append, runForEach_append]
  have before : first.map Word.raw ≠ [] := by simpa using some
  have after : second.map Word.raw ≠ [] := by simpa using some'
  rw [complete_runForEach name body before .success .success, complete_bind, complete_bind]
  refine bind_congr fun status => ?_
  rw [complete_complete, complete_runForEach name body after status .success,
    complete_runForEach name body after .success .success]

theorem evaluate_forEach_expanded (name : String) (items : List Word) (body : Node) :
    evaluate world limit (.forEach name items body) = (do
      let values ← items.mapM (expand world)
      evaluate world limit (.forEach name (values.map Word.literal) body)) := by
  rw [evaluate, complete_bind]
  refine bind_congr fun values => ?_
  have literal : ∀ word ∈ values.map Word.literal, word.isLiteral = true := by
    simp [Word.isLiteral, Word.literal]
  rw [evaluate_forEach_literal name literal, List.map_map]
  simp [Function.comp_def, Word.literal]

/-- At every position of a construct that is not itself a stage of a pipeline, either side of a law
    may stand for the other. Moreover, the whole makes of what stands there what it makes of its
    evaluation. So a loop over words does at every position what it does there after all its words
    have been expanded, in order, and with what they have become in their place. -/
theorem evaluate_laws (world : World σ τ) (limit : Nat) {context : Node.Context}
    (free : context.isFree = true) :
    (∀ {left right : Node}, left.Law right →
      evaluate world limit (context.fill left) = evaluate world limit (context.fill right)) ∧
    (∀ node, evaluate world limit (context.fill node) =
      runContext world limit (evaluate world limit node) context) ∧
    ∀ name items body, evaluate world limit (context.fill (.forEach name items body)) =
      runContext world limit (do
        let values ← items.mapM (expand world)
        evaluate world limit (.forEach name (values.map Word.literal) body)) context := by
  refine ⟨fun {left right} law => ?_, evaluate_fill free, fun name items body => ?_⟩
  · have same : evaluate world limit left = evaluate world limit right := by
      cases law with
      | flatten before after some => exact evaluate_flatten before after some
      | assoc op first second third => exact evaluate_assoc op first second third
      | split subject before after first second body =>
          exact evaluate_split subject before after first second body
      | elif tests condition body rest => exact evaluate_elif tests condition body rest
      | forEach name body literal some some' =>
          exact evaluate_forEach_append name body literal some some'
    rw [evaluate_fill free, evaluate_fill free, same]
  · rw [evaluate_fill free, evaluate_forEach_expanded]

/-- A list inside a stage that is no command, and a loop that reads the status before it. -/
theorem evaluate_laws_nested :
    let world : World Unit Unit :=
      ⟨⟨fun _ => pure (.exited 0), fun _ => pure (.exited 0), fun _ => pure (.ok 1)⟩, none, "1"⟩
    let context : Node.Context :=
      [.list [.arithmetic "0"] [], .stage [.command { words := [.literal "a"] }] [] true, .negate]
    let inner : Node.Context := [.list [.arithmetic "0"] [], .negate]
    let items : List Word := [⟨"\x01", [.arithmetic "x += 1"]⟩, ⟨"\x01", [.parameter "?"]⟩]
    let body : Node := .arithmetic "i == x"
    let session : Session Unit Unit := { scope := Scope.empty, spawner := (), substituter := () }
    (evaluate world 0 (context.fill (.list [.list [body], body])) =
        evaluate world 0 (context.fill (.list [body, body]))) ∧
      evaluate world 0 (inner.fill (.forEach "i" items body)) = runContext world 0 (do
        let values ← items.mapM (expand world)
        evaluate world 0 (.forEach "i" (values.map Word.literal) body)) inner ∧
      ((evaluate world 0 (inner.fill (.forEach "i" items body))).run.run session).1 =
        .ok .failure := by
  intro world context inner items body session
  refine ⟨?_, ?_, ?_⟩
  · exact (evaluate_laws world 0 (by decide)).1 (.flatten [] [body] (by simp))
  · exact (evaluate_laws world 0 (by decide)).2.2 "i" items body
  · decide +kernel

end EvalM

end Shell
