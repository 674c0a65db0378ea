import Mathlib.Control.Monad.Basic
import Shell.Proofs.Arith.Grammar

/-! # What an evaluation does, whatever its variables are

The values of variables decide what an expression is worth, but neither which assignments it makes
nor in which order: nothing is skipped. They also decide whether it divides by zero or meets a text
that is no number, and no other error depends on them.
-/

namespace Shell.Arith

/-- `=`, or the assignment that applies an operator first. -/
def Symbol.isAssignment : Symbol → Bool
  | assign _ => true
  | _ => false

/-- An error that comes from the values of variables. -/
def Error.IsOfValues (lookup : String → Option String) (error : Error) : Prop :=
  error = .divisionByZero ∨
    ∃ name text, lookup name = some text ∧ error = .notANumber name text

namespace Tree

def targets : Tree → List String
  | literal _ | reference _ => []
  | group inner => inner.targets
  | unary _ operand => operand.targets
  | connect _ left right => left.targets ++ right.targets
  | choice condition ifTrue ifFalse => condition.targets ++ ifTrue.targets ++ ifFalse.targets
  | assign _ name value => value.targets ++ [name]

theorem length_targets (tree : Tree) :
    tree.targets.length = tree.symbols.countP Symbol.isAssignment := by
  induction tree with
  | literal | reference => rfl
  | group inner ih => simp [targets, symbols, Symbol.isAssignment, ih]
  | unary op operand ih =>
      have other : op.symbol.isAssignment = false := by cases op <;> rfl
      simp [targets, symbols, other, ih]
  | connect op left right ihl ihr =>
      have other : op.symbol.isAssignment = false := by cases op <;> rfl
      simp [targets, symbols, other, ihl, ihr]
  | choice condition ifTrue ifFalse ihc iht ihf =>
      simp [targets, symbols, Symbol.isAssignment, ihc, iht, ihf]
  | assign op name value ih =>
      rw [symbols, List.countP_cons_of_neg (by simp [Symbol.isAssignment]),
        List.countP_cons_of_pos rfl, ← ih, targets, List.length_append, List.length_singleton]

variable {lookup : String → Option String}

/-- A value comes with assignments to given variables, and an error comes from values. -/
def Assigns (lookup : String → Option String) (names : List String) :
    Except Error (Int64 × Writes) → Prop
  | .ok found => found.2.map Prod.fst = names
  | .error error => error.IsOfValues lookup

theorem assigns_bind {names more : List String} {first : Except Error (Int64 × Writes)}
    {further : Int64 × Writes → Except Error (Int64 × Writes)} (begun : Assigns lookup names first)
    (next : ∀ value made, made.map Prod.fst = names →
      Assigns lookup more (further (value, made))) :
    Assigns lookup more (first >>= further) := by
  cases first with
  | error error => exact begun
  | ok found => exact next _ _ begun

theorem assigns_orDivision {names : List String} {result : Option Int64}
    {further : Int64 → Int64 × Writes}
    (next : ∀ value, (further value).2.map Prod.fst = names) :
    Assigns lookup names (orDivision result >>= fun value => pure (further value)) := by
  cases result with
  | none => exact .inl rfl
  | some value => exact next value

theorem assigns_readVisible {names : List String} (name : String) (visible : Writes)
    {further : Int64 → Except Error (Int64 × Writes)}
    (next : ∀ value, Assigns lookup names (further value)) :
    Assigns lookup names (readVisible lookup name visible >>= further) := by
  unfold readVisible
  split
  · exact next _
  · unfold numberOf
    split
    · exact next _
    · rename_i text found
      split
      · exact next _
      · split
        · exact next _
        · exact .inr ⟨name, text, found, rfl⟩

/-- Every assignment of a tree is made, once and in its place, unless a value stands against it. -/
theorem assigns_meaning (lookup : String → Option String) (tree : Tree) (visible : Writes) :
    Assigns lookup tree.targets (tree.meaning lookup visible) := by
  induction tree generalizing visible with
  | literal value => rfl
  | reference name => exact assigns_readVisible name visible fun _ => rfl
  | group inner ih => exact ih visible
  | unary op operand ih => exact assigns_bind (ih visible) fun _ _ made => made
  | connect op left right ihl ihr =>
      refine assigns_bind (ihl visible) fun a first lefts => ?_
      refine assigns_bind (ihr _) fun b second rights => ?_
      exact assigns_orDivision fun value => by simp [targets, lefts, rights]
  | choice condition ifTrue ifFalse ihc iht ihf =>
      refine assigns_bind (ihc visible) fun test first tests => ?_
      refine assigns_bind (iht _) fun a second chosen => ?_
      refine assigns_bind (ihf _) fun b third rejected => ?_
      simp [Assigns, pure, Except.pure, targets, tests, chosen, rejected]
  | assign op name operand ih =>
      refine assigns_readVisible name visible fun old => ?_
      refine assigns_bind (ih visible) fun right made rights => ?_
      exact assigns_orDivision fun value => by simp [targets, rights]

end Tree

/-- A text that has a value in one scope makes an assignment for each of its assignment symbols, and
    in every other scope it makes them to the same variables in the same order, or it divides by
    zero there or meets a variable that is no number. With a value all of them are set in the scope,
    one after the other, and without one none is. -/
theorem evaluate_same_flow {scope : Scope} {text : String} {result : Result}
    (h : evaluate scope text = .ok result) (other : Scope) :
    (∃ symbols, Symbol.readAll text = ⟨symbols, none⟩ ∧
      result.writes.length = symbols.countP Symbol.isAssignment) ∧
    perform text scope = (.ok result.value, commit result.writes scope) ∧
    match evaluate other text with
    | .ok found => found.writes.map Prod.fst = result.writes.map Prod.fst ∧
        perform text other = (.ok found.value, commit found.writes other)
    | .error error => perform text other = (.error error, other) ∧
        (error = .divisionByZero ∨
          ∃ name value, other.get? name = some value ∧ error = .notANumber name value) := by
  obtain ⟨tree, reads, stands, shallow, meaning⟩ := evaluateWithin_eq_ok_iff.mp h
  have names : result.writes.map Prod.fst = tree.targets := by
    have made := tree.assigns_meaning (scope.get? ·) []
    rw [meaning] at made
    exact made
  refine ⟨⟨tree.symbols, reads, ?_⟩, by rw [perform, h], ?_⟩
  · rw [← tree.length_targets, ← names, List.length_map]
  · have made := tree.assigns_meaning (other.get? ·) []
    rw [perform, evaluate, evaluateWithin_symbols _ reads stands _ shallow, names]
    cases found : tree.meaning (other.get? ·) [] with
    | error error =>
        rw [found] at made
        exact ⟨rfl, made⟩
    | ok pair =>
        rw [found] at made
        exact ⟨made, rfl⟩

/-- The branch that is not chosen assigns all the same, unless its divisor is zero. -/
theorem evaluate_same_flow_divisor :
    let text := "x > 0 ? ( y = 1 ) : ( y += ( z = 6 ) / x )"
    evaluate (Scope.empty.set "x" "2") text = .ok ⟨1, [("y", 1), ("z", 6), ("y", 3)]⟩ ∧
      (∃ symbols, Symbol.readAll text = ⟨symbols, none⟩ ∧
        3 = symbols.countP Symbol.isAssignment) ∧
      (match evaluate (Scope.empty.set "x" "-3") text with
        | .ok found => found.writes.map Prod.fst = ["y", "z", "y"]
        | .error _ => False) ∧
      perform text (Scope.empty.set "x" "-3") =
        (.ok (-2), (((Scope.empty.set "x" "-3").set "y" "1").set "z" "6").set "y" "-2") ∧
      evaluate Scope.empty text = .error .divisionByZero := by
  have value : evaluate (Scope.empty.set "x" "2") "x > 0 ? ( y = 1 ) : ( y += ( z = 6 ) / x )" =
      .ok ⟨1, [("y", 1), ("z", 6), ("y", 3)]⟩ := by decide +kernel
  have other : evaluate (Scope.empty.set "x" "-3") "x > 0 ? ( y = 1 ) : ( y += ( z = 6 ) / x )" =
      .ok ⟨-2, [("y", 1), ("z", 6), ("y", -2)]⟩ := by decide +kernel
  have flow := evaluate_same_flow value (Scope.empty.set "x" "-3")
  rw [other] at flow
  obtain ⟨counted, -, names, performed⟩ := flow
  refine ⟨value, counted, by rw [other]; exact names, ?_, by decide +kernel⟩
  rw [performed]
  decide +kernel

end Shell.Arith
