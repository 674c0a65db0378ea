import Mathlib.Control.Monad.Basic
import Shell.Proofs.Arith.Grammar
import Shell.Proofs.Arith.Printing
import Shell.Proofs.Arith.Ranges

/-! # The branches of a choice

The second branch of a choice begins with the assignments of the first one held back but unseen.
Such assignments stay before all later ones and change nothing else. So the second branch does what
it would do without the first, and from what it does nobody can tell which first branch there was.
-/

namespace Shell.Arith

def Pending.after (unseen : Writes) (held : Pending) : Pending :=
  { held with writes := unseen ++ held.writes }

/-- How an evaluation is compared with one before which fewer assignments were made unseen. -/
def behind (unseen : Writes) : Comparison Unit Pending Pending where
  related _ s t := s = t.after unseen
  admits _ := True
  excuses _ := False

theorem behind_respects (lookup : String → Option String) (unseen : Writes) :
    (behind unseen).Respects (.pending lookup) (.pending lookup) where
  finish := trivial
  read := by rintro name _ _ t - rfl; rfl
  write := by rintro name value _ _ t rfl; simp [behind, Memory.pending, Pending.after]
  choice := by
    rintro _ _ t - rfl
    refine .same rfl ?_ ?_
    · rintro _ t' rfl
      rfl
    · rintro _ t' rfl
      simp [behind, Memory.pending, Pending.after]

/-- Where so many levels are left and some assignments are visible, a tree raises no fault. -/
structure Tree.Succeeds (lookup : String → Option String) (levels : Nat) (visible : Writes)
    (tree : Tree) (value : Int64) (made : Writes) : Prop where
  stands : tree.standsAt 0 = true
  shallow : tree.levels ≤ levels
  meaning : tree.meaning lookup visible = .ok (value, made)

theorem Tree.Succeeds.meaningWithin {lookup : String → Option String} {levels : Nat}
    {visible : Writes} {tree : Tree} {value : Int64} {made : Writes}
    (succeeds : tree.Succeeds lookup levels visible value made) :
    tree.meaningWithin lookup levels visible = .ok (value, made) := by
  rw [meaningWithin_eq_meaning succeeds.shallow, succeeds.meaning]

namespace EvalM

variable (lookup : String → Option String)

/-- Assignments that are held back unseen change nothing but the list that they are in. -/
theorem run_expression_after (unseen : Writes) (levels : Nat) (strength : Int) (held : Pending)
    (symbols : List Symbol) :
    (expression (.pending lookup) levels strength).run (reading (held.after unseen) symbols) =
      ((expression (.pending lookup) levels strength).run (reading held symbols)).map fun found =>
        (found.1, { found.2 with memory := found.2.memory.after unseen }) := by
  have alike : (behind unseen).Alike () (reading (held.after unseen) symbols)
      (reading held symbols) := by
    cases symbols <;> exact ⟨rfl, rfl, rfl, rfl, fun _ _ => trivial⟩
  have same := Comparison.expression (behind_respects lookup unseen) (.inl (Eq.refl levels))
    strength _ _ alike
  generalize (expression (.pending lookup) levels strength).run (reading held symbols) = right
    at same ⊢
  generalize (expression (.pending lookup) levels strength).run _ = left at same ⊢
  cases same with
  | excused allowed => exact allowed.elim
  | error error => rfl
  | ok equal alike =>
      rw [alike.eq, alike.memory, equal]
      rfl

/-- How an expression ends that sees some assignments, whatever else is held back: it fails, or it
    has a value, makes its assignments and leaves the symbols after it. -/
def Ends (levels : Nat) (visible : Writes) (symbols : List Symbol)
    (outcome : Except Error (Int64 × Writes × List Symbol)) : Prop :=
  ∀ writes, (expression (.pending lookup) levels 0).run (reading ⟨writes, visible⟩ symbols) =
    outcome.map fun found =>
      (found.1, reading (Pending.add ⟨writes, visible⟩ found.2.1) found.2.2)

theorem ends_of_run {levels : Nat} {visible : Writes} {symbols : List Symbol}
    {outcome : Except Error (Int64 × Writes × List Symbol)}
    (ran : (expression (.pending lookup) levels 0).run (reading ⟨[], visible⟩ symbols) =
      outcome.map fun found =>
        (found.1, reading (Pending.add ⟨[], visible⟩ found.2.1) found.2.2)) :
    Ends lookup levels visible symbols outcome := by
  intro writes
  have moved := run_expression_after lookup writes levels 0 ⟨[], visible⟩ symbols
  simp only [Pending.after, List.append_nil] at moved
  rw [moved, ran]
  cases outcome with
  | error error => rfl
  | ok found => simp [Except.map, memory_reading, with_memory, Pending.add]

/-- What an expression does is settled by the assignments it sees. -/
theorem exists_ends (levels : Nat) (visible : Writes) (symbols : List Symbol) :
    ∃ outcome, Ends lookup levels visible symbols outcome := by
  cases ran : (expression (.pending lookup) levels 0).run (reading ⟨[], visible⟩ symbols) with
  | error error => exact ⟨.error error, ends_of_run lookup ran⟩
  | ok found =>
      obtain ⟨value, after⟩ := found
      rw [← standing_none] at ran
      obtain ⟨tree, rest, parsed, loose⟩ :=
        accepts_expression (.pending lookup) levels (Int.le_refl 0) ran
      have taken := (takes lookup tree).run levels 0 rest ⟨[], visible⟩ parsed.stands parsed.ends
        loose
      rw [← parsed.split] at taken
      cases meant : tree.meaningWithin lookup levels visible with
      | error error =>
          rw [meant, ← standing_none, ran] at taken
          cases taken
      | ok pair =>
          rw [meant] at taken
          exact ⟨.ok (pair.1, pair.2, rest), ends_of_run lookup taken⟩

theorem exists_ends_of_tree {tree : Tree} (stands : tree.standsAt 0 = true) (levels : Nat)
    (visible : Writes) :
    ∃ outcome : Except Error (Int64 × Writes),
      Ends lookup levels visible tree.symbols (outcome.map fun found => (found.1, found.2, [])) := by
  have ran := (takes lookup tree).run levels 0 [] ⟨[], visible⟩ stands
    (tree.endsBefore_of_nonpos (by decide)) (by decide)
  rw [List.append_nil] at ran
  refine ⟨tree.meaningWithin lookup levels visible, ends_of_run lookup ?_⟩
  rw [ran]
  cases tree.meaningWithin lookup levels visible <;> rfl

theorem run_succeeds {branch : Tree} {levels : Nat} {held : Pending} {a : Int64} {made : Writes}
    (succeeds : branch.Succeeds lookup levels held.visible a made) (more : List Symbol) :
    (expression (.pending lookup) levels 0).run (reading held (branch.symbols ++ .colon :: more)) =
      .ok (a, reading (held.add made) (.colon :: more)) := by
  rw [(takes lookup branch).run levels 0 (.colon :: more) held succeeds.stands
    (branch.endsBefore_of_nonpos (Int.le_refl 0)) (Int.le_refl 0), succeeds.meaningWithin]
  rfl

/-- A choice whose first branch has a value does what its second branch does without the first. -/
theorem run_choice {branch : Tree} {levels : Nat} {held : Pending} {a : Int64} {made : Writes}
    (chosen : branch.Succeeds lookup levels held.visible a made) {more : List Symbol}
    {outcome : Except Error (Int64 × Writes × List Symbol)}
    (second : Ends lookup levels held.visible more outcome) (target : Option String)
    (test : Int64) :
    (extend (.pending lookup) (expression (.pending lookup) levels) target test .question).run
        (reading held (branch.symbols ++ .colon :: more)) =
      outcome.map fun found =>
        (if test ≠ 0 then a else found.1, reading (held.add (made ++ found.2.1)) found.2.2) := by
  have first := run_succeeds lookup chosen more
  have forked := second (held.add made).writes
  simp only [extend, run_bind, run_snapshot, ok_bind, first, run_close, run_revise]
  rw [show (Memory.pending lookup).fork held (held.add made) =
    ⟨(held.add made).writes, held.visible⟩ from rfl, forked]
  cases outcome with
  | error error => rfl
  | ok found =>
      have joined := Pending.join_fork lookup held made found.2.1
      simp only [Except.map, ok_bind, run_revise]
      rw [← joined]
      rfl

end EvalM

theorem evaluateWithin_choice (lookup : String → Option String) {levels : Nat}
    {condition ifTrue ifFalse : Tree} {text : String} {test a : Int64} {first second : Writes}
    (tested : condition.Succeeds lookup (levels + 1) [] test first)
    (follows : condition.endsBefore Symbol.question.strength = true)
    (chosen : ifTrue.Succeeds lookup levels first.reverse a second)
    {outcome : Except Error (Int64 × Writes)}
    (rejected : EvalM.Ends lookup levels first.reverse ifFalse.symbols
      (outcome.map fun found => (found.1, found.2, [])))
    (reads : Symbol.readAll text = ⟨(Tree.choice condition ifTrue ifFalse).symbols, none⟩) :
    evaluateWithin (levels + 1) lookup text = outcome.map fun found =>
      ⟨if test ≠ 0 then a else found.1, first ++ second ++ found.2⟩ := by
  obtain ⟨rounds, enough, runs⟩ := EvalM.takes lookup condition levels 0
    (.question :: (ifTrue.symbols ++ .colon :: ifFalse.symbols)) {} tested.stands follows
  obtain ⟨further, rfl⟩ : ∃ further, rounds = further + 1 := ⟨rounds - 1, by simp at enough; omega⟩
  have visible : first.reverse = (Pending.add {} first).visible := (List.append_nil _).symm
  rw [visible] at chosen rejected
  have choice := EvalM.run_choice lookup chosen rejected condition.target? test
  rw [show ({} : Pending).visible = [] from rfl, tested.meaningWithin, EvalM.ok_bind,
    EvalM.run_climb_step _ _ _ (by decide), choice] at runs
  have whole := EvalM.run_whole_eq (.pending lookup) (levels + 1) {}
    (Tree.symbols_ne_nil (.choice condition ifTrue ifFalse))
  rw [Tree.symbols, runs] at whole
  rw [evaluateWithin, evaluateText, reads]
  simp only [Tree.symbols, whole]
  cases outcome with
  | error error => rfl
  | ok found =>
      simp only [Except.map, EvalM.ok_bind]
      rw [EvalM.run_climb_stop _ _ _ (by decide)]
      simp [EvalM.ok_bind, EvalM.reading, Pending.add, pure, Except.pure]

open EvalM in
/-- The branches of a choice are isolated. Anywhere in an evaluation, what follows the colon fails,
    or has a value, makes assignments and leaves symbols, just as it would if it stood alone where
    the first branch begins; so it does after every first branch that raises no fault. Likewise a
    whole text that is a choice fails, or has the assignments and the value of its second branch,
    whichever first branch it has. In both cases the value of the second branch is taken if the test
    is zero. All this is so as well where the assignments of first branches are hidden by their
    ranges in a log. -/
theorem second_branch_isolated :
    (∀ (lookup : String → Option String) (levels : Nat) (held : Pending) (more : List Symbol),
      ∃ outcome : Except Error (Int64 × Writes × List Symbol),
        (expression (.pending lookup) levels 0).run (reading held more) =
          outcome.map (fun found => (found.1, reading (held.add found.2.1) found.2.2)) ∧
        ∀ (ifTrue : Tree) (a : Int64) (made : Writes),
          ifTrue.Succeeds lookup levels held.visible a made →
          ∀ (target : Option String) (test : Int64),
          (extend (.pending lookup) (expression (.pending lookup) levels) target test .question).run
              (reading held (ifTrue.symbols ++ .colon :: more)) =
            outcome.map fun found =>
              (if test ≠ 0 then a else found.1,
                reading (held.add (made ++ found.2.1)) found.2.2)) ∧
    (∀ (scope : Scope) (condition ifFalse : Tree) (test : Int64) (first : Writes),
      condition.Succeeds (scope.get? ·) maxNesting [] test first →
      condition.endsBefore Symbol.question.strength = true →
      ifFalse.standsAt 0 = true →
      ∃ outcome : Except Error (Int64 × Writes),
        ∀ (ifTrue : Tree) (a : Int64) (second : Writes) (text : String),
          ifTrue.Succeeds (scope.get? ·) (maxNesting - 1) first.reverse a second →
          Symbol.readAll text = ⟨(Tree.choice condition ifTrue ifFalse).symbols, none⟩ →
          evaluate scope text = outcome.map fun found =>
            ⟨if test ≠ 0 then a else found.1, first ++ second ++ found.2⟩) ∧
    ∀ (levels : Nat) (lookup : String → Option String) (text : String),
      evaluateWithin levels lookup text = evaluateRanged levels lookup text := by
  refine ⟨?_, ?_, evaluateWithin_eq_ranged⟩
  · intro lookup levels held more
    obtain ⟨outcome, ends⟩ := exists_ends lookup levels held.visible more
    exact ⟨outcome, ends held.writes, fun ifTrue a made chosen =>
      run_choice lookup chosen ends⟩
  · intro scope condition ifFalse test first tested follows stands
    obtain ⟨outcome, ends⟩ :=
      exists_ends_of_tree (scope.get? ·) stands (maxNesting - 1) first.reverse
    exact ⟨outcome, fun ifTrue a second text chosen reads =>
      evaluateWithin_choice (scope.get? ·) tested follows chosen ends reads⟩

/-- First branches that assign to what the second one reads, and one that a division follows. -/
theorem second_branch_isolated_nested :
    evaluate (Scope.empty.set "x" "5")
        "( y = x - 5 ) ? ( x = 3 ) : ( x += ( y ? 1 : ( z = x ) ) )" =
      .ok ⟨10, [("y", 0), ("x", 3), ("z", 5), ("x", 10)]⟩ ∧
    evaluate (Scope.empty.set "x" "5")
        "( y = x - 5 ) ? ( y ? ( x = 1 ) : ( y = 9 ) ) : ( x += ( y ? 1 : ( z = x ) ) )" =
      .ok ⟨10, [("y", 0), ("x", 1), ("y", 9), ("z", 5), ("x", 10)]⟩ ∧
    (EvalM.extend (.pending Scope.empty.get?) (EvalM.expression (.pending Scope.empty.get?) 9) none 1
        .question).run
      (EvalM.reading (Pending.add {} [("d", 0)]) ((Tree.assign none "d" (.literal 2)).symbols ++
        .colon :: (Tree.connect (.binary .div) (.literal 1) (.reference "d")).symbols)) =
      .error .divisionByZero := by
  let condition : Tree :=
    .group (.assign none "y" (.connect (.binary .sub) (.reference "x") (.literal 5)))
  let ifFalse : Tree := .group (.assign (some .add) "x" (.group (.choice (.reference "y")
    (.literal 1) (.group (.assign none "z" (.reference "x"))))))
  let plain : Tree := .group (.assign none "x" (.literal 3))
  let nested : Tree := .group (.choice (.reference "y") (.group (.assign none "x" (.literal 1)))
    (.group (.assign none "y" (.literal 9))))
  have tested : condition.Succeeds ((Scope.empty.set "x" "5").get? ·) maxNesting [] 0 [("y", 0)] :=
    ⟨by decide, by decide, by decide +kernel⟩
  obtain ⟨outcome, same⟩ := second_branch_isolated.2.1 (Scope.empty.set "x" "5") condition ifFalse 0
    [("y", 0)] tested (by decide) (by decide)
  have first := same plain 3 [("x", 3)] (Tree.choice condition plain ifFalse).print
    ⟨by decide, by decide, by decide +kernel⟩
    (Symbol.readAll_spells (Tree.spells_print (by decide +kernel)))
  have second := same nested 9 [("x", 1), ("y", 9)] (Tree.choice condition nested ifFalse).print
    ⟨by decide, by decide, by decide +kernel⟩
    (Symbol.readAll_spells (Tree.spells_print (by decide +kernel)))
  have printed : (Tree.choice condition plain ifFalse).print =
      "( y = x - 5 ) ? ( x = 3 ) : ( x += ( y ? 1 : ( z = x ) ) )" := by decide +kernel
  have printed' : (Tree.choice condition nested ifFalse).print =
      "( y = x - 5 ) ? ( y ? ( x = 1 ) : ( y = 9 ) ) : ( x += ( y ? 1 : ( z = x ) ) )" := by
    decide +kernel
  have value : evaluate (Scope.empty.set "x" "5")
      "( y = x - 5 ) ? ( x = 3 ) : ( x += ( y ? 1 : ( z = x ) ) )" =
      .ok ⟨10, [("y", 0), ("x", 3), ("z", 5), ("x", 10)]⟩ := by decide +kernel
  rw [printed, value] at first
  rw [printed'] at second
  refine ⟨value, ?_, ?_⟩
  · cases outcome with
    | error error => cases first
    | ok found =>
        obtain ⟨b, third⟩ := found
        cases first
        exact second
  · obtain ⟨outcome, alone, isolated⟩ := second_branch_isolated.1 Scope.empty.get? 9
      (Pending.add {} [("d", 0)])
      (Tree.connect (.binary .div) (.literal 1) (.reference "d")).symbols
    rw [isolated (.assign none "d" (.literal 2)) 2 [("d", 2)]
      ⟨by decide, by decide, by decide +kernel⟩]
    have divides : (EvalM.expression (.pending Scope.empty.get?) 9 0).run
        (EvalM.reading (Pending.add {} [("d", 0)])
          (Tree.connect (.binary .div) (.literal 1) (.reference "d")).symbols) =
        .error .divisionByZero := rfl
    rw [divides] at alone
    cases outcome with
    | error error =>
        cases alone
        rfl
    | ok found => cases alone

end Shell.Arith
