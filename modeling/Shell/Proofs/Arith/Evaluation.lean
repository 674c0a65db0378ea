import Shell.Proofs.Arith.Steps
import Shell.Proofs.Arith.Spelling

/-! # Evaluating the symbols of a tree

Wherever a tree stands, evaluating its symbols takes exactly these, gives the value of the tree
and makes its assignments. The induction is on the tree. As the loop of an evaluation goes on
after an operand, its statement is about the loop that is still to come and not about a finished
evaluation.
-/

namespace Shell.Arith

def Pending.add (held : Pending) (made : Writes) : Pending :=
  ⟨held.writes ++ made, made.reverse ++ held.visible⟩

namespace Pending

@[simp] theorem add_nil (held : Pending) : held.add [] = held := by simp [add]

@[simp] theorem add_add (held : Pending) (first second : Writes) :
    (held.add first).add second = held.add (first ++ second) := by simp [add]

@[simp] theorem visible_add (held : Pending) (made : Writes) :
    (held.add made).visible = made.reverse ++ held.visible := rfl

theorem write_eq_add (lookup : String → Option String) (name : String) (value : Int64)
  (held : Pending) :
    (Memory.pending lookup).write name value held = held.add [(name, value)] := rfl

/-- During the second branch of a choice, the assignments of the first are there unseen. -/
theorem join_fork (lookup : String → Option String) (held : Pending) (first second : Writes) :
    (Memory.pending lookup).join held
      (((Memory.pending lookup).fork held (held.add first)).add second) =
      held.add (first ++ second) := by
  simp [Memory.pending, add]

@[simp] theorem visible_fork (lookup : String → Option String) (before after : Pending) :
    ((Memory.pending lookup).fork before after).visible = before.visible := rfl

end Pending

namespace EvalM

variable (lookup : String → Option String)

/-- Evaluating an expression at some strength takes the symbols of a tree and goes on with the loop,
    with rounds enough for all the symbols that are left. -/
def Takes (tree : Tree) : Prop :=
  ∀ (levels : Nat) (strength : Int) (rest : List Symbol) (held : Pending),
    tree.standsAt strength = true → tree.endsBefore (next rest).strength = true →
    ∃ rounds, rest.length ≤ rounds ∧
      (expression (.pending lookup) (levels + 1) strength).run
        (reading held (tree.symbols ++ rest)) =
        (tree.meaningWithin lookup (levels + 1) held.visible >>= fun found =>
          (climb (.pending lookup) (expression (.pending lookup) levels) strength rounds
            tree.target? found.1).run
            (reading (held.add found.2) rest))

variable {lookup}

theorem Takes.run {tree : Tree} (takes : Takes lookup tree) (levels : Nat) (strength : Int)
    (rest : List Symbol) (held : Pending) (stands : tree.standsAt strength = true)
    (ends : tree.endsBefore (next rest).strength = true)
    (loose : (next rest).strength ≤ strength) :
    (expression (.pending lookup) levels strength).run (reading held (tree.symbols ++ rest)) =
      (tree.meaningWithin lookup levels held.visible).map fun found =>
        (found.1, reading (held.add found.2) rest) := by
  cases levels with
  | zero => cases tree <;> rfl
  | succ below =>
      obtain ⟨rounds, -, runs⟩ := takes below strength rest held stands ends
      rw [runs]
      cases tree.meaningWithin lookup (below + 1) held.visible with
      | error error => rfl
      | ok found => exact run_climb_stop _ _ _ loose rounds _ _

theorem rest_reading {σ : Type} (held : σ) (symbols : List Symbol) :
    (reading held symbols).rest.length + 1 = symbols.tail.length + 1 := by
  cases symbols <;> rfl

theorem length_le_tail (symbols : List Symbol) : symbols.length ≤ symbols.tail.length + 1 := by
  simp only [List.length_tail]
  omega

theorem takes_literal (value : Int64) : Takes lookup (.literal value) := by
  intro levels strength rest held _ _
  refine ⟨rest.tail.length + 1, length_le_tail rest, ?_⟩
  rw [Tree.symbols, List.singleton_append, run_expression]
  simp only [operand_literal, run_pure, ok_bind, rest_reading, Tree.meaningWithin, pure_eq_ok,
    Pending.add_nil]
  rfl

theorem takes_reference (name : String) : Takes lookup (.reference name) := by
  intro levels strength rest held _ _
  refine ⟨rest.tail.length + 1, length_le_tail rest, ?_⟩
  rw [Tree.symbols, List.singleton_append, run_expression]
  simp only [operand_reference, run_read, Tree.meaningWithin]
  show ((Tree.readVisible lookup name held.visible).map _ >>= _) = _
  cases Tree.readVisible lookup name held.visible with
  | error error => rfl
  | ok value =>
      simp only [Except.map, ok_bind, rest_reading, pure_eq_ok, Pending.add_nil]
      rfl

theorem takes_group {inner : Tree} (ih : Takes lookup inner) : Takes lookup (.group inner) := by
  intro levels strength rest held stands _
  refine ⟨rest.tail.length + 1, length_le_tail rest, ?_⟩
  have inside := ih.run levels 0 (.closing :: rest) held stands
    (inner.endsBefore_of_nonpos (Int.le_refl 0)) (Int.le_refl 0)
  rw [Tree.symbols, List.cons_append, List.append_assoc, List.singleton_append, run_expression]
  simp only [operand_opening, run_bind, inside, Tree.meaningWithin]
  cases inner.meaningWithin lookup levels held.visible with
  | error error => rfl
  | ok found =>
      simp only [Except.map, ok_bind, run_close, run_pure, rest_reading]
      rfl

theorem takes_unary (op : UnaryOp) {inner : Tree} (ih : Takes lookup inner) :
    Takes lookup (.unary op inner) := by
  intro levels strength rest held stands ends
  refine ⟨rest.tail.length + 1, length_le_tail rest, ?_⟩
  simp only [Tree.endsBefore, Bool.and_eq_true, decide_eq_true_eq] at ends
  have inside := ih.run levels op.strength rest held stands ends.2 ends.1
  have noTarget : target? op.symbol = none := by cases op <;> rfl
  rw [Tree.symbols, List.cons_append, run_expression]
  simp only [run_operand_unary, inside, Tree.meaningWithin, noTarget]
  cases inner.meaningWithin lookup levels held.visible with
  | error error => rfl
  | ok found =>
      simp only [Except.map, ok_bind, rest_reading]
      rfl

theorem takes_connect (op : Connective) {left right : Tree} (ihl : Takes lookup left)
    (ihr : Takes lookup right) :
    Takes lookup (.connect op left right) := by
  intro levels strength rest held stands ends
  simp only [Tree.standsAt, Tree.endsBefore, Bool.and_eq_true, decide_eq_true_eq] at stands ends
  obtain ⟨⟨⟨tight, lefts⟩, follows⟩, rights⟩ := stands
  obtain ⟨rounds, enough, runs⟩ :=
    ihl levels strength (op.symbol :: (right.symbols ++ rest)) held lefts
    (by simpa using follows)
  obtain ⟨further, rfl⟩ : ∃ further, rounds = further + 1 := ⟨rounds - 1, by simp at enough; omega⟩
  refine ⟨further, by simp at enough; omega, ?_⟩
  rw [Tree.symbols, List.append_assoc, List.cons_append, runs]
  simp only [Tree.meaningWithin]
  cases left.meaningWithin lookup (levels + 1) held.visible with
  | error error => rfl
  | ok found =>
      obtain ⟨a, first⟩ := found
      have inside := ihr.run levels _ rest (held.add first) rights ends.2 ends.1
      simp only [ok_bind,
        run_climb_step _ _ _ (show strength < op.symbol.strength by simpa using tight),
        run_extend_connective, inside, Pending.visible_add]
      cases right.meaningWithin lookup levels (first.reverse ++ held.visible) with
      | error error => rfl
      | ok found =>
          simp only [Except.map, ok_bind, Pending.add_add]
          cases op.apply a found.1 <;> rfl

theorem takes_choice {condition ifTrue ifFalse : Tree} (ihc : Takes lookup condition)
    (iht : Takes lookup ifTrue) (ihf : Takes lookup ifFalse) :
    Takes lookup (.choice condition ifTrue ifFalse) := by
  intro levels strength rest held stands ends
  simp only [Tree.standsAt, Tree.endsBefore, Bool.and_eq_true, decide_eq_true_eq] at stands ends
  obtain ⟨⟨⟨⟨tight, tests⟩, follows⟩, branch⟩, other⟩ := stands
  obtain ⟨rounds, enough, runs⟩ := ihc levels strength
    (.question :: (ifTrue.symbols ++ .colon :: (ifFalse.symbols ++ rest))) held tests follows
  obtain ⟨further, rfl⟩ : ∃ further, rounds = further + 1 := ⟨rounds - 1, by simp at enough; omega⟩
  refine ⟨further, by simp at enough; omega, ?_⟩
  have shape : (Tree.choice condition ifTrue ifFalse).symbols ++ rest = condition.symbols ++
      .question :: (ifTrue.symbols ++ .colon :: (ifFalse.symbols ++ rest)) := by
    simp [Tree.symbols]
  rw [shape, runs]
  simp only [Tree.meaningWithin]
  cases condition.meaningWithin lookup (levels + 1) held.visible with
  | error error => rfl
  | ok found =>
      obtain ⟨test, first⟩ := found
      have chosen := iht.run levels 0 (.colon :: (ifFalse.symbols ++ rest))
        (held.add first) branch (ifTrue.endsBefore_of_nonpos (Int.le_refl 0))
        (Int.le_refl 0)
      simp only [ok_bind, run_climb_step _ _ _ tight, extend, run_bind, run_snapshot, chosen,
        Pending.visible_add]
      cases ifTrue.meaningWithin lookup levels (first.reverse ++ held.visible) with
      | error error => rfl
      | ok found =>
          obtain ⟨a, second⟩ := found
          have rejected := ihf.run levels 0 rest
            ((Memory.pending lookup).fork (held.add first) ((held.add first).add second)) other
              ends.2 ends.1
          simp only [Except.map, ok_bind, run_close, run_revise, rejected, Pending.visible_fork,
            Pending.visible_add]
          cases ifFalse.meaningWithin lookup levels (first.reverse ++ held.visible) with
          | error error => rfl
          | ok found =>
              simp only [ok_bind, run_revise, Pending.join_fork]
              simp only [ok_bind, pure_eq_ok, Pending.add_add, run_pure, List.append_assoc]
              rfl

theorem takes_assign (op : Option BinaryOp) (name : String) {value : Tree}
    (ih : Takes lookup value) : Takes lookup (.assign op name value) := by
  intro levels strength rest held stands ends
  simp only [Tree.standsAt, Tree.endsBefore, Bool.and_eq_true, decide_eq_true_eq] at stands ends
  refine ⟨(value.symbols ++ rest).length, by simp, ?_⟩
  rw [Tree.symbols, List.cons_append, List.cons_append, run_expression]
  simp only [operand_reference, run_read, Tree.meaningWithin]
  show ((Tree.readVisible lookup name held.visible).map _ >>= _) = _
  cases Tree.readVisible lookup name held.visible with
  | error error => rfl
  | ok old =>
      have inside := ih.run levels 0 rest held stands.2 ends.2 ends.1
      simp only [Except.map, ok_bind, rest_reading, List.tail_cons, target?,
        run_climb_step _ _ _ stands.1, run_extend_assign, inside]
      cases value.meaningWithin lookup levels held.visible with
      | error error => rfl
      | ok found =>
          obtain ⟨right, made⟩ := found
          simp only [ok_bind, with_memory, memory_reading]
          cases Tree.assigned op old right with
          | none => rfl
          | some result =>
              simp only [Tree.orDivision, ok_bind, pure_eq_ok, Pending.write_eq_add,
                Pending.add_add]
              rfl

/-- Every tree is taken, wherever it stands. -/
theorem takes (lookup : String → Option String) (tree : Tree) : Takes lookup tree := by
  induction tree with
  | literal value => exact takes_literal value
  | reference name => exact takes_reference name
  | group inner ih => exact takes_group ih
  | unary op operand ih => exact takes_unary op ih
  | connect op left right ihl ihr => exact takes_connect op ihl ihr
  | choice condition ifTrue ifFalse ihc iht ihf => exact takes_choice ihc iht ihf
  | assign op name value ih => exact takes_assign op name ih

theorem run_whole_eq {σ : Type} (memory : Memory σ) (levels : Nat) (held : σ)
    {symbols : List Symbol} (some : symbols ≠ []) :
    (whole memory levels).run { ahead := .finish, rest := symbols, fault := none, memory := held } =
      ((expression memory levels 0).run (reading held symbols) >>= fun found =>
        if found.2.ahead = .finish then .ok found else .error (.expectedEnd found.2.ahead)) := by
  have first :
      advance.run { ahead := .finish, rest := symbols, fault := none, memory := held } =
        .ok (.finish, reading held symbols) := by
    cases symbols with
    | nil => exact absurd rfl some
    | cons symbol more => rfl
  rw [whole, run_bind]
  show ((advance >>= fun _ => pure ()).run _ >>= _) = _
  rw [run_bind, first]
  simp only [ok_bind, run_pure, run_bind]
  cases (expression memory levels 0).run (reading held symbols) with
  | error error => rfl
  | ok found =>
      obtain ⟨value, ⟨ahead, rest, fault, after⟩⟩ := found
      cases ahead <;> rfl

theorem run_whole (lookup : String → Option String) {tree : Tree} (stands : tree.standsAt 0 = true)
    (levels : Nat) (held : Pending) :
    (whole (.pending lookup) levels).run
        { ahead := .finish, rest := tree.symbols, fault := none, memory := held } =
      (tree.meaningWithin lookup levels held.visible).map fun found =>
        (found.1, reading (held.add found.2) []) := by
  have inside := (takes lookup tree).run levels 0 [] held stands
    (tree.endsBefore_of_nonpos (by decide)) (by decide)
  rw [List.append_nil] at inside
  rw [run_whole_eq _ _ _ tree.symbols_ne_nil, inside]
  cases tree.meaningWithin lookup levels held.visible <;> rfl

end EvalM

theorem evaluateWithin_tree (lookup : String → Option String) {tree : Tree} {text : String}
    (reads : Symbol.readAll text = ⟨tree.symbols, none⟩) (stands : tree.standsAt 0 = true)
    (levels : Nat) :
    evaluateWithin levels lookup text =
      (tree.meaningWithin lookup levels []).map fun found => ⟨found.1, found.2⟩ := by
  rw [evaluateWithin, evaluateText, reads]
  simp only [EvalM.run_whole lookup stands]
  cases tree.meaningWithin lookup levels [] with
  | error error => rfl
  | ok found => simp [Except.map, EvalM.ok_bind, EvalM.reading, Pending.add, pure, Except.pure]

/-- Where there are levels enough, they make no difference. -/
theorem evaluateWithin_symbols (lookup : String → Option String) {tree : Tree} {text : String}
    (reads : Symbol.readAll text = ⟨tree.symbols, none⟩) (stands : tree.standsAt 0 = true)
    (levels : Nat) (deep : tree.levels ≤ levels) :
    evaluateWithin levels lookup text =
      (tree.meaning lookup []).map fun found => ⟨found.1, found.2⟩ := by
  rw [evaluateWithin_tree lookup reads stands, Tree.meaningWithin_eq_meaning deep]

end Shell.Arith
