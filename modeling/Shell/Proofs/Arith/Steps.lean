import Shell.Proofs.Arith.Tree

/-! # Single steps of an evaluation

How each step runs on symbols that reach to the end of the text, and when the loop of an
evaluation goes on.
-/

namespace Shell.Arith.EvalM

/-- The state in which some symbols are still to be taken, up to the end of the text. -/
def reading {σ : Type} (memory : σ) : List Symbol → State σ
  | [] => { ahead := .finish, rest := [], fault := none, memory }
  | next :: rest => { ahead := next, rest, fault := none, memory }

abbrev next (symbols : List Symbol) : Symbol :=
  symbols.headD .finish

section Steps

variable {σ : Type} (memory : Memory σ) (sub : Int → EvalM σ Int64) (held : σ)

theorem run_bind {α β : Type} (action : EvalM σ α) (further : α → EvalM σ β) (state : State σ) :
    (action >>= further).run state =
      (action.run state >>= fun found => (further found.1).run found.2) := rfl

theorem ok_bind {α β : Type} (value : α) (further : α → Except Error β) :
    (Except.ok value >>= further) = further value := rfl

theorem pure_eq_ok {α : Type} (value : α) : (pure value : Except Error α) = .ok value := rfl

theorem run_pure {α : Type} (value : α) (state : State σ) :
    (pure value : EvalM σ α).run state = .ok (value, state) := rfl

theorem run_peek (symbols : List Symbol) :
    peek.run (reading held symbols) = .ok (next symbols, reading held symbols) := by
  cases symbols <;> rfl

theorem run_advance (symbol : Symbol) (rest : List Symbol) :
    advance.run (reading held (symbol :: rest)) = .ok (symbol, reading held rest) := by
  cases rest <;> rfl

theorem run_close (closer : Symbol) (rest : List Symbol) :
    (close closer).run (reading held (closer :: rest)) = .ok ((), reading held rest) := by
  rw [close, run_bind, run_peek, ok_bind]
  simp only [next, List.headD_cons, if_true]
  show (advance >>= fun _ => pure ()).run _ = _
  rw [run_bind, run_advance]
  rfl

theorem run_snapshot (symbols : List Symbol) :
    snapshot.run (reading held symbols) = .ok (held, reading held symbols) := by
  cases symbols <;> rfl

theorem run_revise (change : σ → σ) (symbols : List Symbol) :
    (revise change).run (reading held symbols) = .ok ((), reading (change held) symbols) := by
  cases symbols <;> rfl

theorem with_memory (memory : σ) (symbols : List Symbol) :
    { reading held symbols with memory } = reading memory symbols := by
  cases symbols <;> rfl

theorem memory_reading (symbols : List Symbol) : (reading held symbols).memory = held := by
  cases symbols <;> rfl

theorem run_read_state (name : String) (state : State σ) :
    (read memory name).run state =
      (memory.read name state.memory).map fun value => (value, state) := by
  have taken : snapshot.run state = .ok (state.memory, state) := rfl
  rw [read, run_bind, taken, ok_bind]
  cases memory.read name state.memory <;> rfl

theorem run_read (name : String) (symbols : List Symbol) :
    (read memory name).run (reading held symbols) =
      (memory.read name held).map fun value => (value, reading held symbols) := by
  rw [run_read_state, memory_reading]

theorem run_applyBinary (op : BinaryOp) (left right : Int64) (state : State σ) :
    (applyBinary op left right).run state =
      (Tree.orDivision (op.apply left right)).map fun value => (value, state) := by
  unfold applyBinary
  cases op.apply left right <;> rfl

theorem run_climb_stop {strength : Int} {symbols : List Symbol}
    (loose : (next symbols).strength ≤ strength) (rounds : Nat) (target : Option String)
    (left : Int64) :
    (climb memory sub strength rounds target left).run (reading held symbols) =
      .ok (left, reading held symbols) := by
  cases rounds with
  | zero => rfl
  | succ rounds =>
      rw [climb, run_bind, run_peek, ok_bind, if_neg (Int.not_lt.mpr loose)]
      rfl

theorem run_climb_step {strength : Int} {symbol : Symbol} (tight : strength < symbol.strength)
    (rounds : Nat) (target : Option String) (left : Int64) (rest : List Symbol) :
    (climb memory sub strength (rounds + 1) target left).run (reading held (symbol :: rest)) =
      ((extend memory sub target left symbol).run (reading held rest) >>= fun found =>
        (climb memory sub strength rounds none found.1).run found.2) := by
  rw [climb, run_bind, run_peek, ok_bind, if_pos (by simpa using tight), run_bind, run_advance,
    ok_bind, run_bind]

theorem run_expression (levels : Nat) (strength : Int) (symbol : Symbol) (rest : List Symbol) :
    (expression memory (levels + 1) strength).run (reading held (symbol :: rest)) =
      ((operand memory (expression memory levels) symbol).run (reading held rest) >>= fun found =>
        (climb memory (expression memory levels) strength (found.2.rest.length + 1)
          (target? symbol) found.1).run
          found.2) := by
  rw [expression, run_bind, run_advance, ok_bind, run_bind]
  rfl

theorem run_extend_connective (op : Connective) (target : Option String) (left : Int64)
    (state : State σ) :
    (extend memory sub target left op.symbol).run state =
      ((sub op.bound).run state >>= fun found =>
        (Tree.orDivision (op.apply left found.1)).map fun value => (value, found.2)) := by
  cases op with
  | binary op =>
      simp only [extend, Connective.symbol, Connective.bound, Connective.apply, run_bind,
        run_applyBinary]
  | logical op => rfl

theorem run_extend_assign (op : Option BinaryOp) (name : String) (left : Int64) (state : State σ) :
    (extend memory sub (some name) left (.assign op)).run state =
      ((sub 0).run state >>= fun found =>
        (Tree.orDivision (Tree.assigned op left found.1)).map fun value =>
          (value, { found.2 with memory := memory.write name value found.2.memory })) := by
  cases op with
  | none => rfl
  | some op =>
      simp only [extend, run_bind, run_applyBinary, Tree.assigned]
      cases (sub 0).run state with
      | error error => rfl
      | ok found =>
          simp only [ok_bind]
          cases op.apply left found.1 <;> rfl

theorem operand_literal (value : Int64) : operand memory sub (.literal value) = pure value := rfl

theorem operand_reference (name : String) :
    operand memory sub (.reference name) = read memory name := rfl

theorem operand_opening :
    operand memory sub .opening = (do
      let value ← sub 0
      close .closing
      return value) := rfl

theorem run_operand_unary (op : UnaryOp) (state : State σ) :
    (operand memory sub op.symbol).run state =
      ((sub op.strength).run state >>= fun found => .ok (op.apply found.1, found.2)) := by
  cases op with
  | plus =>
      show (sub Symbol.signStrength).run state = _
      simp only [UnaryOp.strength, UnaryOp.apply]
      cases (sub Symbol.signStrength).run state <;> rfl
  | minus | complement | negation => rfl

end Steps

end Shell.Arith.EvalM
