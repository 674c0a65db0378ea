import Mathlib.Algebra.Group.Int.Defs
import Mathlib.Algebra.Group.Nat.Defs
import Shell.Proofs.Arith.Assignment

/-! # What the operators make of words

An operator on words is the one on integers, brought back into the range of a word. Here that is
said for each operator that does arithmetic, with its corner cases, and for the assignments that
apply an operator first: what they write is the result on the old value and the right side.
-/

namespace Shell.Arith

/-- An integer brought into the range of a word by adding or taking away multiples of `2 ^ 64`. -/
def wrapped (n : Int) : Int :=
  (n + 2 ^ 63) % 2 ^ 64 - 2 ^ 63

/-- What a shift takes of its amount: the low six bits of the word. -/
def shiftAmount (amount : Int64) : Nat :=
  amount.toBitVec.toNat % 2 ^ 6

/-- Quotient and remainder of a division, in words. -/
structure IsDivision (l r quotient remainder : Int64) : Prop where
  whole : quotient * r + remainder = l
  small : remainder.toInt.natAbs < r.toInt.natAbs
  sign : remainder = 0 ∨ remainder.toInt.sign = l.toInt.sign
  /-- The quotient is rounded toward zero. -/
  truncated : ¬(l = Int64.minValue ∧ r = -1) → quotient.toInt = l.toInt.tdiv r.toInt
  /-- The only quotient that is no word. -/
  overflow : l = Int64.minValue → r = -1 → quotient.toInt = -2 ^ 63 ∧ remainder = 0

/-! ## Words as integers -/

theorem bmod_eq_wrapped (n : Int) : n.bmod (2 ^ 64) = wrapped n := by
  simp only [Int.bmod, wrapped]
  omega

theorem toNat_smod (amount : Int64) : (amount.toBitVec.smod 64).toNat = shiftAmount amount := by
  have same : (amount.toBitVec.smod 64).toInt = amount.toBitVec.toInt % 64 := by
    rw [BitVec.toInt_smod]
    exact Int.fmod_eq_emod_of_nonneg _ (by decide)
  -- It is not negative, so it is the same number whether or not the word has a sign.
  have small := (amount.toBitVec.smod 64).isLt
  rw [BitVec.toInt_eq_toNat_cond, BitVec.toInt_eq_toNat_cond] at same
  rw [shiftAmount]
  split at same <;> split at same <;> omega

theorem toInt_shiftLeft (l r : Int64) :
    (l <<< r).toInt = wrapped (l.toInt * 2 ^ shiftAmount r) := by
  have same : l.toInt = (l.toBitVec.toNat : Int).bmod (2 ^ 64) := BitVec.toInt_eq_toNat_bmod _
  rw [← Int64.toInt_toBitVec, Int64.toBitVec_shiftLeft, BitVec.shiftLeft_eq', toNat_smod,
    BitVec.toInt_shiftLeft, Nat.shiftLeft_eq, ← bmod_eq_wrapped, same]
  push_cast
  rw [Int.bmod_mul_bmod]

theorem toInt_shiftRight (l r : Int64) :
    (l >>> r).toInt = l.toInt.fdiv (2 ^ shiftAmount r) := by
  rw [← Int64.toInt_toBitVec, Int64.toBitVec_shiftRight, BitVec.sshiftRight_eq', toNat_smod,
    BitVec.toInt_sshiftRight, Int.shiftRight_eq_div_pow, Int64.toInt_toBitVec,
    Int.fdiv_eq_ediv_of_nonneg _ (Int.pow_nonneg (by decide)), Int.natCast_pow]
  rfl

theorem isDivision {l r : Int64} (nonzero : r ≠ 0) : IsDivision l r (l / r) (l % r) := by
  have divisor : r.toInt ≠ 0 := fun zero => nonzero (Int64.toInt_inj.mp zero)
  exact
    { whole := by
        rw [← Int64.toInt_inj, Int64.toInt_add, Int64.toInt_mul, Int64.toInt_div, Int64.toInt_mod,
          Int.bmod_mul_bmod, Int.bmod_add_bmod, Int.tdiv_mul_add_tmod]
        exact l.toInt_bmod
      small := by
        rw [Int64.toInt_mod, Int.natAbs_tmod]
        exact Nat.mod_lt _ (Int.natAbs_pos.mpr divisor)
      sign := by
        rw [← Int64.toInt_inj, Int64.toInt_mod]
        by_cases divides : r.toInt ∣ l.toInt
        · exact .inl (Int.tmod_eq_zero_of_dvd divides)
        · exact .inr (by rw [Int.sign_tmod, if_neg divides])
      truncated := fun inside => by
        rcases not_and_or.mp inside with left | right
        · exact Int64.toInt_div_of_ne_left l r left
        · exact Int64.toInt_div_of_ne_right l r right
      overflow := by
        rintro rfl rfl
        decide }

theorem BinaryOp.apply_eq_none_iff {op : BinaryOp} {l r : Int64} :
    op.apply l r = none ↔ (op = .div ∨ op = .rem) ∧ r = 0 := by
  cases op <;> simp [apply]

/-! ## Assignments that apply an operator -/

/-- The assignment of a text to a variable, with an operator applied first. -/
def compound (name : String) (op : BinaryOp) (text : String) : String :=
  name ++ " " ++ (Symbol.assign (some op)).text ++ " " ++ text

namespace Tree

/-- An assignment reaches as far as it can, so nothing that binds at all may follow it. -/
theorem endsBefore_assign {op : Option BinaryOp} {name : String} {value : Tree} {strength : Int}
    (binds : 0 < strength) : (assign op name value).endsBefore strength = false := by
  simp [endsBefore, Int.not_le.mpr binds]

/-- Where a tree with a symbol after it begins with two symbols, so does the tree by itself. -/
theorem begins_of_append {tree : Tree} {first second symbol : Symbol} {more rest : List Symbol}
    (begins : tree.symbols ++ symbol :: more = first :: second :: rest) (other : symbol ≠ second) :
    ∃ rest', tree.symbols = first :: second :: rest' := by
  rcases here : tree.symbols with - | ⟨a, - | ⟨b, rest'⟩⟩
  · exact absurd here tree.symbols_ne_nil
  · rw [here] at begins
    exact absurd (List.cons.inj (List.cons.inj begins).2).1 other
  · simp only [here, List.cons_append, List.cons.injEq] at begins
    exact ⟨rest', by rw [begins.1, begins.2.1]⟩

theorem exists_eq_assign {tree : Tree} {strength : Int} {name : String} {op : Option BinaryOp}
    {rest : List Symbol} (stands : tree.standsAt strength = true)
    (begins : tree.symbols = .reference name :: .assign op :: rest) :
    ∃ value, tree = .assign op name value := by
  induction tree generalizing rest with
  | literal | reference | group => simp [symbols] at begins
  | unary op operand => cases op <;> simp [symbols, UnaryOp.symbol] at begins
  | assign op' name' value =>
      simp only [symbols, List.cons.injEq, Symbol.reference.injEq, Symbol.assign.injEq] at begins
      obtain ⟨rfl, rfl, -⟩ := begins
      exact ⟨value, rfl⟩
  | connect op' left right ih =>
      simp only [standsAt, Bool.and_eq_true, decide_eq_true_eq] at stands
      obtain ⟨⟨⟨-, left_stands⟩, ends⟩, -⟩ := stands
      have other : op'.symbol ≠ .assign op := by cases op' <;> nofun
      obtain ⟨rest', left_begins⟩ := begins_of_append begins other
      obtain ⟨value, rfl⟩ := ih left_stands left_begins
      -- An assignment on the left would go on beyond the operator.
      have binds : 0 < op'.strength := by rcases op' with op' | op' <;> cases op' <;> decide
      rw [endsBefore_assign binds] at ends
      cases ends
  | choice condition ifTrue ifFalse ih =>
      simp only [standsAt, Bool.and_eq_true, decide_eq_true_eq] at stands
      obtain ⟨⟨⟨⟨-, condition_stands⟩, ends⟩, -⟩, -⟩ := stands
      obtain ⟨rest', condition_begins⟩ := begins_of_append begins nofun
      obtain ⟨value, rfl⟩ := ih condition_stands condition_begins
      rw [endsBefore_assign (by decide)] at ends
      cases ends

end Tree

namespace Symbol

theorem readAll_compound {name : String} (valid : Name.isValid name.toList = true) {op : BinaryOp}
    (known : .assign (some op) ∈ operators) (text : String) :
    ∃ distance, readAll (compound name op text) =
      (⟨[.reference name, .assign (some op)], none⟩ : Reading).followedBy
        ((readAll text).moved distance) := by
  have split : (compound name op text).toList =
      name.toList ++ ' ' :: ((Symbol.assign (some op)).text.toList ++ ' ' :: text.toList) := by
    simp [compound]
  have moved (distance : Nat) : readFrom distance text.toList = (readAll text).moved distance := by
    rw [readAll, ← readFrom_moved, Nat.zero_add]
  rw [readAll, split, readFrom_append_blank (by decide), readFrom_append_blank (by decide),
    readFrom_written (.bare valid), readFrom_written (.operator known), moved]
  exact ⟨_, rfl⟩

end Symbol

section Texts

variable {lookup : String → Option String} {levels : Nat} {name text : String}
  (valid : Name.isValid name.toList = true) {op : BinaryOp}
  (known : .assign (some op) ∈ Symbol.operators)
include valid known

theorem readAll_compound_eq_iff {symbols : List Symbol} :
    Symbol.readAll (compound name op text) = ⟨symbols, none⟩ ↔
      ∃ rest, Symbol.readAll text = ⟨rest, none⟩ ∧
        symbols = .reference name :: .assign (some op) :: rest := by
  obtain ⟨distance, reads⟩ := Symbol.readAll_compound valid known text
  rw [reads]
  obtain ⟨rest, fault⟩ := Symbol.readAll text
  simp only [Reading.moved, Reading.followedBy, Reading.mk.injEq, Option.map_eq_none_iff]
  constructor
  · rintro ⟨rfl, rfl⟩
    exact ⟨rest, ⟨rfl, rfl⟩, rfl⟩
  · rintro ⟨rest, ⟨rfl, rfl⟩, rfl⟩
    exact ⟨rfl, rfl⟩

theorem exists_of_evaluateWithin_compound {result : Result}
    (h : evaluateWithin (levels + 1) lookup (compound name op text) = .ok result) :
    ∃ found, evaluateWithin levels lookup text = .ok found := by
  obtain ⟨tree, reads, stands, shallow, meaning⟩ := evaluateWithin_eq_ok_iff.mp h
  obtain ⟨rest, right, begins⟩ := (readAll_compound_eq_iff valid known).mp reads
  obtain ⟨value, rfl⟩ := Tree.exists_eq_assign stands begins
  obtain rfl : value.symbols = rest := by simpa [Tree.symbols] using begins
  simp only [Tree.standsAt, Bool.and_eq_true] at stands
  obtain ⟨old, -, meaning⟩ := EvalM.exists_of_bind_eq_ok meaning
  obtain ⟨found, worth, -⟩ := EvalM.exists_of_bind_eq_ok meaning
  exact ⟨⟨found.1, found.2⟩, evaluateWithin_eq_ok_iff.mpr
    ⟨value, right, stands.2, Nat.le_of_succ_le_succ shallow, worth⟩⟩

/-- The old value and the value of the right side decide what an assignment writes. -/
theorem evaluateWithin_compound {found : Result}
    (right : evaluateWithin levels lookup text = .ok found) :
    evaluateWithin (levels + 1) lookup (compound name op text) = (do
      let old ← numberOf name (lookup name)
      let value ← Tree.orDivision (op.apply old found.value)
      return ⟨value, found.writes ++ [(name, value)]⟩) := by
  obtain ⟨value, reads, stands, shallow, worth⟩ := evaluateWithin_eq_ok_iff.mp right
  have whole : Symbol.readAll (compound name op text) =
      ⟨(Tree.assign (some op) name value).symbols, none⟩ :=
    (readAll_compound_eq_iff valid known).mpr ⟨_, reads, rfl⟩
  rw [evaluateWithin_symbols lookup whole (by simpa [Tree.standsAt, Symbol.strength] using stands)
    _ (Nat.succ_le_succ shallow)]
  simp only [Tree.meaning, worth]
  show ((Tree.readVisible lookup name [] >>= _).map _) = _
  have read : Tree.readVisible lookup name [] = numberOf name (lookup name) := rfl
  rw [read]
  cases numberOf name (lookup name) with
  | error error => rfl
  | ok old =>
      simp only [EvalM.ok_bind, Tree.assigned]
      cases op.apply old found.value <;> rfl

variable {scope : Scope}

theorem evaluate_compound {found : Result}
    (right : evaluateWithin (maxNesting - 1) (scope.get? ·) text = .ok found) :
    evaluate scope (compound name op text) = (do
      let old ← numberOf name (scope.get? name)
      let value ← Tree.orDivision (op.apply old found.value)
      return ⟨value, found.writes ++ [(name, value)]⟩) := by
  have levels : maxNesting = maxNesting - 1 + 1 := rfl
  rw [evaluate, levels]
  exact evaluateWithin_compound valid known right

theorem perform_compound {old value : Int64} {found : Result}
    (before : numberOf name (scope.get? name) = .ok old)
    (right : evaluateWithin (maxNesting - 1) (scope.get? ·) text = .ok found)
    (applied : op.apply old found.value = some value) :
    evaluate scope (compound name op text) = .ok ⟨value, found.writes ++ [(name, value)]⟩ ∧
      perform (compound name op text) scope =
        (.ok value, (commit found.writes scope).set name (Numeral.render value)) := by
  have assigned : evaluate scope (compound name op text) =
      .ok ⟨value, found.writes ++ [(name, value)]⟩ := by
    rw [evaluate_compound valid known right, before, EvalM.ok_bind, applied]
    rfl
  refine ⟨assigned, ?_⟩
  simp only [perform, assigned, commit, List.foldl_append]
  rfl

theorem exists_of_evaluate_compound {result : Result}
    (valued : evaluate scope (compound name op text) = .ok result) :
    ∃ old found value, numberOf name (scope.get? name) = .ok old ∧
      evaluateWithin (maxNesting - 1) (scope.get? ·) text = .ok found ∧
      op.apply old found.value = some value ∧
      result = ⟨value, found.writes ++ [(name, value)]⟩ := by
  have levels : maxNesting = maxNesting - 1 + 1 := rfl
  have within := valued
  rw [evaluate, levels] at within
  obtain ⟨found, right⟩ := exists_of_evaluateWithin_compound valid known within
  rw [evaluate_compound valid known right] at valued
  obtain ⟨old, before, valued⟩ := EvalM.exists_of_bind_eq_ok valued
  cases applied : op.apply old found.value with
  | none =>
      rw [applied] at valued
      cases valued
  | some value =>
      rw [applied] at valued
      cases valued
      exact ⟨old, found, value, before, right, applied, rfl⟩

end Texts

/-- Sums, differences, products and opposites are those of the integers, wrapped. A division has the
    quotient toward zero and the remainder that goes with it, but the lowest word divided by minus
    one is itself. A shift multiplies by a power of two, wrapped, or divides by it and rounds down;
    the low six bits of its amount are the power. Only a division by zero has no result. An
    assignment with an operator writes what the operator makes of the old value, which is read
    first, and the right side. -/
theorem exact_on_words {σ : Type} (memory : Memory σ) :
    (∀ l r : Int64,
      (BinaryOp.add.apply l r).map Int64.toInt = some (wrapped (l.toInt + r.toInt)) ∧
      (BinaryOp.sub.apply l r).map Int64.toInt = some (wrapped (l.toInt - r.toInt)) ∧
      (BinaryOp.mul.apply l r).map Int64.toInt = some (wrapped (l.toInt * r.toInt)) ∧
      (BinaryOp.shiftLeft.apply l r).map Int64.toInt =
        some (wrapped (l.toInt * 2 ^ shiftAmount r)) ∧
      (BinaryOp.shiftRight.apply l r).map Int64.toInt =
        some (l.toInt.fdiv (2 ^ shiftAmount r))) ∧
    (∀ l r : Int64, r ≠ 0 → ∃ quotient remainder, BinaryOp.div.apply l r = some quotient ∧
      BinaryOp.rem.apply l r = some remainder ∧ IsDivision l r quotient remainder) ∧
    (∀ (op : BinaryOp) (l r : Int64), op.apply l r = none ↔ (op = .div ∨ op = .rem) ∧ r = 0) ∧
    (∀ (sub : Int → EvalM σ Int64) (state after : State σ) (value : Int64),
      (sub Symbol.signStrength).run state = .ok (value, after) →
      ∃ opposite, (EvalM.operand memory sub (.binary .sub)).run state = .ok (opposite, after) ∧
        opposite.toInt = wrapped (-value.toInt)) ∧
    (∀ (levels : Nat) (strength : Int) (op : BinaryOp) (name : String) (symbol : Symbol)
      (rest : List Symbol) (fault : Option Error) (held : σ), strength < 60 →
      (EvalM.expression memory (levels + 1) strength).run
          ⟨.reference name, .assign (some op) :: symbol :: rest, fault, held⟩ = (do
        let old ← memory.read name held
        let (right, after) ← (EvalM.expression memory levels 0).run ⟨symbol, rest, fault, held⟩
        let value ← Tree.orDivision (op.apply old right)
        (EvalM.climb memory (EvalM.expression memory levels) strength (rest.length + 1) none
          value).run { after with memory := memory.write name value after.memory })) ∧
    ∀ (scope : Scope) (name text : String) (op : BinaryOp), Name.isValid name.toList = true →
      .assign (some op) ∈ Symbol.operators →
      let right := evaluateWithin (maxNesting - 1) (scope.get? ·) text
      (∀ old found value, numberOf name (scope.get? name) = .ok old → right = .ok found →
        op.apply old found.value = some value →
        evaluate scope (compound name op text) =
          .ok ⟨value, found.writes ++ [(name, value)]⟩ ∧
        perform (compound name op text) scope =
          (.ok value, (commit found.writes scope).set name (Numeral.render value))) ∧
      (∀ old found, numberOf name (scope.get? name) = .ok old → right = .ok found →
        op.apply old found.value = none →
        evaluate scope (compound name op text) = .error .divisionByZero) ∧
      ∀ result, evaluate scope (compound name op text) = .ok result →
        ∃ old found value, numberOf name (scope.get? name) = .ok old ∧ right = .ok found ∧
          op.apply old found.value = some value ∧
          result = ⟨value, found.writes ++ [(name, value)]⟩ := by
  refine ⟨fun l r => ?_, fun l r nonzero => ?_, fun op l r => BinaryOp.apply_eq_none_iff, ?_, ?_,
    ?_⟩
  · simp only [BinaryOp.apply, Option.map_some, Int64.toInt_add, Int64.toInt_sub, Int64.toInt_mul,
      bmod_eq_wrapped, toInt_shiftLeft, toInt_shiftRight, and_self]
  · exact ⟨l / r, l % r, if_neg nonzero, if_neg nonzero, isDivision nonzero⟩
  · intro sub state after value ran
    refine ⟨-value, ?_, by rw [Int64.toInt_neg, bmod_eq_wrapped]⟩
    show ((sub Symbol.signStrength).run state >>= fun found => .ok (-found.1, found.2)) = _
    rw [ran, EvalM.ok_bind]
  · intro levels strength op name symbol rest fault held tight
    exact EvalM.run_expression_assign memory levels (some op) tight name symbol rest fault held
  · intro scope name text op valid known right
    refine ⟨fun old found value before worth applied =>
      perform_compound valid known before worth applied,
      fun old found before worth applied => ?_,
      fun result valued => exists_of_evaluate_compound valid known valued⟩
    rw [evaluate_compound valid known worth, before, EvalM.ok_bind, applied]
    rfl

/-- The lowest word, and an amount of which only the low six bits are taken. The right side of the
    assignments changes the variable itself, after its old value has been read. -/
theorem exact_on_words_lowest :
    (BinaryOp.sub.apply Int64.minValue 1).map Int64.toInt = some (2 ^ 63 - 1) ∧
    (BinaryOp.shiftLeft.apply 3 (-1)).map Int64.toInt = some (-2 ^ 63) ∧
    (BinaryOp.shiftRight.apply (-5) 65).map Int64.toInt = some (-3) ∧
    (-1 : Int64) ≠ 0 ∧
    (∃ quotient remainder, BinaryOp.div.apply Int64.minValue (-1) = some quotient ∧
      BinaryOp.rem.apply Int64.minValue (-1) = some remainder ∧ quotient.toInt = -2 ^ 63 ∧
      remainder = 0) ∧
    perform "x /= 2 + (x = 5)" (Scope.empty.set "x" "-17") =
      (.ok (-2), ((Scope.empty.set "x" "-17").set "x" "5").set "x" "-2") ∧
    evaluate (Scope.empty.set "x" "-17") "x %= (x = 0)" = .error .divisionByZero := by
  obtain ⟨words, divisions, -, -, -, texts⟩ := exact_on_words (.pending fun _ => none)
  refine ⟨?_, ?_, ?_, by decide, ?_, ?_, ?_⟩
  · exact (words Int64.minValue 1).2.1.trans (by decide)
  · exact (words 3 (-1)).2.2.2.1.trans (by decide)
  · exact (words (-5) 65).2.2.2.2.trans (by decide)
  · obtain ⟨q, m, divided, left, division⟩ := divisions Int64.minValue (-1) (by decide)
    exact ⟨q, m, divided, left, division.overflow rfl rfl⟩
  · have written : compound "x" .div "2 + (x = 5)" = "x /= 2 + (x = 5)" := by decide +kernel
    have assigns := (texts (Scope.empty.set "x" "-17") "x" "2 + (x = 5)" .div (by decide)
      (by decide)).1 (-17) ⟨7, [("x", 5)]⟩ (-2) (by decide +kernel) (by decide +kernel) (by decide)
    have first : Numeral.render 5 = "5" := by decide +kernel
    have second : Numeral.render (-2) = "-2" := by decide +kernel
    simp only [written, commit, List.foldl_cons, List.foldl_nil, first, second] at assigns
    exact assigns.2
  · have written : compound "x" .rem "(x = 0)" = "x %= (x = 0)" := by decide +kernel
    rw [← written]
    exact (texts (Scope.empty.set "x" "-17") "x" "(x = 0)" .rem (by decide) (by decide)).2.1
      (-17) ⟨0, [("x", 0)]⟩ (by decide +kernel) (by decide +kernel) (by decide)

end Shell.Arith
