import Shell.Proofs.Arith.Evaluation

/-! # Results written back as expressions

A word in decimal is a numeral, after a minus sign if it is negative. The sign is an operator, and
the numeral after it is read before the sign is applied. So the lowest word is not read back: its
numeral without the sign is out of range.
-/

namespace Shell.Arith

inductive Comparator where
  | less | lessEq | greater | greaterEq | equal | notEqual
deriving Repr, DecidableEq

namespace Comparator

def op : Comparator → BinaryOp
  | less => .less
  | lessEq => .lessEq
  | greater => .greater
  | greaterEq => .greaterEq
  | equal => .equal
  | notEqual => .notEqual

def holds : Comparator → Int → Int → Bool
  | less, a, b => a < b
  | lessEq, a, b => a ≤ b
  | greater, a, b => b < a
  | greaterEq, a, b => b ≤ a
  | equal, a, b => a = b
  | notEqual, a, b => a ≠ b

theorem apply_op (comparator : Comparator) (a b : Int64) :
    comparator.op.apply a b = some (truth (comparator.holds a.toInt b.toInt)) := by
  cases comparator <;>
    simp [op, holds, BinaryOp.apply, Int64.lt_iff_toInt_lt, Int64.le_iff_toInt_le, Int64.toInt_inj]

theorem strength_op (comparator : Comparator) : comparator.op.strength = 60 := by
  cases comparator <;> rfl

theorem written_op (comparator : Comparator) :
    Symbol.Written (.binary comparator.op) comparator.op.text.toList := by
  have written : Symbol.binary comparator.op ∈ Symbol.operators := by
    cases comparator <;> decide
  exact .operator written

end Comparator

/-! ## Words as trees -/

def Tree.ofWord (n : Int64) : Tree :=
  if n.toInt < 0 then .unary .minus (.literal (-n)) else .literal n

namespace Tree

theorem meaning_ofWord (lookup : String → Option String) (n : Int64) (visible : Writes) :
    (ofWord n).meaning lookup visible = .ok (n, []) := by
  unfold ofWord
  split
  · simp [meaning, UnaryOp.apply, EvalM.ok_bind, EvalM.pure_eq_ok]
  · rfl

theorem standsAt_ofWord (n : Int64) (strength : Int) : (ofWord n).standsAt strength = true := by
  unfold ofWord
  split <;> rfl

theorem endsBefore_ofWord (n : Int64) {strength : Int} (weak : strength ≤ Symbol.signStrength) :
    (ofWord n).endsBefore strength = true := by
  unfold ofWord
  split
  · simp [endsBefore, UnaryOp.strength, weak]
  · rfl

theorem levels_ofWord (n : Int64) : (ofWord n).levels ≤ 2 := by
  unfold ofWord
  split <;> simp [levels]

end Tree

/-! ## Reading words -/

/-- How the decimal text of a word is read. -/
def Reading.ofWord (n : Int64) : Reading :=
  if n = Int64.minValue then ⟨[.binary .sub], some (.invalidNumber "9223372036854775808")⟩
  else ⟨(Tree.ofWord n).symbols, none⟩

namespace Symbol

theorem beginning_minus {rest : List Char} (digit : ∀ c ∈ rest.head?, isDigit c = true)
    (offset : Nat) : beginning offset '-' rest = .symbol (.binary .sub) rest := by
  have without : ∀ op ∈ operators, op.text.toList.tail.any isDigit = false := by decide
  have apart : ∀ c ∈ rest.head?, ∀ op ∈ operators, c ∉ op.text.toList.tail :=
    fun c here op known member =>
      List.any_eq_false.mp (without op known) c member (digit c here)
  have found : operator? ('-' :: rest) = some (.binary .sub, rest) := operator?_append apart '-' []
  rw [beginning, if_neg (by decide), if_neg (by decide), if_neg (by decide), if_neg (by decide),
    found]

/-- The numeral of the lowest word without its sign is one too high. -/
theorem readFrom_minValue (offset : Nat) :
    readFrom offset (Numeral.render Int64.minValue).toList = .ofWord Int64.minValue := by
  have shape : (Numeral.render Int64.minValue).toList =
      '-' :: '9' :: "223372036854775808".toList := by decide +kernel
  have number : beginNumber '9' "223372036854775808".toList =
      .fault (.invalidNumber "9223372036854775808") := by decide +kernel
  have begins : ∀ offset, beginning offset '9' "223372036854775808".toList =
      .fault (.invalidNumber "9223372036854775808") := fun _ => number
  have digit : ∀ c ∈ ('9' :: "223372036854775808".toList).head?, isDigit c = true := by
    intro c here
    cases here
    decide
  rw [shape, readFrom_symbol (beginning_minus digit offset), readFrom_fault (begins _)]
  rfl

theorem toInt_neg_of_ne {n : Int64} (higher : n ≠ Int64.minValue) : (-n).toInt = -n.toInt := by
  have low := n.minValue_le_toInt
  have high := n.toInt_le
  have other : n.toInt ≠ Int64.minValue.toInt := fun same => higher (Int64.toInt_inj.mp same)
  have lowest : Int64.minValue.toInt = -2 ^ 63 := rfl
  have highest : Int64.maxValue.toInt = 2 ^ 63 - 1 := rfl
  rw [Int64.toInt_neg, Int.bmod_eq_of_le] <;> omega

theorem readFrom_render (n : Int64) (offset : Nat) :
    readFrom offset (Numeral.render n).toList = .ofWord n := by
  by_cases lowest : n = Int64.minValue
  · rw [lowest]
    exact readFrom_minValue offset
  rw [Reading.ofWord, if_neg lowest, Tree.ofWord]
  split
  · rename_i negative
    have opposite := toInt_neg_of_ne lowest
    have written : Written (.literal (-n)) (Numeral.render (-n)).toList :=
      written_literal (by omega)
    have shape : (Numeral.render n).toList = '-' :: Numeral.digits n.toInt.natAbs := by
      rw [Numeral.render, String.toList_ofList, Numeral.signedDigits, if_pos negative]
    have shape' : (Numeral.render (-n)).toList = Numeral.digits n.toInt.natAbs := by
      rw [Numeral.render, String.toList_ofList, Numeral.signedDigits, if_neg (by omega), opposite,
        Int.natAbs_neg]
    have digit : ∀ c ∈ (Numeral.digits n.toInt.natAbs).head?, isDigit c = true := by
      intro c here
      obtain ⟨d, small, rfl⟩ := Numeral.mem_digits (List.mem_of_mem_head? here)
      exact isDigit_digitChar small
    rw [shape'] at written
    rw [shape, readFrom_symbol (beginning_minus digit offset), readFrom_written written]
    rfl
  · rename_i positive
    exact readFrom_written (written_literal (Int.not_lt.mp positive)) offset

end Symbol

/-! ## Evaluating them -/

def Comparator.text (comparator : Comparator) (a b : Int64) : String :=
  Numeral.render a ++ " " ++ comparator.op.text ++ " " ++ Numeral.render b

namespace Comparator

/-- A comparison is read word by word, unless the first word ends it. -/
theorem readAll_text (comparator : Comparator) (a b : Int64) :
    Symbol.readAll (comparator.text a b) =
      (Reading.ofWord a).followedBy ((Reading.ofWord b).prepend (.binary comparator.op)) := by
  have split : (comparator.text a b).toList = (Numeral.render a).toList ++
      (' ' :: (comparator.op.text.toList ++ (' ' :: (Numeral.render b).toList))) := by
    simp [text]
  rw [Symbol.readAll, split, Symbol.readFrom_append_blank (by decide), Symbol.readFrom_render,
    Symbol.readFrom_append_blank (by decide), Symbol.readFrom_written comparator.written_op,
    Symbol.readFrom_render]
  rfl

end Comparator

theorem evaluateWithin_render (lookup : String → Option String) (levels : Nat) (n : Int64) :
    evaluateWithin (levels + 2) lookup (Numeral.render n) =
      if n = Int64.minValue then .error (.invalidNumber "9223372036854775808")
      else .ok ⟨n, []⟩ := by
  have reads : Symbol.readAll (Numeral.render n) = .ofWord n := Symbol.readFrom_render n 0
  rw [Reading.ofWord] at reads
  split
  · rename_i lowest
    rw [if_pos lowest] at reads
    rw [evaluateWithin, evaluateText, reads]
    rfl
  · rename_i higher
    rw [if_neg higher] at reads
    rw [evaluateWithin_symbols lookup reads (Tree.standsAt_ofWord n 0) _
      (Nat.le_add_left_of_le (Tree.levels_ofWord n)), Tree.meaning_ofWord]
    rfl

theorem evaluateWithin_comparison (lookup : String → Option String) (levels : Nat)
    (comparator : Comparator) (a b : Int64) :
    evaluateWithin (levels + 3) lookup (comparator.text a b) =
      if a = Int64.minValue ∨ b = Int64.minValue then
        .error (.invalidNumber "9223372036854775808")
      else .ok ⟨if comparator.holds a.toInt b.toInt then 1 else 0, []⟩ := by
  have reads := comparator.readAll_text a b
  by_cases first : a = Int64.minValue
  · rw [Reading.ofWord, if_pos first] at reads
    rw [if_pos (.inl first), evaluateWithin, evaluateText, reads]
    rfl
  rw [Reading.ofWord, if_neg first, Reading.ofWord] at reads
  by_cases second : b = Int64.minValue
  · rw [if_pos second, Tree.ofWord] at reads
    rw [if_pos (.inr second), evaluateWithin, evaluateText]
    split at reads
    · rw [reads]
      cases comparator <;> rfl
    · rw [reads]
      cases comparator <;> rfl
  · rw [if_neg second] at reads
    let tree : Tree := .connect (.binary comparator.op) (.ofWord a) (.ofWord b)
    have stands : tree.standsAt 0 = true := by
      simp [tree, Tree.standsAt, Connective.strength, Connective.bound, comparator.strength_op,
        Tree.standsAt_ofWord, Tree.endsBefore_ofWord a (show (60 : Int) ≤ _ by decide)]
    have shallow : tree.levels ≤ levels + 3 := by
      have := Tree.levels_ofWord a
      have := Tree.levels_ofWord b
      simp only [tree, Tree.levels]
      omega
    have reads : Symbol.readAll (comparator.text a b) = ⟨tree.symbols, none⟩ := reads
    have value := evaluateWithin_symbols lookup reads stands _ shallow
    rw [if_neg (by simp [first, second]), value]
    simp only [tree, Tree.meaning, Tree.meaning_ofWord, EvalM.ok_bind, Connective.apply,
      comparator.apply_op]
    rfl

/-- Every word but the lowest is read back from its decimal text, and two such words are compared as
    the integers that they stand for. Where the lowest word is written, there is no value, as its
    numeral is read before its sign and is out of range. -/
theorem evaluate_decimal (scope : Scope) :
    (∀ n : Int64, evaluate scope (Numeral.render n) =
      if n = Int64.minValue then .error (.invalidNumber "9223372036854775808")
      else .ok ⟨n, []⟩) ∧
    ∀ (comparator : Comparator) (a b : Int64), evaluate scope (comparator.text a b) =
      if a = Int64.minValue ∨ b = Int64.minValue then
        .error (.invalidNumber "9223372036854775808")
      else .ok ⟨if comparator.holds a.toInt b.toInt then 1 else 0, []⟩ :=
  ⟨evaluateWithin_render (scope.get? ·) 254, evaluateWithin_comparison (scope.get? ·) 253⟩

/-- The text of a variable is read with its sign, and there the lowest word is a number. -/
theorem lowest_word_not_read_back :
    Numeral.render Int64.minValue = "-9223372036854775808" ∧
    Numeral.read? "-9223372036854775808".toList = some Int64.minValue ∧
    evaluate Scope.empty "-9223372036854775808" =
      .error (.invalidNumber "9223372036854775808") ∧
    Comparator.less.text Int64.minValue 0 = "-9223372036854775808 < 0" ∧
    Comparator.less.holds Int64.minValue.toInt (0 : Int64).toInt = true ∧
    evaluate Scope.empty "-9223372036854775808 < 0" =
      .error (.invalidNumber "9223372036854775808") := by
  decide +kernel

end Shell.Arith
