import Shell.Arith.Evaluate

/-! # Expression trees

A tree keeps the brackets that were written. `standsAt` and `endsBefore` say where it can be
written without further ones, so together they are the grammar; `meaning` says what a tree is
worth, whatever its brackets. Neither mentions the order in which an evaluation meets the
symbols.
-/

namespace Shell.Arith

/-- The operators that stand before their operand. -/
inductive UnaryOp where
  | plus
  | minus
  | complement
  | negation
deriving Repr, DecidableEq

namespace UnaryOp

def symbol : UnaryOp → Symbol
  | plus => .binary .add
  | minus => .binary .sub
  | complement => .complement
  | negation => .negation

def strength : UnaryOp → Int
  | plus | minus => Symbol.signStrength
  | complement => Symbol.complement.strength
  | negation => Symbol.negation.strength

def apply : UnaryOp → Int64 → Int64
  | plus, value => value
  | minus, value => -value
  | complement, value => ~~~value
  | negation, value => truth (value == 0)

end UnaryOp

/-- The operators that stand between two operands: the sixteen binary ones, `&&` and `||`. -/
inductive Connective where
  | binary (op : BinaryOp)
  | logical (op : LogicalOp)
deriving Repr, DecidableEq

namespace Connective

def symbol : Connective → Symbol
  | binary op => .binary op
  | logical op => .logical op

def strength : Connective → Int
  | binary op => op.strength
  | logical op => op.strength

/-- What binds tighter than this belongs to the operand on its right. -/
def bound : Connective → Int
  | binary op => op.strength
  | logical op => op.strength - 1

def apply : Connective → Int64 → Int64 → Option Int64
  | binary op, left, right => op.apply left right
  | logical op, left, right => some (op.apply left right)

@[simp] theorem strength_symbol (op : Connective) : op.symbol.strength = op.strength := by
  cases op <;> rfl

end Connective

/-- Assignments in order, or the other way round where the newest has to be found first. -/
abbrev Writes := List (String × Int64)

/-- What an expression says. -/
inductive Tree where
  | literal (value : Int64)
  | reference (name : String)
  /-- An expression in brackets. -/
  | group (inner : Tree)
  | unary (op : UnaryOp) (operand : Tree)
  | connect (op : Connective) (left right : Tree)
  | choice (condition ifTrue ifFalse : Tree)
  /-- `=`, or the assignment that applies an operator first. -/
  | assign (op : Option BinaryOp) (name : String) (value : Tree)
deriving Repr, DecidableEq

namespace Tree

/-! ## Writing a tree -/

/-- The symbols of a tree, with no brackets but its own. -/
def symbols : Tree → List Symbol
  | literal value => [.literal value]
  | reference name => [.reference name]
  | group inner => .opening :: (inner.symbols ++ [.closing])
  | unary op operand => op.symbol :: operand.symbols
  | connect op left right => left.symbols ++ op.symbol :: right.symbols
  | choice condition ifTrue ifFalse =>
    condition.symbols ++ .question :: (ifTrue.symbols ++ .colon :: ifFalse.symbols)
  | assign op name value => .reference name :: .assign op :: value.symbols

/-- An operand that needs no brackets: a number, a variable or something in brackets already. -/
def isSimple : Tree → Bool
  | literal _ | reference _ | group _ => true
  | _ => false

def bracket (tree : Tree) : Tree :=
  if tree.isSimple then tree else group tree

def bracketed : Tree → Tree
  | literal value => literal value
  | reference name => reference name
  | group inner => group inner.bracketed
  | unary op operand => unary op operand.bracketed.bracket
  | connect op left right => connect op left.bracketed.bracket right.bracketed.bracket
  | choice condition ifTrue ifFalse =>
    choice condition.bracketed.bracket ifTrue.bracketed.bracket ifFalse.bracketed.bracket
  | assign op name value => assign op name value.bracketed.bracket

/-- How many expressions are being evaluated at once in the innermost part of a tree. -/
def levels : Tree → Nat
  | literal _ | reference _ => 1
  | group inner => inner.levels + 1
  | unary _ operand => operand.levels + 1
  | connect _ left right => max left.levels (right.levels + 1)
  | choice condition ifTrue ifFalse => max condition.levels (max ifTrue.levels ifFalse.levels + 1)
  | assign _ _ value => value.levels + 1

/-- The variable that a tree consists of, if it is nothing more. -/
def target? : Tree → Option String
  | reference name => some name
  | _ => none

/-! ## The grammar -/

/-- A symbol of some strength that follows a tree is not taken for a part of it. -/
def endsBefore (strength : Int) : Tree → Bool
  | literal _ | reference _ | group _ => true
  | unary op operand => strength ≤ op.strength && operand.endsBefore strength
  | connect op _ right => strength ≤ op.bound && right.endsBefore strength
  | choice _ _ ifFalse => strength ≤ 0 && ifFalse.endsBefore strength
  | assign _ _ value => strength ≤ 0 && value.endsBefore strength

/-- All of a tree binds tighter than a strength, and each of its parts stands where it may. -/
def standsAt (strength : Int) : Tree → Bool
  | literal _ | reference _ => true
  | group inner => inner.standsAt 0
  | unary op operand => operand.standsAt op.strength
  | connect op left right =>
    strength < op.strength && left.standsAt strength && left.endsBefore op.strength &&
      right.standsAt op.bound
  | choice condition ifTrue ifFalse =>
    strength < Symbol.question.strength && condition.standsAt strength &&
      condition.endsBefore Symbol.question.strength && ifTrue.standsAt 0 && ifFalse.standsAt 0
  | assign op _ value => strength < (Symbol.assign op).strength && value.standsAt 0

/-! ## What a tree is worth -/

/-- The value of a variable: the newest visible assignment, or else what the scope has. -/
def readVisible (lookup : String → Option String) (name : String) (visible : Writes) :
    Except Error Int64 :=
  match visible.lookup name with
  | some value => .ok value
  | none => numberOf name (lookup name)

/-- A result, or the division by zero that there is instead. -/
def orDivision {α : Type} : Option α → Except Error α
  | some value => .ok value
  | none => .error .divisionByZero

/-- What an assignment makes of the old value of its variable and of its right side. -/
def assigned : Option BinaryOp → Int64 → Int64 → Option Int64
  | none, _, right => some right
  | some op, old, right => op.apply old right

/-- The value of a tree and the assignments it makes, in order, when some are visible. The variable
    that is assigned to is always read first. -/
def meaning (lookup : String → Option String) : Tree → Writes → Except Error (Int64 × Writes)
  | literal value, _ => return (value, [])
  | reference name, visible => do return (← readVisible lookup name visible, [])
  | group inner, visible => inner.meaning lookup visible
  | unary op operand, visible => do
    let (value, made) ← operand.meaning lookup visible
    return (op.apply value, made)
  | connect op left right, visible => do
    let (a, first) ← left.meaning lookup visible
    let (b, second) ← right.meaning lookup (first.reverse ++ visible)
    return (← orDivision (op.apply a b), first ++ second)
  | choice condition ifTrue ifFalse, visible => do
    let (test, first) ← condition.meaning lookup visible
    let (a, second) ← ifTrue.meaning lookup (first.reverse ++ visible)
    let (b, third) ← ifFalse.meaning lookup (first.reverse ++ visible)
    return (if test ≠ 0 then a else b, first ++ second ++ third)
  | assign op name operand, visible => do
    let old ← readVisible lookup name visible
    let (right, made) ← operand.meaning lookup visible
    let value ← orDivision (assigned op old right)
    return (value, made ++ [(name, value)])

/-- The same with only so many levels of nesting left. All that stands after the first symbol of a
    tree is one level further in, but the left side of an operator and the condition of a choice are
    not. -/
def meaningWithin (lookup : String → Option String) :
    Nat → Tree → Writes → Except Error (Int64 × Writes)
  | 0, _, _ => .error .nestedTooDeeply
  | _ + 1, literal value, _ => return (value, [])
  | _ + 1, reference name, visible => do return (← readVisible lookup name visible, [])
  | levels + 1, group inner, visible => inner.meaningWithin lookup levels visible
  | levels + 1, unary op operand, visible => do
    let (value, made) ← operand.meaningWithin lookup levels visible
    return (op.apply value, made)
  | levels + 1, connect op left right, visible => do
    let (a, first) ← left.meaningWithin lookup (levels + 1) visible
    let (b, second) ← right.meaningWithin lookup levels (first.reverse ++ visible)
    return (← orDivision (op.apply a b), first ++ second)
  | levels + 1, choice condition ifTrue ifFalse, visible => do
    let (test, first) ← condition.meaningWithin lookup (levels + 1) visible
    let (a, second) ← ifTrue.meaningWithin lookup levels (first.reverse ++ visible)
    let (b, third) ← ifFalse.meaningWithin lookup levels (first.reverse ++ visible)
    return (if test ≠ 0 then a else b, first ++ second ++ third)
  | levels + 1, assign op name operand, visible => do
    let old ← readVisible lookup name visible
    let (right, made) ← operand.meaningWithin lookup levels visible
    let value ← orDivision (assigned op old right)
    return (value, made ++ [(name, value)])

-- their equations, generated here once for all proofs
attribute [grind =] symbols levels endsBefore standsAt meaning meaningWithin

/-! ## Laws -/

@[simp] theorem symbols_ne_nil (tree : Tree) : tree.symbols ≠ [] := by
  cases tree <;> simp [symbols]

theorem one_le_levels (tree : Tree) : 1 ≤ tree.levels := by
  induction tree with
  | literal | reference => exact Nat.le_refl 1
  | group | unary | assign => simp only [levels]; omega
  | connect | choice => simp only [levels]; omega

theorem exists_below {tree : Tree} {levels : Nat} (deep : tree.levels ≤ levels) :
    ∃ below, levels = below + 1 :=
  ⟨levels - 1, by have := tree.one_le_levels; omega⟩

theorem meaningWithin_eq_meaning {tree : Tree} {levels : Nat} (deep : tree.levels ≤ levels)
    (lookup : String → Option String) (visible : Writes) :
    tree.meaningWithin lookup levels visible = tree.meaning lookup visible := by
  induction tree generalizing levels visible with
  | literal | reference =>
      obtain ⟨below, rfl⟩ := exists_below deep
      rfl
  | group inner ih =>
      obtain ⟨below, rfl⟩ := exists_below deep
      exact ih (Nat.le_of_succ_le_succ deep) visible
  | unary op operand ih =>
      obtain ⟨below, rfl⟩ := exists_below deep
      simp only [meaningWithin, meaning, ih (Nat.le_of_succ_le_succ deep)]
  | connect op left right ihl ihr =>
      obtain ⟨below, rfl⟩ := exists_below deep
      obtain ⟨outer, inner⟩ := Nat.max_le.mp deep
      simp only [meaningWithin, meaning, ihl outer, ihr (Nat.le_of_succ_le_succ inner)]
  | choice condition ifTrue ifFalse ihc iht ihf =>
      obtain ⟨below, rfl⟩ := exists_below deep
      obtain ⟨outer, inner⟩ := Nat.max_le.mp deep
      obtain ⟨branch, other⟩ := Nat.max_le.mp (Nat.le_of_succ_le_succ inner)
      simp only [meaningWithin, meaning, ihc outer, iht branch, ihf other]
  | assign op name value ih =>
      obtain ⟨below, rfl⟩ := exists_below deep
      simp only [meaningWithin, meaning, ih (Nat.le_of_succ_le_succ deep)]

theorem endsBefore_of_nonpos {strength : Int} (h : strength ≤ 0) (tree : Tree) :
    tree.endsBefore strength = true := by
  induction tree with
  | literal | reference | group => rfl
  | unary op operand ih =>
      have weak : strength ≤ op.strength := by cases op <;> exact Int.le_trans h (by decide)
      simp [endsBefore, weak, ih]
  | connect op left right _ ih =>
      have weak : strength ≤ op.bound := by
        rcases op with op | op <;> cases op <;> exact Int.le_trans h (by decide)
      simp [endsBefore, weak, ih]
  | choice condition ifTrue ifFalse _ _ ih => simp [endsBefore, h, ih]
  | assign op name value ih => simp [endsBefore, h, ih]

theorem standsAt_mono {low high : Int} (h : low ≤ high) {tree : Tree}
    (stands : tree.standsAt high = true) :
    tree.standsAt low = true := by
  induction tree with
  | literal | reference => rfl
  | group | unary => exact stands
  | connect op left right ih =>
      simp only [standsAt, Bool.and_eq_true, decide_eq_true_eq] at stands ⊢
      obtain ⟨⟨⟨tight, lefts⟩, ends⟩, rights⟩ := stands
      exact ⟨⟨⟨Int.lt_of_le_of_lt h tight, ih lefts⟩, ends⟩, rights⟩
  | choice condition ifTrue ifFalse ih =>
      simp only [standsAt, Bool.and_eq_true, decide_eq_true_eq] at stands ⊢
      obtain ⟨⟨⟨⟨tight, test⟩, ends⟩, branch⟩, other⟩ := stands
      exact ⟨⟨⟨⟨Int.lt_of_le_of_lt h tight, ih test⟩, ends⟩, branch⟩, other⟩
  | assign op name value =>
      simp only [standsAt, Bool.and_eq_true, decide_eq_true_eq] at stands ⊢
      exact ⟨Int.lt_of_le_of_lt h stands.1, stands.2⟩

theorem isSimple_bracket (tree : Tree) : tree.bracket.isSimple = true := by
  unfold bracket
  split
  · assumption
  · rfl

theorem endsBefore_of_isSimple {tree : Tree} (simple : tree.isSimple = true) (strength : Int) :
    tree.endsBefore strength = true := by
  cases tree <;> first | rfl | simp [isSimple] at simple

theorem standsAt_of_isSimple {tree : Tree} (simple : tree.isSimple = true)
    (stands : tree.standsAt 0 = true) (strength : Int) : tree.standsAt strength = true := by
  cases tree <;> first | rfl | exact stands | simp [isSimple] at simple

theorem standsAt_bracket {tree : Tree} (stands : tree.standsAt 0 = true) (strength : Int) :
    tree.bracket.standsAt strength = true := by
  apply standsAt_of_isSimple (isSimple_bracket tree)
  unfold bracket
  split
  · exact stands
  · exact stands

/-- Brackets around every compound operand are enough, whatever the operators. -/
theorem standsAt_bracketed (tree : Tree) : tree.bracketed.standsAt 0 = true := by
  induction tree with
  | literal | reference => rfl
  | group inner ih => exact ih
  | unary op operand ih => exact standsAt_bracket ih _
  | connect op left right ihl ihr =>
      have positive : 0 < op.strength := by rcases op with op | op <;> cases op <;> decide
      simp only [bracketed, standsAt, Bool.and_eq_true, decide_eq_true_eq]
      exact ⟨⟨⟨positive, standsAt_bracket ihl _⟩, endsBefore_of_isSimple (isSimple_bracket _) _⟩,
        standsAt_bracket ihr _⟩
  | choice condition ifTrue ifFalse ihc iht ihf =>
      simp only [bracketed, standsAt, Bool.and_eq_true, decide_eq_true_eq]
      exact ⟨⟨⟨⟨by decide, standsAt_bracket ihc _⟩, endsBefore_of_isSimple (isSimple_bracket _) _⟩,
        standsAt_bracket iht _⟩, standsAt_bracket ihf _⟩
  | assign op name value ih =>
      simp only [bracketed, standsAt, Bool.and_eq_true, decide_eq_true_eq]
      exact ⟨by simp [Symbol.strength], standsAt_bracket ih _⟩

@[simp] theorem meaning_bracket (lookup : String → Option String) (tree : Tree) (visible : Writes) :
    tree.bracket.meaning lookup visible = tree.meaning lookup visible := by
  unfold bracket
  split <;> rfl

/-- Brackets do not change what a tree is worth. -/
@[simp] theorem meaning_bracketed (lookup : String → Option String) (tree : Tree)
    (visible : Writes) :
    tree.bracketed.meaning lookup visible = tree.meaning lookup visible := by
  induction tree generalizing visible with
  | literal | reference => rfl
  | group inner ih => exact ih visible
  | unary op operand ih => simp only [bracketed, meaning, meaning_bracket, ih]
  | connect op left right ihl ihr => simp only [bracketed, meaning, meaning_bracket, ihl, ihr]
  | choice condition ifTrue ifFalse ihc iht ihf =>
      simp only [bracketed, meaning, meaning_bracket, ihc, iht, ihf]
  | assign op name value ih => simp only [bracketed, meaning, meaning_bracket, ih]

end Tree

end Shell.Arith
