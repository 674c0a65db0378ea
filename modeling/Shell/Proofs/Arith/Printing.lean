import Shell.Proofs.Arith.Tree
import Shell.Proofs.Arith.Spelling

/-! # Writing trees out

A tree over numbers that are not negative and variables with valid names has a text: its symbols
as they are shown, with a blank between every two.
-/

namespace Shell.Arith.Tree

/-- No number is negative, every variable has a valid name, and no assignment compares. -/
def isWritable : Tree → Bool
  | literal value => 0 ≤ value.toInt
  | reference name => Name.isValid name.toList
  | group inner => inner.isWritable
  | unary _ operand => operand.isWritable
  | connect _ left right => left.isWritable && right.isWritable
  | choice condition ifTrue ifFalse =>
      condition.isWritable && ifTrue.isWritable && ifFalse.isWritable
  | assign op name value =>
    Symbol.operators.contains (.assign op) && Name.isValid name.toList && value.isWritable

@[simp] theorem isWritable_bracket (tree : Tree) : tree.bracket.isWritable = tree.isWritable := by
  unfold bracket
  split <;> rfl

@[simp] theorem isWritable_bracketed (tree : Tree) :
    tree.bracketed.isWritable = tree.isWritable := by
  induction tree with
  | literal | reference => rfl
  | group inner ih => exact ih
  | unary op operand ih => simp only [bracketed, isWritable, isWritable_bracket, ih]
  | connect op left right ihl ihr => simp only [bracketed, isWritable, isWritable_bracket, ihl, ihr]
  | choice condition ifTrue ifFalse ihc iht ihf =>
      simp only [bracketed, isWritable, isWritable_bracket, ihc, iht, ihf]
  | assign op name value ih => simp only [bracketed, isWritable, isWritable_bracket, ih]

theorem written_unary (op : UnaryOp) : Symbol.Written op.symbol op.symbol.text.toList :=
  .operator (by cases op <;> decide)

theorem written_connective (op : Connective) : Symbol.Written op.symbol op.symbol.text.toList :=
  .operator (by rcases op with op | op <;> cases op <;> decide)

theorem written_of_isWritable {tree : Tree} (writable : tree.isWritable = true) :
    ∀ symbol ∈ tree.symbols, Symbol.Written symbol symbol.text.toList := by
  induction tree with
  | literal value =>
      intro symbol member
      obtain rfl := List.mem_singleton.mp member
      exact Symbol.written_literal (by simpa [isWritable] using writable)
  | reference name =>
      intro symbol member
      obtain rfl := List.mem_singleton.mp member
      exact .bare writable
  | group inner ih =>
      intro symbol member
      simp only [symbols, List.mem_cons, List.mem_append, List.not_mem_nil, or_false] at member
      rcases member with rfl | member | rfl
      · exact .operator (by decide)
      · exact ih writable symbol member
      · exact .operator (by decide)
  | unary op operand ih =>
      intro symbol member
      rcases List.mem_cons.mp member with rfl | member
      · exact written_unary op
      · exact ih writable symbol member
  | connect op left right ihl ihr =>
      intro symbol member
      simp only [isWritable, Bool.and_eq_true] at writable
      simp only [symbols, List.mem_cons, List.mem_append] at member
      rcases member with member | rfl | member
      · exact ihl writable.1 symbol member
      · exact written_connective op
      · exact ihr writable.2 symbol member
  | choice condition ifTrue ifFalse ihc iht ihf =>
      intro symbol member
      simp only [isWritable, Bool.and_eq_true] at writable
      simp only [symbols, List.mem_cons, List.mem_append] at member
      rcases member with member | rfl | member | rfl | member
      · exact ihc writable.1.1 symbol member
      · exact .operator (by decide)
      · exact iht writable.1.2 symbol member
      · exact .operator (by decide)
      · exact ihf writable.2 symbol member
  | assign op name value ih =>
      intro symbol member
      simp only [isWritable, Bool.and_eq_true] at writable
      simp only [symbols, List.mem_cons] at member
      rcases member with rfl | rfl | member
      · exact .bare writable.1.2
      · exact .operator (by simpa using writable.1.1)
      · exact ih writable.2 symbol member

def print (tree : Tree) : String :=
  String.ofList (Symbol.print tree.symbols)

theorem spells_print {tree : Tree} (writable : tree.isWritable = true) :
    Symbol.Spells tree.symbols tree.print.toList := by
  rw [print, String.toList_ofList]
  exact Symbol.spells_print (written_of_isWritable writable)

end Shell.Arith.Tree
