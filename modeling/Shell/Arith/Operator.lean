/-! # Operators on words

Arithmetic is on 64-bit two's-complement words: sums and products wrap, division goes toward zero, and a
shift takes its amount from the low six bits. Only division and remainder can fail.
-/

namespace Shell.Arith

/-- The word for a truth value. -/
def truth (b : Bool) : Int64 :=
  if b then 1 else 0

/-- The operators that take their operands as numbers. -/
inductive BinaryOp where
  | mul | div | rem
  | add | sub
  | shiftLeft | shiftRight
  | bitAnd | bitXor | bitOr
  | less | lessEq | greater | greaterEq | equal | notEqual
deriving Repr, DecidableEq, Inhabited

namespace BinaryOp

/-- How it is written. -/
def text : BinaryOp → String
  | mul => "*"
  | div => "/"
  | rem => "%"
  | add => "+"
  | sub => "-"
  | shiftLeft => "<<"
  | shiftRight => ">>"
  | bitAnd => "&"
  | bitXor => "^"
  | bitOr => "|"
  | less => "<"
  | lessEq => "<="
  | greater => ">"
  | greaterEq => ">="
  | equal => "=="
  | notEqual => "!="

/-- How tightly it binds. All six comparisons stand on one level. -/
def strength : BinaryOp → Int
  | mul | div | rem => 120
  | add | sub => 110
  | shiftLeft | shiftRight => 100
  | bitAnd => 90
  | bitXor => 80
  | bitOr => 70
  | less | lessEq | greater | greaterEq | equal | notEqual => 60

/-- The result on two words; `none` for a division by zero. -/
def apply : BinaryOp → Int64 → Int64 → Option Int64
  | mul, l, r => some (l * r)
  | div, l, r => if r = 0 then none else some (l / r)
  | rem, l, r => if r = 0 then none else some (l % r)
  | add, l, r => some (l + r)
  | sub, l, r => some (l - r)
  | shiftLeft, l, r => some (l <<< r)
  | shiftRight, l, r => some (l >>> r)
  | bitAnd, l, r => some (l &&& r)
  | bitXor, l, r => some (l ^^^ r)
  | bitOr, l, r => some (l ||| r)
  | less, l, r => some (truth (l < r))
  | lessEq, l, r => some (truth (l ≤ r))
  | greater, l, r => some (truth (r < l))
  | greaterEq, l, r => some (truth (r ≤ l))
  | equal, l, r => some (truth (l = r))
  | notEqual, l, r => some (truth (l ≠ r))

end BinaryOp

/-- The operators that take their operands as truth values. -/
inductive LogicalOp where
  | both
  | either
deriving Repr, DecidableEq, Inhabited

namespace LogicalOp

/-- How it is written. -/
def text : LogicalOp → String
  | both => "&&"
  | either => "||"

/-- How tightly it binds. -/
def strength : LogicalOp → Int
  | both => 40
  | either => 30

/-- The result on two words; any word but zero is true. -/
def apply : LogicalOp → Int64 → Int64 → Int64
  | both, l, r => truth (l ≠ 0 && r ≠ 0)
  | either, l, r => truth (l ≠ 0 || r ≠ 0)

end LogicalOp

end Shell.Arith
