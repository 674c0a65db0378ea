import Shell.Arith.Operator
import Shell.Arith.Numeral
import Shell.Text.Quoted

/-! # Symbols of an expression

What an arithmetic expression is made of, with the strength that each symbol has to the right of an operand.
-/

namespace Shell.Arith

/-- One symbol of an expression. -/
inductive Symbol where
  /-- A number. -/
  | literal (value : Int64)
  /-- A variable, to be read or assigned to. -/
  | reference (name : String)
  /-- An operator between two operands; `+` and `-` are also signs. -/
  | binary (op : BinaryOp)
  /-- `&&` or `||`. -/
  | logical (op : LogicalOp)
  /-- `=`, or the assignment that applies an operator first. -/
  | assign (op : Option BinaryOp)
  /-- `~` -/
  | complement
  /-- `!` -/
  | negation
  /-- `(` -/
  | opening
  /-- `)` -/
  | closing
  /-- `?` -/
  | question
  /-- `:` -/
  | colon
  /-- The end of the expression. -/
  | finish
deriving Repr, DecidableEq, Inhabited

namespace Symbol

/-- How it is shown in messages. An operator is shown as it is written. -/
def text : Symbol → String
  | literal value => Numeral.render value
  | reference name => name
  | binary op => op.text
  | logical op => op.text
  | assign none => "="
  | assign (some op) => op.text ++ "="
  | complement => "~"
  | negation => "!"
  | opening => "("
  | closing => ")"
  | question => "?"
  | colon => ":"
  | finish => "end of expression"

/-- How tightly it binds to an operand on its left. -/
def strength : Symbol → Int
  | literal _ | reference _ | closing | colon => 0
  | binary op => op.strength
  | logical op => op.strength
  | assign _ => 60
  | opening => 140
  | complement => 130
  | negation => 50
  | question => 20
  | finish => -1

/-- How tightly a sign binds to the operand on its right. -/
def signStrength : Int := 150

/-- Every operator, one that begins with another before the shorter one. -/
def operators : List Symbol := [
  assign (some .shiftLeft), assign (some .shiftRight),
  binary .shiftLeft, binary .shiftRight, binary .lessEq, binary .greaterEq, binary .equal,
  binary .notEqual, logical .both, logical .either,
  assign (some .mul), assign (some .div), assign (some .rem), assign (some .add),
  assign (some .sub), assign (some .bitAnd), assign (some .bitXor), assign (some .bitOr),
  binary .mul, binary .div, binary .rem, binary .add, binary .sub, binary .bitAnd, binary .bitXor,
  binary .bitOr, binary .less, binary .greater, assign none,
  complement, negation, opening, closing, question, colon]

end Symbol

end Shell.Arith

/-! ## What can go wrong

One constructor for each way in which an arithmetic expression fails, and the words in which it is
reported.
-/

namespace Shell.Arith

/-- How many levels an expression may be nested. -/
def maxNesting : Nat := 256

/-- Why an expression has no value. -/
inductive Error where
  /-- Text that begins no symbol, at a byte offset. -/
  | unknownText (text : String) (offset : Nat)
  /-- A digit begins it, but it is no numeral or is out of range. -/
  | invalidNumber (text : String)
  /-- Something else stands where a bracket or a branch has to be closed. -/
  | expectedCloser (closer found : Symbol)
  /-- A whole expression is followed by more. -/
  | expectedEnd (found : Symbol)
  /-- The text of a variable is no numeral. -/
  | notANumber (name value : String)
  /-- Something other than a lone variable is assigned to. -/
  | notAssignable (op : Option BinaryOp)
  /-- A symbol stands where an operand has to begin. -/
  | cannotStart (symbol : Symbol)
  /-- A symbol that is no operator follows an operand. -/
  | cannotFollow (symbol : Symbol)
  | divisionByZero
  | nestedTooDeeply
deriving Repr, DecidableEq, Inhabited

namespace Error

def message : Error → String
  | unknownText text offset =>
    "unexpected character " ++ Text.quoted text ++ " at offset " ++ toString offset
  | invalidNumber text => "invalid number " ++ Text.quoted text
  | expectedCloser closer found => "expected '" ++ closer.text ++ "' but found " ++ found.text
  | expectedEnd found => "expected " ++ Symbol.finish.text ++ " but found " ++ found.text
  | notANumber name value =>
    "variable '" ++ name ++ "' cannot be used as a number: " ++ Text.quoted value
  | notAssignable op =>
    "assignment target is not a variable: '" ++ (Symbol.assign op).text ++ "'"
  | cannotStart symbol => "'" ++ symbol.text ++ "' cannot start an expression"
  | cannotFollow symbol => "'" ++ symbol.text ++ "' cannot follow an operand"
  | divisionByZero => "division by zero"
  | nestedTooDeeply => "expression nested too deeply (max " ++ toString maxNesting ++ ")"

end Error

end Shell.Arith
