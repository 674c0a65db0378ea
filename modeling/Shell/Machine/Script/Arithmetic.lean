import Shell.Machine.Script.State
import Shell.Text.Space

/-! # Arithmetic in scripts

The expressions between `$((` and `))`. Numbers have 64 bits and wrap around; variables that are not set count as
zero, and those that are not numbers are errors.
-/

namespace Shell.Machine.Script.Arithmetic

/-- A symbol of an expression. -/
inductive Symbol where
  | number (value : Int64)
  | name (name : String)
  | operator (text : String)
  | unknown
deriving Repr, DecidableEq, Inhabited

/-- The operators, one that begins with another before the shorter one. -/
def operators : List String := [
  "<<=", ">>=", "&&", "||", "<<", ">>", "<=", ">=", "==", "!=", "*=", "/=", "%=", "+=", "-=", "&=",
  "^=", "|=", "(", ")", "!", "~", "*", "/", "%", "+", "-", "<", ">", "=", "&", "^", "|", "?", ":"]

/-- The value of a digit in a base, if it is one. -/
def digit? (base : Nat) (c : Char) : Option Nat :=
  let value? :=
    if c.isDigit then some (c.toNat - '0'.toNat)
    else if 'a' ≤ c && c ≤ 'f' then some (c.toNat - 'a'.toNat + 10)
    else if 'A' ≤ c && c ≤ 'F' then some (c.toNat - 'A'.toNat + 10)
    else none
  value?.filter (· < base)

/-- The number at the start of a text, and what follows it. -/
def digits (base : Nat) : Nat → List Char → Nat × List Char
  | sofar, [] => (sofar, [])
  | sofar, c :: rest =>
    match digit? base c with
    | some value => digits base (sofar * base + value) rest
    | none => (sofar, c :: rest)

def greatest : Nat := 9223372036854775807

/-- A number without a sign as the start of a text, in the base that it is written in. -/
def unsigned (text : List Char) : Nat × List Char :=
  match text with
  | '0' :: x :: c :: rest =>
    if (x = 'x' || x = 'X') && (digit? 16 c).isSome then digits 16 0 (c :: rest)
    else digits 8 0 (x :: c :: rest)
  | '0' :: rest => digits 8 0 rest
  | _ => digits 10 0 text

/-- The symbols of an expression, at most so many. -/
def symbols : Nat → List Char → List Symbol
  | 0, _ => []
  | _, [] => []
  | fuel + 1, c :: rest =>
    if " \t\n".contains c then symbols fuel rest
    else if c.isDigit then
      let (value, rest) := unsigned (c :: rest)
      .number (Int64.ofNat (min value greatest)) :: symbols fuel rest
    else if Name.isStart c then
      let (name, rest) := (c :: rest).span Name.isPart
      .name (String.ofList name) :: symbols fuel rest
    else
      match operators.findSome? fun operator =>
          (Text.after? operator.toList (c :: rest)).map (operator, ·) with
      | some (operator, rest) => .operator operator :: symbols fuel rest
      | none => [.unknown]

/-- What is being evaluated. -/
structure Progress where
  rest : List Symbol
  state : State

/-- Evaluates parts of an expression; errors are reported as texts. -/
abbrev Eval := StateT Progress (Except String)

def refuse {α : Type} (expr report : String) : Eval α :=
  throw ("arithmetic expression: " ++ report ++ ": \"" ++ expr ++ "\"")

def next : Eval (Option Symbol) :=
  modifyGet fun progress => (progress.rest.head?, { progress with rest := progress.rest.drop 1 })

/-- The next symbol if it is an operator. -/
def peek : Eval (Option String) := do
  match (← get).rest.head? with
  | some (.operator text) => return some text
  | _ => return none

/-- The number that a text is, after a sign perhaps, and whether it is too big. -/
def numberOf? (text : String) : Option (Int64 × Bool) :=
  let blank (c : Char) : Bool := " \t\n\r\x0b\x0c".contains c
  let chars := text.toList.dropWhile blank
  let (negative, chars) :=
    match chars with
    | '-' :: rest => (true, rest)
    | '+' :: rest => (false, rest)
    | _ => (false, chars)
  let (value, rest) := unsigned chars
  if !(rest.dropWhile blank).isEmpty then none
  else
    let limit := if negative then greatest + 1 else greatest
    let value' := Int64.ofNat (min value limit)
    some (if negative then -value' else value', limit < value)

/-- The value of a variable. -/
def lookUp (name : String) : Eval Int64 := do
  let text := ((← get).state.value? name).getD ""
  match numberOf? text with
  | some (value, false) => return value
  | _ => throw ("Illegal number: " ++ text)

/-- Gives a variable a value. -/
def store (name : String) (value : Int64) : Eval Unit := do
  let progress ← get
  match progress.state.binding? name with
  | some { readOnly := true, .. } => throw (name ++ ": is read only")
  | _ => set { progress with state := progress.state.assign name (toString value.toInt) false }

/-- One for true and zero for false. -/
def ofBool (truth : Bool) : Int64 := if truth then 1 else 0

/-- How loosely an operator between two numbers binds. -/
def looseness? : String → Option Nat
  | "*" | "/" | "%" => some 0
  | "+" | "-" => some 1
  | "<<" | ">>" => some 2
  | "<" | "<=" | ">" | ">=" => some 3
  | "==" | "!=" => some 4
  | "&" => some 5
  | "^" => some 6
  | "|" => some 7
  | _ => none

/-- What an operator makes of two numbers. -/
def apply (expr operator : String) (a b : Int64) : Eval Int64 := do
  match operator with
  | "*" => return a * b
  | "/" => if b = 0 then refuse expr "division by zero" else return a / b
  | "%" => if b = 0 then refuse expr "division by zero" else return a % b
  | "+" => return a + b
  | "-" => return a - b
  | "<<" => return a <<< b
  | ">>" => return a >>> b
  | "<" => return ofBool (a < b)
  | "<=" => return ofBool (a ≤ b)
  | ">" => return ofBool (b < a)
  | ">=" => return ofBool (b ≤ a)
  | "==" => return ofBool (a == b)
  | "!=" => return ofBool (a != b)
  | "&" => return a &&& b
  | "^" => return a ^^^ b
  | _ => return a ||| b

/-- The operators that give a variable a value. -/
def assigning : List String := ["=", "*=", "/=", "%=", "+=", "-=", "<<=", ">>=", "&=", "^=", "|="]

mutual

/-- An operand. `skipped` says that its value does not matter and nothing is to happen. -/
def operand (expr : String) : Nat → Bool → Eval Int64
  | 0, _ => refuse expr "expecting primary"
  | fuel + 1, skipped => do
    match ← next with
    | some (.number value) => return value
    | some (.name name) => if skipped then return 0 else lookUp name
    | some (.operator "(") =>
      let value ← assignment expr fuel skipped
      if (← next) ≠ some (.operator ")") then refuse expr "expecting ')'"
      return value
    | some (.operator "+") => operand expr fuel skipped
    | some (.operator "-") => return -(← operand expr fuel skipped)
    | some (.operator "!") => return ofBool ((← operand expr fuel skipped) == 0)
    | some (.operator "~") => return ~~~(← operand expr fuel skipped)
    | _ => refuse expr "expecting primary"

/-- Goes on after an operand with operators that bind more tightly than `bound`. -/
def binary (expr : String) : Nat → Bool → Nat → Int64 → Eval Int64
  | 0, _, _, _ => refuse expr "expecting primary"
  | fuel + 1, skipped, bound, left => do
    match ← peek with
    | none => return left
    | some operator =>
      match looseness? operator with
      | none => return left
      | some looseness =>
        if bound ≤ looseness then return left
        discard next
        let right ← binary expr fuel skipped looseness (← operand expr fuel skipped)
        let value ← if skipped then pure right else apply expr operator left right
        binary expr fuel skipped bound value

/-- Operands joined by `&&`. -/
def conjunction (expr : String) : Nat → Bool → Eval Int64
  | 0, _ => refuse expr "expecting primary"
  | fuel + 1, skipped => do
    let left ← binary expr fuel skipped 8 (← operand expr fuel skipped)
    if (← peek) = some "&&" then
      discard next
      let right ← conjunction expr fuel (skipped || left == 0)
      return ofBool (left != 0 && right != 0)
    else return left

/-- Operands joined by `||`. -/
def disjunction (expr : String) : Nat → Bool → Eval Int64
  | 0, _ => refuse expr "expecting primary"
  | fuel + 1, skipped => do
    let left ← conjunction expr fuel skipped
    if (← peek) = some "||" then
      discard next
      let right ← disjunction expr fuel (skipped || left != 0)
      return ofBool (left != 0 || right != 0)
    else return left

/-- A choice between two values, or a value. -/
def choice (expr : String) : Nat → Bool → Eval Int64
  | 0, _ => refuse expr "expecting primary"
  | fuel + 1, skipped => do
    let condition ← disjunction expr fuel skipped
    if (← peek) = some "?" then
      discard next
      let yes ← assignment expr fuel (skipped || condition == 0)
      if (← next) ≠ some (.operator ":") then refuse expr "expecting ':'"
      let no ← choice expr fuel (skipped || condition != 0)
      return if condition != 0 then yes else no
    else return condition

/-- An assignment, or a value. -/
def assignment (expr : String) : Nat → Bool → Eval Int64
  | 0, _ => refuse expr "expecting primary"
  | fuel + 1, skipped => do
    match (← get).rest with
    | .name name :: .operator operator :: rest =>
      if assigning.contains operator then
        modify fun progress => { progress with rest }
        let value ← assignment expr fuel skipped
        if skipped then return value
        let value ←
          if operator = "=" then pure value
          else apply expr ((operator.dropEnd 1).toString) (← lookUp name) value
        store name value
        return value
      else choice expr fuel skipped
    | _ => choice expr fuel skipped

end

/-- The value of an expression, and the state after it. -/
def evaluate (expr : String) (state : State) : Except String (Int64 × State) :=
  let rest := symbols (expr.length + 1) expr.toList
  let whole : Eval Int64 := do
    let value ← assignment expr (8 * rest.length + 16) false
    if (← get).rest.isEmpty then return value else refuse expr "expecting EOF"
  match whole.run { rest, state } with
  | .ok (value, progress) => .ok (value, progress.state)
  | .error report => .error report

end Shell.Machine.Script.Arithmetic
