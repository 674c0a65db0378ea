import Shell.Arith.Symbol.Read
import Shell.Scope

/-! # Evaluating an expression

An expression is evaluated while it is read, one symbol ahead. Every operand is evaluated whatever the others
are worth. Assignments are held back: later reads see them, except that the second branch of a choice does
not see those of the first, and they reach the scope only when the whole expression has succeeded.
-/

namespace Shell.Arith

/-- How variables are kept while an expression is evaluated. -/
structure Memory (σ : Type) where
  /-- The value of a variable. -/
  read : String → σ → Except Error Int64
  /-- What an assignment makes of the variables. -/
  write : String → Int64 → σ → σ
  /-- How the second branch of a choice finds the variables, which were so before and after the first. -/
  fork : (before after : σ) → σ
  /-- How the second branch leaves them, which were so before the first branch and after the second. -/
  join : (before after : σ) → σ

/-- Where an evaluation stands. -/
structure State (σ : Type) where
  /-- The symbol that comes next. -/
  ahead : Symbol
  /-- The symbols after it. -/
  rest : List Symbol
  /-- The error that ends them, if they do not reach to the end of the text. -/
  fault : Option Error
  /-- The variables. -/
  memory : σ
deriving Repr, Inhabited

/-- A step of an evaluation. -/
abbrev EvalM (σ : Type) := StateT (State σ) (Except Error)

/-- The value of an expression, with the assignments it makes. -/
structure Result where
  value : Int64
  writes : List (String × Int64)
deriving Repr, DecidableEq, Inhabited

/-- The number that the text of a variable stands for. No text and blank text count as zero. -/
def numberOf (name : String) : Option String → Except Error Int64
  | none => .ok 0
  | some text =>
    if (Text.trim text.toList).isEmpty then .ok 0
    else
      match Numeral.read? text.toList with
      | some value => .ok value
      | none => .error (.notANumber name text)

namespace EvalM

variable {σ : Type}

/-- The symbol that comes next. -/
def peek : EvalM σ Symbol := do
  return (← get).ahead

/-- How many symbols are left. -/
def remaining : EvalM σ Nat := do
  return (← get).rest.length + 1

/-- Takes the next symbol. At the end there is always one more end. -/
def advance : EvalM σ Symbol := do
  let state ← get
  match state.rest, state.fault with
  | next :: rest, _ =>
    set { state with ahead := next, rest }
    return state.ahead
  | [], some error => throw error
  | [], none =>
    set { state with ahead := .finish }
    return state.ahead

/-- Takes the symbol that closes a group or a branch. -/
def close (closer : Symbol) : EvalM σ Unit := do
  let ahead ← peek
  if ahead = closer then discard advance
  else throw (.expectedCloser closer ahead)

/-- The variables as they are. -/
def snapshot : EvalM σ σ := do
  return (← get).memory

def revise (change : σ → σ) : EvalM σ Unit :=
  modify fun state => { state with memory := change state.memory }

def read (memory : Memory σ) (name : String) : EvalM σ Int64 := do
  match memory.read name (← snapshot) with
  | .ok value => return value
  | .error error => throw error

/-- Applies an operator. -/
def applyBinary (op : BinaryOp) (left right : Int64) : EvalM σ Int64 :=
  match op.apply left right with
  | some value => return value
  | none => throw .divisionByZero

/-- An operand that begins with a symbol already taken. `sub` evaluates what binds tighter than a strength. -/
def operand (memory : Memory σ) (sub : Int → EvalM σ Int64) : Symbol → EvalM σ Int64
  | .literal value => return value
  | .reference name => read memory name
  | .binary .add => sub Symbol.signStrength
  | .binary .sub => do return -(← sub Symbol.signStrength)
  | .complement => do return ~~~(← sub Symbol.complement.strength)
  | .negation => do return truth ((← sub Symbol.negation.strength) == 0)
  | .opening => do
    let value ← sub 0
    close .closing
    return value
  | other => throw (.cannotStart other)

/-- Goes on from an operand with a symbol already taken. `target` is set when the operand can be
    assigned to. -/
def extend (memory : Memory σ) (sub : Int → EvalM σ Int64) (target : Option String) (left : Int64) :
    Symbol → EvalM σ Int64
  | .binary op => do
    let right ← sub op.strength
    applyBinary op left right
  | .logical op => do
    let right ← sub (op.strength - 1)
    return op.apply left right
  | .assign op => do
    match target with
    | none => throw (.notAssignable op)
    | some name =>
      let right ← sub 0
      let value ←
        match op with
        | none => pure right
        | some op => applyBinary op left right
      revise (memory.write name value)
      return value
  | .question => do
    let before ← snapshot
    let ifTrue ← sub 0
    close .colon
    revise (memory.fork before)
    let ifFalse ← sub 0
    revise (memory.join before)
    return if left ≠ 0 then ifTrue else ifFalse
  | other => throw (.cannotFollow other)

/-- Goes on from an operand while the next symbol binds tighter than a strength. Every round takes a
    symbol, so as many rounds as there are symbols are enough. -/
def climb (memory : Memory σ) (sub : Int → EvalM σ Int64) (strength : Int) :
    Nat → Option String → Int64 → EvalM σ Int64
  | 0, _, left => return left
  | rounds + 1, target, left => do
    if strength < (← peek).strength then
      let symbol ← advance
      let value ← extend memory sub target left symbol
      climb memory sub strength rounds none value
    else return left

/-- The variable that an operand consists of, if it is nothing more. -/
def target? : Symbol → Option String
  | .reference name => some name
  | _ => none

/-- Evaluates what binds tighter than a strength, with so many levels of nesting left. -/
def expression (memory : Memory σ) : Nat → Int → EvalM σ Int64
  | 0, _ => throw .nestedTooDeeply
  | levels + 1, strength => do
    let symbol ← advance
    let left ← operand memory (expression memory levels) symbol
    climb memory (expression memory levels) strength (← remaining) (target? symbol) left

/-- Evaluates a whole expression. -/
def whole (memory : Memory σ) (levels : Nat) : EvalM σ Int64 := do
  discard advance
  let value ← expression memory levels 0
  match ← peek with
  | .finish => return value
  | other => throw (.expectedEnd other)

end EvalM

/-- Evaluates a text from its beginning, with the variables as it leaves them. -/
def evaluateText {σ : Type} (memory : Memory σ) (levels : Nat) (text : String) (start : σ) :
    Except Error (Int64 × σ) := do
  let { symbols, fault } := Symbol.readAll text
  let (value, state) ←
    (EvalM.whole memory levels).run { ahead := .finish, rest := symbols, fault, memory := start }
  return (value, state.memory)

/-- Assignments that are held back. -/
structure Pending where
  /-- All of them, in order. -/
  writes : List (String × Int64) := []
  /-- Those that reads see, the newest first. -/
  visible : List (String × Int64) := []
deriving Repr, DecidableEq, Inhabited

/-- Holds assignments back: a read sees the newest visible one, or else the scope. The second branch
    of a choice does not see those of the first; afterwards those of both are visible. -/
def Memory.pending (lookup : String → Option String) : Memory Pending where
  read name held :=
    match held.visible.lookup name with
    | some value => .ok value
    | none => numberOf name (lookup name)
  write name value held :=
    { writes := held.writes ++ [(name, value)], visible := (name, value) :: held.visible }
  fork before held := { held with visible := before.visible }
  join before held :=
    { held with visible := (held.writes.drop before.writes.length).reverse ++ before.visible }

/-- The value of an expression with so many levels of nesting allowed, and the assignments it makes. -/
def evaluateWithin (levels : Nat) (lookup : String → Option String) (text : String) :
    Except Error Result := do
  let (value, held) ← evaluateText (.pending lookup) levels text {}
  return ⟨value, held.writes⟩

/-- The value of an expression in a scope, and the assignments it makes. -/
def evaluate (scope : Scope) (text : String) : Except Error Result :=
  evaluateWithin maxNesting (fun name => scope.get? name) text

/-- A scope with assignments made in it, in order. -/
def commit (writes : List (String × Int64)) (scope : Scope) : Scope :=
  writes.foldl (fun scope entry => scope.set entry.1 (Numeral.render entry.2)) scope

/-- Evaluates an expression in a scope. The assignments are made only if it has a value. -/
def perform (text : String) (scope : Scope) : Except Error Int64 × Scope :=
  match evaluate scope text with
  | .ok result => (.ok result.value, commit result.writes scope)
  | .error error => (.error error, scope)

end Shell.Arith
