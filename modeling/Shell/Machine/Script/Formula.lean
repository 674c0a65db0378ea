import Shell.Machine.Script.Elements
import Shell.Text.Space

/-! # Formulas

The arithmetic of the extended dialect. Numbers have 64 bits and wrap around, and may be written in any base up to 64.
The text of a variable counts as a formula again, and variables and elements of arrays can be set and counted up or
down.
-/

namespace Shell.Machine.Script.Formula

/-- What can be given a value: a variable or an element of an array. -/
structure Place where
  name : String
  subscript : Option String := none
deriving Repr, DecidableEq, Inhabited

/-- A symbol of a formula. -/
inductive Symbol where
  | number (value : Int64)
  | place (place : Place)
  /-- Counts a place up or down, before its value is taken or after that. -/
  | step (up before : Bool)
  | operator (text : String)
  | finish
deriving Repr, DecidableEq, Inhabited

/-- Why a formula has no value. -/
inductive Fault where
  | report (text : String)
  /-- A variable that had to be set. -/
  | unbound (name : String)
deriving Repr, DecidableEq, Inhabited

/-- What is being evaluated. -/
structure Progress where
  /-- The whole formula. -/
  text : List Char
  /-- What follows the current symbol. -/
  rest : List Char
  /-- The formula from the current symbol on, which reports show. -/
  start : List Char := []
  symbol : Symbol := .finish
  /-- Whether a symbol has been read. -/
  begun : Bool := false
  state : State

/-- Evaluates parts of a formula. -/
abbrev Eval := StateT Progress (Except Fault)

/-- True for what separates symbols. -/
def isBlank (c : Char) : Bool :=
  c = ' ' || c = '\t' || c = '\n' || c = '\r'

/-- What is reported about a formula. -/
def reportText (text start : List Char) (report : String) : String :=
  String.ofList (text.dropWhile isBlank) ++ ": " ++ report ++ " (error token is \"" ++ String.ofList start ++ "\")"

def refuse {α : Type} (report : String) : Eval α := do
  let progress ← get
  throw (.report (reportText progress.text progress.start report))

/-! ## Symbols -/

def digit? (base : Nat) (c : Char) : Option Nat :=
  if c.isDigit then some (c.toNat - '0'.toNat)
  else if 'a' ≤ c && c ≤ 'z' then some (c.toNat - 'a'.toNat + 10)
  else if 'A' ≤ c && c ≤ 'Z' then some (c.toNat - 'A'.toNat + (if base ≤ 36 then 10 else 36))
  else if c = '@' then some 62
  else if c = '_' then some 63
  else none

/-- The value of digits, or what is wrong with them. -/
def digits (base : Nat) : Int64 → List Char → Except String Int64
  | value, [] => .ok value
  | value, c :: rest =>
    match digit? base c with
    | none => .error "invalid number"
    | some digit =>
      if base ≤ digit then .error "value too great for base"
      else digits base (value * Int64.ofNat base + Int64.ofNat digit) rest

/-- The number that a text is, or what is wrong with it. -/
def numberOf (text : List Char) : Except String Int64 :=
  match text with
  | ['0'] => .ok 0
  | '0' :: x :: rest =>
    if rest.contains '#' then .error "invalid number"
    else if x = 'x' || x = 'X' then digits 16 0 rest
    else digits 8 0 (x :: rest)
  | _ =>
    let (first, rest) := text.span (· ≠ '#')
    match rest with
    | [] => digits 10 0 text
    | _ :: rest =>
      match digits 10 0 first with
      | .error report => .error report
      | .ok base =>
        if base < 2 || 64 < base then .error "invalid arithmetic base"
        else if rest.isEmpty then .error "invalid integer constant"
        else if rest.contains '#' then .error "invalid number"
        else digits base.toNatClampNeg 0 rest

/-- The length of the text up to a bracket that closes another one. -/
def bracketLength? : Nat → List Char → Option Nat
  | _, [] => none
  | depth, c :: rest =>
    if c = ']' && depth = 0 then some 0
    else
      (bracketLength? (if c = '[' then depth + 1 else if c = ']' then depth - 1 else depth) rest).map (· + 1)

/-- The operators, one that begins with another before the shorter one. -/
def operators : List String := [
  "==", "!=", ">=", "<=", "<<=", "<<", ">>=", ">>", "&&", "||", "**", "*=", "/=", "%=", "+=", "-=", "&=", "^=", "|=",
  "=", ">", "<", "+", "-", "*", "/", "%", "!", "(", ")", "&", "|", "^", "~", "?", ":", ","]

/-- Makes something the current symbol. -/
def accept (symbol : Symbol) (start rest : List Char) : Eval Unit :=
  modify fun progress => { progress with symbol, start, rest, begun := true }

/-- Goes on to the next symbol. -/
def advance : Eval Unit := do
  let progress ← get
  let start := progress.rest.dropWhile isBlank
  match start with
  | [] => set { progress with symbol := .finish, rest := [], begun := true }
  | c :: rest =>
    if Name.isStart c then
      let (name, rest) := start.span Name.isPart
      match rest with
      | '[' :: inner =>
        match bracketLength? 0 inner with
        | some length =>
          let subscript := String.ofList (inner.take length)
          accept (.place { name := String.ofList name, subscript := some subscript }) start (inner.drop (length + 1))
        | none =>
          set { progress with start }
          refuse "bad array subscript"
      | _ => accept (.place { name := String.ofList name }) start rest
    else if c.isDigit then
      let (text, rest) := start.span fun d => d.isAlphanum || d = '#' || d = '@' || d = '_'
      match numberOf text with
      | .ok value => accept (.number value) start rest
      | .error report =>
        let upTo := progress.text.take (progress.text.length - rest.length)
        throw (.report (reportText upTo text report))
    else
      let isStep := (c = '+' || c = '-') && rest.head? = some c
      let named := ((rest.drop 1).dropWhile isBlank).head?.any Name.isStart
      match isStep, progress.symbol with
      | true, .place _ => accept (.step (c = '+') false) start (rest.drop 1)
      | _, _ =>
        if isStep && named then accept (.step (c = '+') true) start (rest.drop 1)
        else
          let found := if isStep then some (String.singleton c, rest) else
            operators.findSome? fun operator => (Text.after? operator.toList start).map (operator, ·)
          match found with
          | some (operator, rest) => accept (.operator operator) start rest
          | none =>
            set { progress with start }
            match progress.symbol with
            | .number _ | .place _ => refuse "syntax error: invalid arithmetic operator"
            | .operator _ | .step _ _ | .finish => refuse "syntax error: operand expected"

/-- The operator that is the current symbol. -/
def operator? : Eval (Option String) := do
  match (← get).symbol with
  | .operator text => return some text
  | _ => return none

/-- The symbol that comes next. -/
def following : Eval Symbol := do
  let progress ← get
  advance
  let symbol := (← get).symbol
  set progress
  return symbol

/-! ## Values -/

/-- So deep may formulas stand in the values of variables. -/
def maxDepth : Nat := 1024

/-- One for true and zero for false. -/
def ofBool (truth : Bool) : Int64 := if truth then 1 else 0

/-- How loosely an operator between two numbers binds. -/
def looseness? : String → Option Nat
  | "*" | "/" | "%" => some 0
  | "+" | "-" => some 1
  | "<<" | ">>" => some 2
  | "<" | "<=" | ">" | ">=" => some 3
  | "==" | "!=" => some 4
  | "&" => some 5
  | "^" => some 6
  | "|" => some 7
  | _ => none

/-- What an operator makes of two numbers. Nothing is divided by zero. -/
def apply (operator : String) (a b : Int64) : Int64 :=
  match operator with
  | "*" => a * b
  | "/" => a / b
  | "%" => a % b
  | "+" => a + b
  | "-" => a - b
  | "<<" => a <<< b
  | ">>" => a >>> b
  | "<" => ofBool (a < b)
  | "<=" => ofBool (a ≤ b)
  | ">" => ofBool (b < a)
  | ">=" => ofBool (b ≤ a)
  | "==" => ofBool (a == b)
  | "!=" => ofBool (a != b)
  | "&" => a &&& b
  | "^" => a ^^^ b
  | "|" => a ||| b
  | _ => b

def power (base : Int64) : Nat → Int64
  | 0 => 1
  | exponent + 1 =>
    let half := power base ((exponent + 1) / 2)
    if (exponent + 1) % 2 = 0 then half * half else half * half * base
decreasing_by all_goals omega

/-- The operators that give a place a value. -/
def assigning : List String := ["=", "*=", "/=", "%=", "+=", "-=", "<<=", ">>=", "&=", "^=", "|="]

/-- The text of a variable. Asking for a number by chance draws the next one. -/
def textOf (name : String) : Eval (Option String) := do
  let progress ← get
  if name = "RANDOM" then
    let (value, state) := progress.state.draw 4
    set { progress with state }
    return some (toString value)
  else return (progress.state.visible? name).bind Variable.value

mutual

/-- The value of a text. `depth` says how deep formulas may stand in values. -/
def evaluateText : Nat → Nat → String → Eval Int64
  | 0, _, _ => refuse "expression recursion level exceeded"
  | fuel + 1, depth, text => do
    let chars := text.toList
    if (chars.dropWhile isBlank).isEmpty then return 0
    if depth = 0 then refuse "expression recursion level exceeded"
    let outer ← get
    set { outer with text := chars, rest := chars, start := [], symbol := .finish, begun := false }
    advance
    let value ← joined fuel (depth - 1) false
    if (← get).symbol ≠ .finish then refuse "syntax error in expression"
    modify fun inner => { outer with state := inner.state }
    return value
termination_by structural fuel => fuel

/-- The key of an element. The number of an element may count from the end. -/
def keyOf : Nat → Nat → String → String → Eval (Nat ⊕ String)
  | 0, _, _, _ => refuse "expression recursion level exceeded"
  | fuel + 1, depth, name, subscript => do
    let entry := ((← get).state.visible? name).getD { name, value := none }
    if entry.entries.isSome then return .inr subscript
    let index ← evaluateText fuel depth subscript
    match entry.position? index.toInt with
    | some position => return .inl position
    | none => throw (.report (name ++ "[" ++ subscript ++ "]: bad array subscript"))
termination_by structural fuel => fuel

def valueOf : Nat → Nat → Bool → Place → Eval Int64
  | 0, _, _, _ => refuse "expression recursion level exceeded"
  | fuel + 1, depth, skipped, place => do
    if skipped then return 0
    let found : Option String ← match place.subscript with
      | none => textOf place.name
      | some subscript => do
        let key ← keyOf fuel depth place.name subscript
        let entry := ((← get).state.visible? place.name).getD { name := place.name, value := none }
        pure (match key with
          | .inl index => entry.numbered? index
          | .inr key => (entry.entries.getD []).lookup key)
    let state := (← get).state
    match found with
    | some text => evaluateText fuel depth text
    | none =>
      let isSet := (state.visible? place.name).any fun entry => entry.value.isSome || place.subscript.isSome
      if state.hasOption 'u' && !isSet then throw (.unbound place.name)
      return 0
termination_by structural fuel => fuel

/-- Gives a place a value. -/
def store : Nat → Nat → Bool → Place → Int64 → Eval Unit
  | 0, _, _, _, _ => refuse "expression recursion level exceeded"
  | fuel + 1, depth, skipped, place, value => do
    if skipped then return
    let entry := (← get).state.entryToChange place.name
    if entry.readOnly then throw (.report (place.name ++ ": readonly variable"))
    let text := toString value.toInt
    match place.subscript with
    | none =>
      modify fun progress =>
        { progress with
          state :=
            if place.name = "RANDOM" then
              { progress.state with chance := value.toNatClampNeg % 4294967296, lastDrawn := 0 }
            else progress.state.assign place.name text false }
    | some subscript =>
      match ← keyOf fuel depth place.name subscript with
      | .inl index =>
        modify fun progress => { progress with state := progress.state.assignNumbered place.name index text }
      | .inr key =>
        modify fun progress => { progress with state := progress.state.assignKeyed place.name key text }
termination_by structural fuel => fuel

/-- An operand. `skipped` says that its value does not matter and nothing is to happen. -/
def operand : Nat → Nat → Bool → Eval Int64
  | 0, _, _ => refuse "expression recursion level exceeded"
  | fuel + 1, depth, skipped => do
    match (← get).symbol with
    | .number value =>
      advance
      return value
    | .place place =>
      let value ← valueOf fuel depth skipped place
      advance
      match (← get).symbol with
      | .step up false =>
        store fuel depth skipped place (if up then value + 1 else value - 1)
        modify fun progress => { progress with symbol := .number 0 }
        advance
        return value
      | _ => return value
    | .step up true =>
      advance
      match (← get).symbol with
      | .place place =>
        let old ← valueOf fuel depth skipped place
        let value := if up then old + 1 else old - 1
        store fuel depth skipped place value
        modify fun progress => { progress with symbol := .number 0 }
        advance
        return value
      | _ => refuse "identifier expected after pre-increment or pre-decrement"
    | .operator "(" =>
      advance
      let value ← joined fuel depth skipped
      if (← operator?) ≠ some ")" then refuse "missing \x60)'"
      advance
      return value
    | _ => refuse "syntax error: operand expected"
termination_by structural fuel => fuel

/-- An operand after any number of operators before it. -/
def unary : Nat → Nat → Bool → Eval Int64
  | 0, _, _ => refuse "expression recursion level exceeded"
  | fuel + 1, depth, skipped => do
    match ← operator? with
    | some "!" =>
      advance
      return ofBool ((← unary fuel depth skipped) == 0)
    | some "~" =>
      advance
      return ~~~(← unary fuel depth skipped)
    | some "-" =>
      advance
      return -(← unary fuel depth skipped)
    | some "+" =>
      advance
      unary fuel depth skipped
    | _ => operand fuel depth skipped
termination_by structural fuel => fuel

/-- A number to the power of others. -/
def raised : Nat → Nat → Bool → Eval Int64
  | 0, _, _ => refuse "expression recursion level exceeded"
  | fuel + 1, depth, skipped => do
    let base ← unary fuel depth skipped
    if (← operator?) = some "**" then
      advance
      let exponent ← raised fuel depth skipped
      if exponent < 0 then refuse "exponent less than 0"
      return power base exponent.toNatClampNeg
    else return base
termination_by structural fuel => fuel

/-- Goes on after an operand with operators that bind more tightly than `bound`. -/
def binary : Nat → Nat → Bool → Nat → Int64 → Eval Int64
  | 0, _, _, _, _ => refuse "expression recursion level exceeded"
  | fuel + 1, depth, skipped, bound, left => do
    match ← operator? with
    | none => return left
    | some operator =>
      match looseness? operator with
      | none => return left
      | some looseness =>
        if bound ≤ looseness then return left
        let after := (← get).rest
        advance
        let first ← raised fuel depth skipped
        let right ← binary fuel depth skipped looseness first
        let divides := operator = "/" || operator = "%"
        if divides && right == 0 && !skipped then
          modify fun progress => { progress with start := after.dropWhile isBlank }
          refuse "division by 0"
        binary fuel depth skipped bound (if divides && right == 0 then left else apply operator left right)
termination_by structural fuel => fuel

/-- Values joined by `&&`. -/
def conjunction : Nat → Nat → Bool → Eval Int64
  | 0, _, _ => refuse "expression recursion level exceeded"
  | fuel + 1, depth, skipped => do
    let left ← binary fuel depth skipped 8 (← raised fuel depth skipped)
    conjoined fuel depth skipped left
termination_by structural fuel => fuel

/-- Goes on with `&&` after a value. -/
def conjoined : Nat → Nat → Bool → Int64 → Eval Int64
  | 0, _, _, _ => refuse "expression recursion level exceeded"
  | fuel + 1, depth, skipped, left => do
    if (← operator?) = some "&&" then
      advance
      let inner := skipped || left == 0
      let right ← binary fuel depth inner 8 (← raised fuel depth inner)
      conjoined fuel depth skipped (ofBool (left != 0 && right != 0))
    else return left
termination_by structural fuel => fuel

/-- Values joined by `||`. -/
def disjunction : Nat → Nat → Bool → Eval Int64
  | 0, _, _ => refuse "expression recursion level exceeded"
  | fuel + 1, depth, skipped => do
    let left ← conjunction fuel depth skipped
    disjoined fuel depth skipped left
termination_by structural fuel => fuel

/-- Goes on with `||` after a value. -/
def disjoined : Nat → Nat → Bool → Int64 → Eval Int64
  | 0, _, _, _ => refuse "expression recursion level exceeded"
  | fuel + 1, depth, skipped, left => do
    if (← operator?) = some "||" then
      advance
      let right ← conjunction fuel depth (skipped || left != 0)
      disjoined fuel depth skipped (ofBool (left != 0 || right != 0))
    else return left
termination_by structural fuel => fuel

/-- A choice between two values, or a value. -/
def choice : Nat → Nat → Bool → Eval Int64
  | 0, _, _ => refuse "expression recursion level exceeded"
  | fuel + 1, depth, skipped => do
    let condition ← disjunction fuel depth skipped
    if (← operator?) = some "?" then
      advance
      if (← get).symbol = .finish then refuse "expression expected"
      let yes ← joined fuel depth (skipped || condition == 0)
      if (← operator?) ≠ some ":" then refuse "\x60:' expected for conditional expression"
      advance
      if (← get).symbol = .finish then refuse "expression expected"
      let no ← choice fuel depth (skipped || condition != 0)
      return if condition != 0 then yes else no
    else return condition
termination_by structural fuel => fuel

/-- An assignment, or a value. -/
def assignment : Nat → Nat → Bool → Eval Int64
  | 0, _, _ => refuse "expression recursion level exceeded"
  | fuel + 1, depth, skipped => do
    let target : Option (Place × String) ← match (← get).symbol with
      | .place place => do
        match ← following with
        | .operator operator => pure (if assigning.contains operator then some (place, operator) else none)
        | _ => pure none
      | _ => pure none
    match target with
    | some (place, operator) =>
      let old ← if operator = "=" then pure 0 else valueOf fuel depth skipped place
      advance
      advance
      let right ← assignment fuel depth skipped
      let divides := operator = "/=" || operator = "%="
      if divides && right == 0 && !skipped then refuse "division by 0"
      let value :=
        if operator = "=" then right
        else if divides && right == 0 then old
        else apply ((operator.dropEnd 1).toString) old right
      store fuel depth skipped place value
      return value
    | none =>
      let value ← choice fuel depth skipped
      match ← operator? with
      | some operator =>
        if assigning.contains operator then refuse "attempted assignment to non-variable"
        return value
      | none => return value
termination_by structural fuel => fuel

/-- Values after one another, of which the last one counts. -/
def joined : Nat → Nat → Bool → Eval Int64
  | 0, _, _ => refuse "expression recursion level exceeded"
  | fuel + 1, depth, skipped => do
    let value ← assignment fuel depth skipped
    if (← operator?) = some "," then
      advance
      joined fuel depth skipped
    else return value
termination_by structural fuel => fuel

end

/-- So many steps are enough for any formula. -/
def patience : Nat := 1000000000

/-- The value of a formula, and the state after it. -/
def evaluate (text : String) (state : State) : Except Fault (Int64 × State) :=
  match (evaluateText patience maxDepth text).run { text := [], rest := [], state } with
  | .ok (value, progress) => .ok (value, progress.state)
  | .error fault => .error fault

end Shell.Machine.Script.Formula
