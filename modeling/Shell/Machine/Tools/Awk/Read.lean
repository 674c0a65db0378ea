import Shell.Machine.Tools.Awk.Scan

/-! # Reading programs for records

How the tokens of a program make up expressions, statements and rules. Of the operators those that calculate bind
more than those that put texts together, and these more than comparisons; a slot of a `print` statement holds no
comparison with a greater value, because that sign names a file there.
-/

namespace Shell.Machine.Awk

/-- A variable that a function is given as an argument. -/
structure Handover where
  function : String
  place : Nat
  variable_ : Variable
  /-- The function that the call is a part of. -/
  caller : Option String
deriving Repr, Inhabited

/-- How far the reading of a program is. -/
structure Reading where
  rest : List Lexeme
  /-- How many parentheses are open. -/
  parens : Nat := 0
  braces : Nat := 0
  /-- Whether what is read is to be written. -/
  printing : Bool := false
  loops : Nat := 0
  /-- The function that is being read and its parameters. -/
  function : Option String := none
  parameters : List String := []
  /-- Whether the rule that is being read is about records. -/
  aboutRecords : Bool := false
  /-- Which names that the whole program knows stand for arrays, and which do not. -/
  kinds : List (String × Bool) := []
  /-- The parameters that are used as arrays. -/
  arrays : List (String × Nat) := []
  handovers : List Handover := []
  /-- The calls of functions: the line, the name and the number of arguments. -/
  calls : List (Nat × String × Nat) := []
  /-- The names that are known to be those of functions. -/
  functions : List String := []
  ranges : Nat := 0

/-- Reports about a program, the first one first. -/
structure Fault where
  reports : List String
deriving Repr, Inhabited

/-- Reads a part of a program. -/
abbrev ReadM := StateT Reading (Except Fault)

namespace ReadM

def next : ReadM Token := do
  return ((← get).rest.head?.map Lexeme.token).getD .end_

/-- The line of the next token. -/
def line : ReadM Nat := do
  return ((← get).rest.head?.map Lexeme.line).getD 1

/-- Goes past the next token. -/
def advance : ReadM Unit :=
  modify fun reading => { reading with rest := reading.rest.drop 1 }

def refuseAt {α : Type} (line : Nat) (report : String) : ReadM α :=
  throw ⟨["line " ++ toString line ++ ": " ++ report]⟩

/-- Refuses the program with a report about the line of the next token. -/
def refuse {α : Type} (report : String) : ReadM α := do
  refuseAt (← line) report

/-- Refuses the program because of the next token. -/
def unexpected {α : Type} : ReadM α := do
  let reading ← get
  let token ← next
  match token with
  | .bad report =>
    if report.startsWith "unexpected" then throw ⟨[toString (← line) ++ ": " ++ report]⟩ else refuse report
  | .sign ")" => if reading.parens = 0 then refuse "extra ')'" else refuse "syntax error at or near )"
  | .end_ =>
    refuse (if 0 < reading.braces then "missing \x7d near end of file" else "syntax error at or near end of file")
  | .sign "\x7d" =>
    if reading.braces = 0 then
      let start := "line " ++ toString (← line) ++ ": "
      throw ⟨[start ++ "extra '\x7d'", start ++ "syntax error at or near end of line"]⟩
    if 0 < reading.parens then refuse "missing ) near \x7d"
    refuse "syntax error at or near \x7d"
  | .word word =>
    if 0 < reading.braces && (word = "BEGIN" || word = "END") then
      let start := "line " ++ toString (← line) ++ ": "
      throw ⟨[start ++ "missing \x7d near " ++ word, start ++ "extra '\x7d'"]⟩
    refuse ("syntax error at or near " ++ word)
  | .sign ";" | .newline =>
    refuse ((if 0 < reading.parens then "missing ) near " else "syntax error at or near ") ++ token.shown)
  | _ => refuse ("syntax error at or near " ++ token.shown)

/-- Whether the next token is a sign. -/
def isSign (sign : String) : ReadM Bool := do
  return match ← next with
    | .sign other => other = sign
    | _ => false

/-- Whether the next token is a word with a meaning. -/
def isWord (word : String) : ReadM Bool := do
  return match ← next with
    | .word other => other = word
    | _ => false

/-- Goes past a sign, if it comes next. -/
def skipSign (sign : String) : ReadM Bool := do
  let found ← isSign sign
  if found then advance
  return found

/-- Goes past a sign, which has to come next. -/
def expectSign (sign : String) : ReadM Unit := do
  if ← isSign sign then advance else unexpected

/-- Goes past line breaks. -/
def skipBreaks : ReadM Unit :=
  modify fun reading => { reading with rest := reading.rest.dropWhile fun lexeme => lexeme.token matches .newline }

def openParen : ReadM Unit := do
  expectSign "("
  modify fun reading => { reading with parens := reading.parens + 1 }

def closeParen : ReadM Unit := do
  expectSign ")"
  modify fun reading => { reading with parens := reading.parens - 1 }

/-- How many tokens are left. -/
def size : ReadM Nat := do
  return (← get).rest.length

/-! ## Names -/

def variableOf (name : String) : ReadM Variable := do
  return match (← get).parameters.idxOf? name with
    | some index => .parameter index
    | none => .global name

/-- Notes whether a variable is an array. It cannot be both. -/
def useAs (isArray : Bool) (variable_ : Variable) (line : Nat) : ReadM Unit := do
  let reading ← get
  match variable_ with
  | .parameter index =>
    if isArray then
      let used := (reading.function.getD "", index)
      if !reading.arrays.contains used then set { reading with arrays := used :: reading.arrays }
  | .global name =>
    match reading.kinds.lookup name with
    | none => set { reading with kinds := (name, isArray) :: reading.kinds }
    | some known =>
      if known ≠ isArray then
        refuseAt line ("illegal reference to " ++ (if known then "array " else "variable ") ++ name)

def readName : ReadM String := do
  match ← next with
  | .name name =>
    advance
    return name
  | _ => unexpected

def readArray : ReadM Variable := do
  let line ← line
  let array ← variableOf (← readName)
  useAs true array line
  return array

/-! ## Operands -/

/-- Reads expressions with commas between them. -/
def readItems (expr : ReadM Expr) : Nat → ReadM (List Expr)
  | 0 => unexpected
  | fuel + 1 => do
    let first ← expr
    if ← skipSign "," then
      skipBreaks
      return first :: (← readItems expr fuel)
    else return [first]

/-- Reads the subscripts of an element, from the bracket on. -/
def readSubscripts (expr : ReadM Expr) : ReadM (List Expr) := do
  expectSign "["
  let items ← readItems expr (← size)
  expectSign "]"
  return items

/-- Reads a variable or an element. -/
def readVariable (expr : ReadM Expr) : ReadM Expr := do
  let line ← line
  let found ← variableOf (← readName)
  if ← isSign "[" then
    useAs true found line
    return .element found (← readSubscripts expr)
  else
    useAs false found line
    return .variable_ found

/-- Reads an argument of a function. A name by itself may be that of an array. -/
def readArgument (expr : ReadM Expr) (function : String) (place : Nat) : ReadM Expr := do
  let reading ← get
  match reading.rest with
  | ⟨.name name, _⟩ :: ⟨.sign sign, _⟩ :: _ =>
    if sign = "," || sign = ")" then
      let found ← variableOf name
      advance
      modify fun reading =>
        { reading with handovers := ⟨function, place, found, reading.function⟩ :: reading.handovers }
      return .variable_ found
    else expr
  | _ => expr

/-- Reads the arguments of a function, up to the parenthesis. -/
def readArguments (expr : ReadM Expr) (function : String) : Nat → Nat → ReadM (List Expr)
  | 0, _ => unexpected
  | fuel + 1, place => do
    let first ← readArgument expr function place
    if ← skipSign "," then
      skipBreaks
      return first :: (← readArguments expr function fuel (place + 1))
    else return [first]

def readCall (expr : ReadM Expr) (name : String) : ReadM Expr := do
  let line ← line
  advance
  modify fun reading => { reading with functions := name :: reading.functions }
  openParen
  let arguments ← if ← isSign ")" then pure [] else readArguments expr name (← size) 0
  closeParen
  modify fun reading => { reading with calls := (line, name, arguments.length) :: reading.calls }
  return .call name arguments

/-- Reads the call of a function that is there from the beginning. -/
def readBuiltin (expr : ReadM Expr) (name : String) : ReadM Expr := do
  let some (builtin, least, most) := builtins.lookup name
    | unexpected
  advance
  if builtin = .length && !(← isSign "(") then return .builtin builtin []
  openParen
  let arguments ←
    if ← isSign ")" then pure []
    else if builtin = .split then do
      let text ← expr
      expectSign ","
      skipBreaks
      let array ← readArray
      let more ← if ← skipSign "," then do
          skipBreaks
          pure [← expr]
        else pure []
      pure (text :: .variable_ array :: more)
    else if builtin = .length then do
      match (← get).rest with
      | ⟨.name name, _⟩ :: ⟨.sign ")", _⟩ :: _ =>
        advance
        pure [.variable_ (← variableOf name)]
      | _ => pure [← expr]
    else readItems expr (← size)
  let count := arguments.length
  if count < least || most < count then
    if [.split, .search, .replaceFirst, .replaceAll].contains builtin then unexpected
    refuse ("wrong number of arguments in call to " ++ name)
  if builtin = .replaceFirst || builtin = .replaceAll then
    if arguments[2]?.any fun target => !target.isTarget then unexpected
  closeParen
  return .builtin builtin arguments

/-- The operand of a dollar sign, given how operands are read. -/
def readIndex (operand factor : ReadM Expr) : ReadM Expr := do
  match (← get).rest with
  | ⟨.name "NF", _⟩ :: ⟨.sign "++", _⟩ :: _ =>
    let target ← operand
    advance
    return .step target .add false
  | ⟨.name "NF", _⟩ :: ⟨.sign "--", _⟩ :: _ =>
    let target ← operand
    advance
    return .step target .subtract false
  | ⟨.sign sign, _⟩ :: _ => if ["-", "+", "!", "++", "--"].contains sign then factor else operand
  | _ => operand

/-- Reads where a line is put, if that is said. -/
def readTarget? (operand : ReadM Expr) : ReadM (Option Expr) := do
  match ← next with
  | .name _ => return some (← operand)
  | .sign "$" => return some (← operand)
  | _ => return none

/-- Reads an operand without operators before or after it. -/
def readOperand (expr factor : ReadM Expr) : Nat → ReadM Expr
  | 0 => unexpected
  | fuel + 1 => do
    let operand := readOperand expr factor fuel
    match ← next with
    | .number value _ =>
      advance
      return .number value
    | .text text =>
      advance
      return .text text
    | .regex text =>
      let line ← line
      advance
      match Expression.read text with
      | .ok regex => return .regex text regex
      | .error fault =>
        refuseAt line ("regular expression compile failed (" ++ fault ++ ")\n" ++ text)
    | .name name =>
      let reading ← get
      if reading.functions.contains name && !reading.parameters.contains name then readCall expr name
      else readVariable expr
    | .caller name =>
      if (← get).parameters.contains name then
        advance
        return .variable_ (← variableOf name)
      else readCall expr name
    | .builtin name => readBuiltin expr name
    | .sign "$" =>
      advance
      return .field (← readIndex operand factor)
    | .sign "(" =>
      openParen
      let items ← readItems expr (← size)
      closeParen
      if items.length = 1 then return .list items
      if ← isWord "in" then
        advance
        return .contains (← readArray) items
      let reading ← get
      match ← next with
      | .sign ";" | .newline | .sign "\x7d" | .sign ">" | .sign ">>" | .sign "|" =>
        if reading.printing && reading.parens = 0 then return .list items else unexpected
      | _ => unexpected
    | .word "getline" =>
      advance
      let target ← readTarget? operand
      if ← skipSign "<" then return .readLine .file (some (← operand)) target
      return .readLine .records none target
    | _ => unexpected

/-- Reads the commands before and after `getline` that lines are read from. -/
def readPipes (operand : ReadM Expr) : Nat → Expr → ReadM Expr
  | 0, left => return left
  | fuel + 1, left => do
    let reading ← get
    if reading.printing && reading.parens = 0 then return left
    match reading.rest with
    | ⟨.sign "|", _⟩ :: ⟨.word "getline", _⟩ :: _ =>
      advance
      advance
      readPipes operand fuel (.readLine .command (some left) (← readTarget? operand))
    | _ => return left

/-- Reads an operand with the operators right before and after it. -/
def readFactor (expr : ReadM Expr) : Nat → ReadM Expr
  | 0 => unexpected
  | fuel + 1 => do
    let factor := readFactor expr fuel
    let operand := readOperand expr factor (fuel + 1)
    let stepped (calculation : Calculation) : ReadM Expr := do
      advance
      let target ← operand
      if target.isTarget then return .step target calculation true else unexpected
    match ← next with
    | .sign "!" =>
      advance
      return .not (← factor)
    | .sign "-" =>
      advance
      return .negate (← factor)
    | .sign "+" =>
      advance
      return .positive (← factor)
    | _ =>
      let base ← match ← next with
        | .sign "++" => stepped .add
        | .sign "--" => stepped .subtract
        | _ => do
          let found ← operand
          if !found.isTarget then pure found
          else if ← skipSign "++" then pure (.step found .add false)
          else if ← skipSign "--" then pure (.step found .subtract false)
          else pure found
      let base ← if ← skipSign "^" then do pure (.calculate .power base (← factor)) else pure base
      readPipes operand (fuel + 1) base

/-! ## Operators -/

/-- Reads operands with operators between them that bind equally, from left to right. -/
def readLeft (operand : ReadM Expr) (operator? : Token → Option (Expr → Expr → Expr)) :
    Nat → Expr → ReadM Expr
  | 0, left => return left
  | fuel + 1, left => do
    match operator? (← next) with
    | none => return left
    | some combine =>
      advance
      readLeft operand operator? fuel (combine left (← operand))

def readLevel (operand : ReadM Expr) (operator? : Token → Option (Expr → Expr → Expr)) : ReadM Expr := do
  let first ← operand
  readLeft operand operator? (← size) first

/-- What a sign calculates. -/
def calculationOf (table : List (String × Calculation)) : Token → Option (Expr → Expr → Expr)
  | .sign sign => (table.lookup sign).map Expr.calculate
  | _ => none

/-- True when an operand can begin with a token, so that it is put together with one before it. -/
def beginsOperand : Token → Bool
  | .number _ _ | .text _ | .regex _ | .name _ | .caller _ | .builtin _ => true
  | .sign sign => ["(", "$", "!", "++", "--"].contains sign
  | .word word => word = "getline"
  | _ => false

/-- Reads texts that are put together. -/
def readJoined (operand : ReadM Expr) : Nat → Expr → ReadM Expr
  | 0, left => return left
  | fuel + 1, left => do
    if beginsOperand (← next) then readJoined operand fuel (.join left (← operand)) else return left

/-- The signs that assign, and what they calculate. -/
def assignments : List (String × Option Calculation) := [
  ("=", none), ("+=", some .add), ("-=", some .subtract), ("*=", some .multiply), ("/=", some .divide),
  ("%=", some .remainder), ("^=", some .power)]

/-- Reads an assignment, or texts that are put together. -/
def readAssigned (expr operand : ReadM Expr) : ReadM Expr := do
  let first ← operand
  let left ← readJoined operand (← size) first
  match ← next with
  | .sign sign =>
    match assignments.lookup sign with
    | none => return left
    | some calculation =>
      if !left.isTarget then unexpected
      advance
      return .assign left calculation (← expr)
  | _ => return left

/-- What a sign compares. -/
def comparisonOf (greater : Bool) : Token → Option (Expr → Expr → Expr)
  | .sign "<" => some (.compare .less)
  | .sign "<=" => some (.compare .lessOrEqual)
  | .sign "==" => some (.compare .equal)
  | .sign "!=" => some (.compare .different)
  | .sign ">" => if greater then some (.compare .greater) else none
  | .sign ">=" => some (.compare .greaterOrEqual)
  | _ => none

/-- What a sign matches. -/
def matchOf : Token → Option (Expr → Expr → Expr)
  | .sign "~" => some (.matches false)
  | .sign "!~" => some (.matches true)
  | _ => none

/-- Reads the arrays that an operand is looked for in. -/
def readContainers : Nat → Expr → ReadM Expr
  | 0, left => return left
  | fuel + 1, left => do
    if ← isWord "in" then
      advance
      let array ← readArray
      readContainers fuel (.contains array [left])
    else return left

/-- Reads operands with an operator between them after which there may be line breaks. -/
def readLogic (operand : ReadM Expr) (sign : String) (combine : Expr → Expr → Expr) :
    Nat → Expr → ReadM Expr
  | 0, left => return left
  | fuel + 1, left => do
    if ← skipSign sign then
      skipBreaks
      readLogic operand sign combine fuel (combine left (← operand))
    else return left

def readExpr : Nat → ReadM Expr
  | 0 => unexpected
  | fuel + 1 => do
    let expr := readExpr fuel
    let product := readLevel (readFactor expr (← size))
      (calculationOf [("*", .multiply), ("/", .divide), ("%", .remainder)])
    let sum := readLevel product (calculationOf [("+", .add), ("-", .subtract)])
    let assigned := readAssigned expr sum
    let compared : ReadM Expr := do
      let reading ← get
      readLevel assigned (comparisonOf !(reading.printing && reading.parens = 0))
    let matched := readLevel compared matchOf
    let contained : ReadM Expr := do
      let first ← matched
      readContainers (← size) first
    let both : ReadM Expr := do
      let first ← contained
      readLogic contained "&&" .and (← size) first
    let first ← both
    let condition ← readLogic both "||" .or (← size) first
    if ← skipSign "?" then
      let yes ← expr
      expectSign ":"
      return .choose condition yes (← expr)
    else return condition

/-- Reads an expression that may be as deep as there are tokens. -/
def readWhole : ReadM Expr := do
  readExpr ((← size) + 1)

/-! ## Statements -/

def endStatement : ReadM Unit := do
  match ← next with
  | .sign ";" => advance
  | .newline => advance
  | .sign "\x7d" => if 0 < (← get).parens then unexpected
  | .sign "|" =>
    advance
    unexpected
  | _ => unexpected

/-- What output is to go to, if that is said. -/
def readDirection : ReadM (Option (Direction × Expr)) := do
  modify fun reading => { reading with printing := false }
  match ← next with
  | .sign ">" =>
    advance
    return some (.file, ← readWhole)
  | .sign ">>" =>
    advance
    return some (.end_, ← readWhole)
  | .sign "|" =>
    advance
    return some (.command, ← readWhole)
  | _ => return none

/-- Reads what is to be written, and where to. -/
def readOutput : ReadM (List Expr × Option (Direction × Expr)) := do
  modify fun reading => { reading with printing := true }
  let items ← match ← next with
    | .sign ";" | .newline | .sign "\x7d" | .sign ">" | .sign ">>" | .sign "|" => pure []
    | _ => readItems readWhole (← size)
  let items := match items with
    | [.list inner] => inner
    | items => items
  return (items, ← readDirection)

def readCondition : ReadM Expr := do
  openParen
  let condition ← readWhole
  closeParen
  return condition

def readStatements (statement : ReadM Statement) : Nat → ReadM (List Statement)
  | 0 => unexpected
  | fuel + 1 => do
    skipBreaks
    if ← isSign "\x7d" then
      advance
      modify fun reading => { reading with braces := reading.braces - 1 }
      return []
    let first ← statement
    return first :: (← readStatements statement fuel)

def readBlock (statement : ReadM Statement) : ReadM (List Statement) := do
  expectSign "\x7b"
  modify fun reading => { reading with braces := reading.braces + 1 }
  readStatements statement (← size)

/-- Reads a statement that is done again and again. -/
def readBody (statement : ReadM Statement) : ReadM Statement := do
  skipBreaks
  modify fun reading => { reading with loops := reading.loops + 1 }
  let body ← statement
  modify fun reading => { reading with loops := reading.loops - 1 }
  return body

/-- Reads an expression, unless a sign comes next. -/
def readUnless (sign : String) : ReadM (Option Expr) := do
  if ← isSign sign then return none else return some (← readWhole)

/-- Reads a loop with a head of three parts, or one over the keys of an array. -/
def readFor (statement : ReadM Statement) : ReadM Statement := do
  openParen
  match (← get).rest with
  | ⟨.name key, line⟩ :: ⟨.word "in", _⟩ :: ⟨.name array, _⟩ :: ⟨.sign ")", _⟩ :: _ =>
    let key ← variableOf key
    useAs false key line
    let array ← variableOf array
    useAs true array line
    advance
    advance
    advance
    closeParen
    return .forEach key array (← readBody statement)
  | _ =>
    let first ← readUnless ";"
    expectSign ";"
    let condition ← readUnless ";"
    expectSign ";"
    skipBreaks
    let update ← readUnless ")"
    closeParen
    let loop := Statement.for_ condition update (← readBody statement)
    return match first with
      | some first => .block [.expr first, loop]
      | none => loop

def readDeletion : ReadM Statement := do
  let array ← readArray
  if ← isSign "[" then return .delete array (some (← readSubscripts readWhole)) else return .delete array none

/-- Reads a value, unless the statement ends before it. -/
def readValue? : ReadM (Option Expr) := do
  match ← next with
  | .sign ";" | .newline | .sign "\x7d" => return none
  | _ => return some (← readWhole)

/-- Reads a statement that begins with a word, which has been read, and its end. -/
def readSimple (word : String) : ReadM Statement := do
  let reading ← get
  let statement : Statement ← match word with
    | "print" => do
      let (items, direction) ← readOutput
      pure (.print items direction)
    | "printf" => do
      let (items, direction) ← readOutput
      if items.isEmpty then unexpected
      pure (.printFormat items direction)
    | "delete" => readDeletion
    | "exit" => do pure (.exit (← readValue?))
    | "return" => do
      if reading.function.isNone then refuse "return outside function body"
      pure (.return_ (← readValue?))
    | "break" => do
      if reading.loops = 0 then refuse "break statement outside of loop"
      pure .break_
    | "continue" => do
      if reading.loops = 0 then refuse "continue statement outside of loop"
      pure .continue_
    | "next" => do
      if !reading.aboutRecords then refuse "improper use of next"
      pure .next
    | _ => do
      if !reading.aboutRecords then refuse "improper use of nextfile"
      pure .nextFile
  endStatement
  return statement

def readStatement : Nat → ReadM Statement
  | 0 => unexpected
  | fuel + 1 => do
    let statement := readStatement fuel
    match ← next with
    | .sign "\x7b" => return .block (← readBlock statement)
    | .sign ";" =>
      advance
      return .block []
    | .word "if" =>
      advance
      let condition ← readCondition
      skipBreaks
      let yes ← statement
      let before ← get
      skipBreaks
      if ← isWord "else" then
        advance
        skipBreaks
        return .ifElse condition yes (some (← statement))
      set before
      return .ifElse condition yes none
    | .word "while" =>
      advance
      let condition ← readCondition
      return .while_ condition (← readBody statement)
    | .word "do" =>
      advance
      let body ← readBody statement
      skipBreaks
      if !(← isWord "while") then unexpected
      advance
      let condition ← readCondition
      endStatement
      return .doWhile body condition
    | .word "for" =>
      advance
      readFor statement
    | .word word =>
      if ["print", "printf", "delete", "exit", "return", "break", "continue", "next", "nextfile"].contains word then
        advance
        readSimple word
      else if word = "getline" then
        let found ← readWhole
        endStatement
        return .expr found
      else unexpected
    | _ =>
      let found ← readWhole
      endStatement
      return .expr found

/-! ## Rules -/

/-- Reads the block of a rule. One semicolon may follow it. -/
def readRuleBlock : ReadM Statement := do
  let body ← readBlock (readStatement ((← size) + 1))
  discard (skipSign ";")
  return .block body

/-- Reads the names of parameters, up to the parenthesis. -/
def readParameters : Nat → List String → ReadM (List String)
  | 0, _ => unexpected
  | fuel + 1, sofar => do
    let name ← readName
    if sofar.contains name then refuse (name ++ " is duplicated in argument list")
    let sofar := sofar ++ [name]
    if ← skipSign "," then
      skipBreaks
      readParameters fuel sofar
    else return sofar

/-- Reads a function, after the word that begins it. -/
def readFunction (known : List String) : ReadM (String × Function) := do
  let name ← match ← next with
    | .name name | .caller name => pure name
    | _ => unexpected
  if known.contains name then refuse ("redefinition of " ++ name)
  advance
  expectSign "("
  let parameters ← if ← isSign ")" then pure [] else readParameters (← size) []
  expectSign ")"
  skipBreaks
  modify fun reading =>
    { reading with
      function := some name, parameters, aboutRecords := false, functions := name :: reading.functions }
  let body ← readBlock (readStatement ((← size) + 1))
  discard (skipSign ";")
  modify fun reading => { reading with function := none, parameters := [] }
  return (name, { parameters, body })

def readRule : ReadM Rule := do
  let about (records : Bool) : ReadM Unit := modify fun reading => { reading with aboutRecords := records }
  match ← next with
  | .word "BEGIN" =>
    advance
    about false
    return ⟨.begin_, some (← readRuleBlock)⟩
  | .word "END" =>
    advance
    about false
    return ⟨.end_, some (← readRuleBlock)⟩
  | .sign "\x7b" =>
    about true
    return ⟨.always, some (← readRuleBlock)⟩
  | _ =>
    about true
    let first ← readWhole
    let pattern ← if ← skipSign "," then do
        skipBreaks
        let last ← readWhole
        let number := (← get).ranges
        modify fun reading => { reading with ranges := number + 1 }
        pure (Pattern.range number first last)
      else pure (Pattern.when first)
    if ← isSign "\x7b" then return ⟨pattern, some (← readRuleBlock)⟩
    match ← next with
    | .sign ";" | .newline => advance
    | .end_ => pure ()
    | _ => unexpected
    return ⟨pattern, none⟩

def readRules : Nat → Program → ReadM Program
  | 0, program => return program
  | fuel + 1, program => do
    skipBreaks
    match ← next with
    | .end_ => return program
    | .word "function" =>
      advance
      let function ← readFunction (program.functions.map (·.1))
      readRules fuel { program with functions := program.functions ++ [function] }
    | _ =>
      let rule ← readRule
      readRules fuel { program with rules := program.rules ++ [rule] }

/-- The parameters that are arrays because functions that they are handed over to use them so. -/
def spreadArrays (handovers : List Handover) : Nat → List (String × Nat) → List (String × Nat)
  | 0, known => known
  | fuel + 1, known =>
    let more := handovers.filterMap fun handover =>
      match handover.variable_, handover.caller with
      | .parameter index, some caller =>
        if known.contains (handover.function, handover.place) && !known.contains (caller, index) then
          some (caller, index)
        else none
      | _, _ => none
    if more.isEmpty then known else spreadArrays handovers fuel (known ++ more.eraseDups)

/-- The variables that are there from the beginning, and which of them are arrays. -/
def knownVariables : List (String × Bool) :=
  [("ARGV", true), ("ENVIRON", true)] ++
    ["NR", "FNR", "ARGC", "FILENAME", "NF", "FS", "OFS", "ORS", "RS", "RSTART", "RLENGTH", "SUBSEP", "CONVFMT",
      "OFMT"].map (·, false)

def readProgram : ReadM Program := do
  let program ← readRules (← size) {}
  let reading ← get
  for (line, name, count) in reading.calls.reverse do
    match program.functions.lookup name with
    | none => refuse ("function " ++ name ++ " never defined")
    | some function =>
      if function.parameters.length < count then refuseAt line ("too many arguments in call to " ++ name)
  let arrays := spreadArrays reading.handovers (reading.handovers.length + 1) reading.arrays
  let functions := program.functions.map fun (name, function) =>
    (name, { function with arrays := arrays.filterMap fun (other, place) => if other = name then some place else none })
  return { program with functions }

end ReadM

/-- The program that a text is, or what is wrong with it. -/
def Program.read (text : String) : Except Fault Program :=
  let text := if text.endsWith "\n" then text else text ++ "\n"
  let rest := scan (text.length + 1) 1 .newline text.toList
  (ReadM.readProgram.run { rest, kinds := ReadM.knownVariables }).map (·.1)

end Shell.Machine.Awk
