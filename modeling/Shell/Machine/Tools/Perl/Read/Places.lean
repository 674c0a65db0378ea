import Shell.Machine.Tools.Perl.Words

/-! # Reading variables

How variables are written down, and what is taken out of them: elements, entries, and the values of references and
methods.
-/

namespace Shell.Machine.Perl

namespace Reader

/-- The variable that stands in where there is no operand. -/
def usualVariable : Expr := .var ⟨.scalar, "_"⟩

def argumentArray : Expr := .var ⟨.array, "_"⟩

/-- True for characters that alone can be the name of a variable. -/
def isPunctuationName (inText : Bool) (c : Char) : Bool :=
  if inText then "&\x60'+!@/\\,;.0_".contains c else "&\x60'+!@/\\,;.0_()<>[]|\"-:?%=~".contains c

def isTestLetter (c : Char) : Bool := "edfrwxszlpSbctugkoRWXOTBAMC".contains c

/-- The words that stand after an operand and not before one. -/
def betweenTerms : List String :=
  ["if", "unless", "while", "until", "for", "foreach", "and", "or", "xor", "x", "eq", "ne", "lt", "gt", "le", "ge",
    "cmp", "isa"]

/-- True when an operand may begin here. -/
def mayBeginTerm (input : List Char) : Bool :=
  match input with
  | [] => false
  | c :: rest =>
    if isNameStart c then !betweenTerms.contains (nameAhead input)
    else if c.isDigit then true
    else if "=?:|)]\x7d,;*>/^".contains c then false
    else if c = '.' then rest.head?.any Char.isDigit
    else if c = '&' then rest.head? ≠ some '&'
    else if c = '<' then rest.head?.any fun d => d = '$' || d = '<' || d = '>' || d.isUpper
    else if c = '%' then rest.head?.any fun d => d = '$' || d = '\x7b' || isNameStart d
    else if c = '-' || c = '+' then rest.head?.any fun d => d ≠ ' ' && d ≠ '='
    else if c = '!' then rest.head? ≠ some '=' && rest.head? ≠ some '~'
    else true

/-- True when characters look like what is written after `print` past a variable that names where to. -/
def mayFollowHandle (input : List Char) : Bool :=
  match input with
  | c :: rest =>
    if c = ' ' || c = '\t' then
      match rest.dropWhile Char.isWhitespace with
      | c :: _ =>
        "\"'$@\\".contains c || c.isDigit ||
          (isNameStart c && mayBeginTerm (rest.dropWhile Char.isWhitespace))
      | [] => false
    else false
  | [] => false

/-- True when what is between brackets looks like the place of an element. -/
def looksLikeIndex (rest : List Char) : Bool :=
  let inner := rest.takeWhile (· ≠ ']')
  match inner with
  | '-' :: digits => !digits.isEmpty && digits.all Char.isDigit
  | '$' :: c :: _ => isNameStart c || c = '#'
  | digits => !digits.isEmpty && digits.all Char.isDigit

/-- True when what is between braces says how often something is repeated. -/
def looksLikeCount (rest : List Char) : Bool :=
  let inner := rest.takeWhile (· ≠ '\x7d')
  !inner.isEmpty && inner.all fun c => c.isDigit || c = ','

/-- A name between braces and the text after the closing brace, if nothing else is there. -/
def bracedName? (rest : List Char) : Option (String × List Char) :=
  let inner := rest.dropWhile fun c => c = ' '
  let (caret, inner) := match inner with
    | '^' :: inner => (['^'], inner)
    | inner => ([], inner)
  let name := inner.take (nameLength (inner.length + 1) inner)
  match (inner.drop name.length).dropWhile fun c => c = ' ' with
  | '\x7d' :: after => if name.isEmpty then none else some (String.ofList (caret ++ name), after)
  | _ => none

/-- The expressions that make up one value or a list of values. -/
def listOf : List Expr → Expr
  | [item] => item
  | items => .list items

/-- What a list in parentheses consists of. -/
def itemsOf : Expr → List Expr
  | .list items => items
  | item => [item]

/-- The parts of a text as one expression. -/
def joinedParts : List Expr → Expr
  | [] => .text ""
  | [.text text] => .text text
  | parts => .joined parts

/-- A condition of a loop, which ends when there is nothing more to read. -/
def loopCondition : Expr → Expr
  | .readLine handle => .builtin "defined" [.assign .plain usualVariable (.readLine handle)]
  | .glob pattern => .builtin "defined" [.assign .plain usualVariable (.glob pattern)]
  | .assign .plain target value =>
    let isScalar := match target with
      | .var ⟨.scalar, _⟩ | .declare _ [some ⟨.scalar, _⟩] false => true
      | _ => false
    let isRead := match value with
      | .readLine _ | .glob _ | .builtin "readdir" _ | .builtin "readline" _ | .builtin "shift" _ => isScalar
      | .builtin "each" _ => isScalar
      | _ => false
    let ends := match value with
      | .builtin "shift" _ => false
      | _ => isRead
    if ends then .builtin "defined" [.assign .plain target value] else .assign .plain target value
  | condition => condition

/-- The way a text is read. -/
inductive TextKind where
  | text
  | pattern
deriving Repr, DecidableEq

/-- How what is inside of something is read. -/
structure Nested where
  expression : Reader Expr
  /-- Expressions with commas between them. -/
  commas : Reader (List Expr)
  /-- An expression between commas. -/
  assignment : Reader Expr
  /-- Operands with operators between them that bind at least so tightly. -/
  operand : Nat → Reader Expr
  statements : Reader Block

/-- What comes between an opening sign and a closing one: expressions, or nothing. -/
def between (nested : Nested) (close : String) : Reader (List Expr) := do
  if ← take? close then return []
  let value ← nested.expression
  expect close
  return match value with
    | .list items => items
    | item => [item]

/-- What comes between braces, the first of which has been taken. A semicolon may end it. -/
def betweenBraces (nested : Nested) : Reader (List Expr) := do
  if ← take? "\x7d" then return []
  let value ← nested.expression
  discard (take? ";")
  expect "\x7d"
  return itemsOf value

/-- A key between braces, the first of which has been taken. -/
def keyInBraces (nested : Nested) : Reader Expr := do
  let inText := (← get).inText
  modify fun source => { source with inText := false }
  skipSpace
  let input ← ahead
  let (sign, rest) := match input with
    | '-' :: rest => (['-'], rest)
    | rest => ([], rest)
  let name := rest.takeWhile isNamePart
  let after := (rest.drop name.length).dropWhile Char.isWhitespace
  let key ←
    if after.head? = some '\x7d' && name.head?.any isNameStart then do
      mark
      skip (input.length - after.length + 1)
      pure (Expr.text (String.ofList (sign ++ name)))
    else do
      let key ← nested.expression
      expect "\x7d"
      pure key
  modify fun source => { source with inText }
  return key

/-- A place between brackets, the first of which has been taken. -/
def placeInBrackets (nested : Nested) : Reader Expr := do
  let inText := (← get).inText
  modify fun source => { source with inText := false }
  let place ← nested.expression
  expect "]"
  modify fun source => { source with inText }
  return place

/-- What the sign of a variable stands before: a name, or an expression for a reference. -/
def afterSign (nested : Nested) : Nat → Reader (String ⊕ Expr)
  | 0 => misfit
  | fuel + 1 => do
    let source ← get
    match source.input with
    | '\x7b' :: rest =>
      match bracedName? rest with
      | some (name, after) =>
        skip (source.input.length - after.length)
        return .inl (plainName name)
      | none =>
        modify fun source => { source with inText := false }
        skip 1
        let body ← inScope (nested.statements)
        expect "\x7d"
        modify fun inner => { inner with inText := source.inText }
        return .inr (match body with
          | [(_, .expr value)] => value
          | body => .block body)
    | '$' :: c :: _ =>
      if isNameStart c || c = '$' || c = '\x7b' || c = ':' then
        skip 1
        match ← afterSign nested fuel with
        | .inl name =>
          requireDeclared ⟨.scalar, name⟩
          return .inr (.var ⟨.scalar, name⟩)
        | .inr value => return .inr (.deref .scalar value)
      else
        skip 1
        return .inl "$"
    | '^' :: c :: _ =>
      if c.isUpper && !source.inText then
        skip 2
        return .inl (String.ofList ['^', c])
      else misfit
    | c :: rest =>
      let name := nameAhead source.input
      if name ≠ "" then
        let name := if source.inText && name.endsWith "::" then (name.dropEnd 2).toString else name
        skip name.length
        return .inl (plainName name)
      else if c.isDigit then
        let digits := c :: rest.takeWhile Char.isDigit
        skip digits.length
        return .inl (String.ofList digits)
      else if isPunctuationName source.inText c then
        skip 1
        return .inl (String.singleton c)
      else misfit
    | [] => misfit

mutual

/-- Goes on after a value with what is taken out of it. `isElement` says whether it was taken out of something. -/
def takenOut (nested : Nested) : Nat → TextKind → Bool → Expr → Reader Expr
  | 0, _, _, _ => misfit
  | fuel + 1, kind, isElement, value => do
    let source ← get
    match source.input with
    | '[' :: rest =>
      if isElement && !(kind = .pattern && !looksLikeIndex rest) then
        skip 1
        let place ← placeInBrackets nested
        takenOut nested fuel kind true (.element (.deref .array value) place)
      else return value
    | '\x7b' :: rest =>
      if isElement && !(kind = .pattern && looksLikeCount rest) then
        skip 1
        let key ← keyInBraces nested
        takenOut nested fuel kind true (.entry (.deref .hash value) key)
      else return value
    | '(' :: _ =>
      if isElement && !source.inText then
        skip 1
        let arguments ← between nested ")"
        takenOut nested fuel kind true (.callValue value (some arguments))
      else return value
    | input =>
      let rest := if source.inText then input else input.dropWhile Char.isWhitespace
      match rest with
      | '-' :: '>' :: '[' :: inner =>
        if source.inText && kind = .pattern && !looksLikeIndex inner then return value
        skip (input.length - rest.length + 3)
        let place ← placeInBrackets nested
        takenOut nested fuel kind true (.element (.deref .array value) place)
      | '-' :: '>' :: '\x7b' :: _ =>
        skip (input.length - rest.length + 3)
        let key ← keyInBraces nested
        takenOut nested fuel kind true (.entry (.deref .hash value) key)
      | '-' :: '>' :: '@' :: '*' :: _ =>
        skip (input.length - rest.length + 4)
        return if source.inText then .spread (.deref .array value) else .deref .array value
      | '-' :: '>' :: _ =>
        if source.inText then return value
        skip (input.length - rest.length)
        mark
        skip 2
        skipSpace
        arrow nested fuel value
      | _ => return value

/-- Goes on after an arrow. -/
def arrow (nested : Nested) : Nat → Expr → Reader Expr
  | 0, _ => misfit
  | fuel + 1, value => do
    match ← ahead with
    | '[' :: _ =>
      skip 1
      let place ← placeInBrackets nested
      takenOut nested fuel .text true (.element (.deref .array value) place)
    | '\x7b' :: _ =>
      skip 1
      let key ← keyInBraces nested
      takenOut nested fuel .text true (.entry (.deref .hash value) key)
    | '(' :: _ =>
      skip 1
      let arguments ← between nested ")"
      takenOut nested fuel .text true (.callValue value (some arguments))
    | '%' :: '*' :: _ =>
      skip 2
      return .deref .hash value
    | '$' :: '*' :: _ =>
      skip 2
      return .deref .scalar value
    | '$' :: '#' :: '*' :: _ =>
      skip 3
      return .lastIndex (.deref .array value)
    | '@' :: '[' :: _ =>
      skip 2
      let places ← placeInBrackets nested
      return .elements (.deref .array value) places
    | '@' :: '\x7b' :: _ =>
      skip 2
      let keys ← keyInBraces nested
      return .entries (.deref .hash value) keys
    | '$' :: _ =>
      skip 1
      match ← afterSign nested fuel with
      | .inl name => methodCall nested fuel value (.var ⟨.scalar, name⟩)
      | .inr inner => methodCall nested fuel value inner
    | input =>
      let name := nameAhead input
      if name = "" then misfit
      skip name.length
      methodCall nested fuel value (.text name)

/-- A call of a method whose name has been taken. -/
def methodCall (nested : Nested) : Nat → Expr → Expr → Reader Expr
  | 0, _, _ => misfit
  | fuel + 1, value, name => do
    let arguments ← if (← ahead).head? = some '(' then do
        skip 1
        between nested ")"
      else pure []
    takenOut nested fuel .text true (.method value name arguments)

end

/-- A variable whose dollar sign has been taken, and what is taken out of it. -/
def plainScalar (nested : Nested) (kind : TextKind) : Reader Expr := do
  let base ← afterSign nested patience
  let container (sort : Kind) : Reader Expr := do
    match base with
    | .inl name =>
      requireDeclared ⟨sort, name⟩
      return .var ⟨sort, name⟩
    | .inr value => return .deref sort value
  let input ← ahead
  match input with
  | '[' :: rest =>
    let source ← get
    if kind = .pattern && !looksLikeIndex rest then container .scalar
    else if source.inText && kind = .text && !looksLikeIndex rest && rest.head?.any (!"$-".contains ·) then
      container .scalar
    else
      skip 1
      let array ← container .array
      let place ← placeInBrackets nested
      takenOut nested patience kind true (.element array place)
  | '\x7b' :: rest =>
    if kind = .pattern && looksLikeCount rest then container .scalar
    else
      skip 1
      let hash ← container .hash
      let key ← keyInBraces nested
      takenOut nested patience kind true (.entry hash key)
  | _ =>
    let value ← container .scalar
    takenOut nested patience kind false value

/-- A variable with a dollar sign, which comes next, and what is taken out of it. -/
def scalarTerm (nested : Nested) (kind : TextKind) : Reader Expr := do
  mark
  skip 1
  let input ← ahead
  match input with
  | '#' :: c :: _ =>
    if c = '\x7b' || c = '$' || isNameStart c then
      skip 1
      match ← afterSign nested patience with
      | .inl name =>
        requireDeclared ⟨.array, name⟩
        return .lastIndex (.var ⟨.array, name⟩)
      | .inr value => return .lastIndex (.deref .array value)
    else plainScalar nested kind
  | _ => plainScalar nested kind

/-- An array or a part of one, whose sign comes next. -/
def arrayTerm (nested : Nested) : Reader Expr := do
  mark
  skip 1
  let base ← afterSign nested patience
  let container (sort : Kind) : Reader Expr := do
    match base with
    | .inl name =>
      requireDeclared ⟨sort, name⟩
      return .var ⟨sort, name⟩
    | .inr value => return .deref sort value
  match ← ahead with
  | '[' :: _ =>
    skip 1
    let places ← placeInBrackets nested
    return .elements (← container .array) places
  | '\x7b' :: _ =>
    skip 1
    let keys ← keyInBraces nested
    return .entries (← container .hash) keys
  | _ => container .array

end Reader

end Shell.Machine.Perl
