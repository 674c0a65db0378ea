import Shell.Machine.Tools.Perl.Read.Terms

/-! # Reading general programs

How programs for `perl` are written down: statements one after another. What a character means depends on whether an
operand or an operator is expected, so that there are no tokens apart from that.
-/

/-! ## Expressions

How operators stand between operands, and which of them bind more tightly.
-/

namespace Shell.Machine.Perl

namespace Reader

/-- An operand with what may stand after it. -/
def suffixed (nested : Nested) : Reader Expr := do
  let operand ← term nested
  skipSpace
  let input ← ahead
  if Joint.starts "++" input then
    mark
    skip 2
    return .step true false operand
  else if Joint.starts "--" input then
    mark
    skip 2
    return .step false false operand
  else return operand

/-- An operand with what may stand before it. -/
def prefixed (nested : Nested) : Reader Expr := do
  skipSpace
  let input ← ahead
  match input with
  | '!' :: _ =>
    mark
    skip 1
    return .unary .not (← nested.operand 20)
  | '~' :: _ =>
    mark
    skip 1
    return .unary .complement (← nested.operand 20)
  | '\\' :: _ =>
    mark
    skip 1
    return .reference (← nested.operand 20)
  | '+' :: '+' :: _ =>
    mark
    skip 2
    return .step true true (← nested.operand 21)
  | '-' :: '-' :: _ =>
    mark
    skip 2
    return .step false true (← nested.operand 21)
  | '+' :: _ =>
    mark
    skip 1
    return .unary .plus (← nested.operand 20)
  | '-' :: c :: after =>
    if isTestLetter c && !(after.head?.any isNamePart) && !Joint.starts "=>" (after.dropWhile Char.isWhitespace) then
      mark
      skip 2
      skipSpace
      let operand ← if mayBeginTerm (← ahead) then nested.operand 15 else pure usualVariable
      return .fileTest c operand
    else
      mark
      skip 1
      if isNameStart c then
        let name := nameAhead (c :: after)
        let isCall := (← get).functions.contains name || (mannerOf? name).isSome || (← get).constants.contains name
        if !isCall then
          skip name.length
          return .text ("-" ++ name)
      return .unary .negate (← nested.operand 20)
  | _ => suffixed nested

/-- Goes on after an operand with operators that bind at least so tightly. -/
def operationAfter (nested : Nested) : Nat → Nat → Expr → Reader Expr
  | 0, _, _ => misfit
  | fuel + 1, level, left => do
    skipSpace
    if (← get).inText then return left
    match Joint.ahead? (← ahead) with
    | none => return left
    | some joint =>
      if joint.level < level then return left
      mark
      skip joint.text.length
      let right ← nested.operand (if joint.toRight then joint.level else joint.level + 1)
      operationAfter nested fuel level (Joint.join joint left right)

/-- Operands with operators between them that bind at least so tightly. -/
def operation (nested : Nested) (level : Nat) : Reader Expr := do
  operationAfter nested patience level (← prefixed nested)

/-- An expression that may be a choice between two others. -/
def conditional (nested : Nested) : Reader Expr := do
  let condition ← nested.operand 7
  skipSpace
  if (← ahead).head? = some '?' then
    mark
    skip 1
    let yes ← nested.assignment
    expect ":"
    let no ← nested.assignment
    return .either condition yes no
  else return condition

def assignment (nested : Nested) : Reader Expr := do
  let left ← conditional nested
  skipSpace
  match Joint.assignment? (← ahead) with
  | some text =>
    mark
    skip text.length
    let right ← nested.assignment
    return .assign (Joint.assignmentOf text) left right
  | none => return left

/-- Goes on after expressions, which come in reverse. Commas may be doubled and may be at the end. -/
def commasAfter (nested : Nested) : Nat → List Expr → Reader (List Expr)
  | 0, _ => misfit
  | fuel + 1, sofar => do
    skipSpace
    let input ← ahead
    let isArrow := Joint.starts "=>" input
    if !isArrow && input.head? ≠ some ',' then
      return match sofar with
        | [item] => [item]
        | sofar => sofar.reverse
    mark
    skip (if isArrow then 2 else 1)
    skipSpace
    let input ← ahead
    if input.head? = some ',' || Joint.starts "=>" input then commasAfter nested fuel sofar
    else if mayBeginTerm input || (input.head?.any fun c => "/<*%&-".contains c) then
      commasAfter nested fuel ((← nested.assignment) :: sofar)
    else return (match sofar with
      | [item] => [.list [item]]
      | sofar => sofar.reverse)

def commas (nested : Nested) : Reader (List Expr) := do
  let first ← nested.assignment
  commasAfter nested patience [first]

/-- An operand that `not` may stand before. -/
def negation (nested : Nested) : Reader Expr := do
  if ← takeWord? "not" then return .unary .not (listOf (← nested.commas))
  return listOf (← nested.commas)

/-- Goes on after an operand with `and`. -/
def andAfter (nested : Nested) : Nat → Expr → Reader Expr
  | 0, _ => misfit
  | fuel + 1, left => do
    if ← takeWord? "and" then andAfter nested fuel (.choose .and left (← negation nested)) else return left

/-- Operands with `and` between them. -/
def conjunction (nested : Nested) : Reader Expr := do andAfter nested patience (← negation nested)

/-- Goes on after an operand with `or` and `xor`. -/
def orAfter (nested : Nested) : Nat → Expr → Reader Expr
  | 0, _ => misfit
  | fuel + 1, left => do
    if ← takeWord? "or" then orAfter nested fuel (.choose .or left (← conjunction nested))
    else if ← takeWord? "xor" then orAfter nested fuel (.exclusive left (← conjunction nested))
    else return left

/-- An expression of the lowest rank. -/
def expression (nested : Nested) : Reader Expr := do orAfter nested patience (← conjunction nested)

end Reader

end Shell.Machine.Perl

/-! ## Statements -/

namespace Shell.Machine.Perl

namespace Reader

/-- Every second expression, from the first on. -/
def evens : List Expr → List Expr
  | first :: _ :: rest => first :: evens rest
  | rest => rest

def inCondition (nested : Nested) : Reader Expr := do
  expect "("
  let condition ← nested.expression
  expect ")"
  return condition

/-- What is done when the conditions so far were not true. -/
def otherwise (nested : Nested) : Nat → Reader Block
  | 0 => misfit
  | fuel + 1 => do
    let line := (← get).line
    if ← takeWord? "elsif" then
      let condition ← inCondition nested
      let body ← braces nested
      return [(line, .branch condition body (← otherwise nested fuel))]
    else if ← takeWord? "else" then braces nested
    else return []

/-- Asks for a module, or for not having it. -/
def useModule (nested : Nested) (wanted : Bool) : Reader (List Statement) := do
  let name ← wordAhead
  let input ← ahead
  if name = "" || (name.startsWith "v" && (name.drop 1).toString.all Char.isDigit) then
    let version := input.takeWhile fun c => isNamePart c || c = '.'
    skip version.length
    discard (take? ";")
    let isRecent := version.take 1 = ['v'] || version.take 3 = "5.0".toList
    modify fun source => { source with newer := true }
    let text := String.ofList version
    let minor := (((text.splitOn ".").getD 1 "0").take 3).toNat?.getD 0
    if isRecent && 11 < minor then modify fun source => { source with strict := true, wasStrict := true }
    return []
  skip name.length
  skipSpace
  let version := (← ahead).takeWhile fun c => c.isDigit || c = '.' || c = '_'
  skip version.length
  skipSpace
  let input ← ahead
  let list ← if input.isEmpty || input.head? = some ';' then pure [] else nested.commas
  discard (take? ";")
  let texts := list.flatMap constantTexts
  match name with
  | "strict" =>
    let isAll := texts.isEmpty || texts.contains "vars"
    modify fun source =>
      { source with
        strict := if isAll then wanted else source.strict, wasStrict := source.wasStrict || wanted
        wasLax := source.wasLax || !wanted }
  | "feature" => if texts.any (fun text => text = "say" || text.startsWith ":") then
      modify fun source => { source with newer := true }
  | "vars" =>
    for text in texts do
      let sort : Kind := if text.startsWith "@" then .array else if text.startsWith "%" then .hash else .scalar
      declare ⟨sort, (text.drop 1).toString⟩
  | _ => importFrom name texts
  let source ← get
  match name with
  | "constant" =>
    let isHash := match list with
      | [.makeHash _] => true
      | _ => false
    let names := match list with
      | [.makeHash items] => (evens items).flatMap constantTexts
      | first :: _ => (constantTexts first).take 1
      | [] => []
    modify fun source => { source with constants := names ++ source.constants }
    let items := match list with
      | [.makeHash items] => items
      | items => items
    return [.expr (.builtin "constant" [.text source.package, .whole (if isHash then 1 else 0), .list items])]
  | "parent" | "base" =>
    let classes := texts.filter (· ≠ "-norequire")
    return [.expr (.builtin "push" (.var ⟨.array, inPackage source.package "ISA"⟩ :: classes.map Expr.text))]
  | "lib" | "strict" | "warnings" | "feature" | "vars" => return []
  | _ => return if wanted then [.use name] else []

/-- An expression as a statement, with what may be said after it. -/
def simple (nested : Nested) : Reader (List Statement) := do
  let line := (← get).line
  let value ← nested.expression
  let whole : Statement ← match ← wordAhead with
    | "if" => do
      mark
      skip 2
      pure (.expr (.choose .and (← nested.expression) value))
    | "unless" => do
      mark
      skip 6
      pure (.expr (.choose .or (← nested.expression) value))
    | "while" => do
      mark
      skip 5
      let condition := loopCondition (← nested.expression)
      pure (match value with
        | .block _ => .loopAfter false condition value
        | _ => .loop "" false (some condition) [(line, .expr value)] [])
    | "until" => do
      mark
      skip 5
      let condition ← nested.expression
      pure (match value with
        | .block _ => .loopAfter true condition value
        | _ => .loop "" true (some condition) [(line, .expr value)] [])
    | "for" | "foreach" => do
      let word ← wordAhead
      mark
      skip word.length
      let items ← nested.expression
      pure (.each "" usualVariable items [(line, .expr value)])
    | _ => pure (.expr value)
  skipSpace
  match ← ahead with
  | [] => return [whole]
  | ';' :: _ =>
    mark
    skip 1
    return [whole]
  | '\x7d' :: _ => return [whole]
  | input =>
    mark
    let length := (nameAhead input).length
    skip (max 1 length)
    misfit

/-- What may have a label: a loop or a block. -/
def labelled (nested : Nested) (label : String) : Reader (List Statement) := do
  match ← wordAhead with
  | "while" | "until" => inScope do
    let word ← wordAhead
    mark
    skip word.length
    expect "("
    let condition ← if ← take? ")" then pure none else do
      let condition ← nested.expression
      expect ")"
      pure (some (loopCondition condition))
    let body ← braces nested
    let continues ← if ← takeWord? "continue" then braces nested else pure []
    return [.loop label (word = "until") condition body continues]
  | "for" | "foreach" => inScope do
    let word ← wordAhead
    mark
    skip word.length
    skipSpace
    match ← ahead with
    | '(' :: _ =>
      mark
      skip 1
      let first ← if ← take? ";" then pure none else do
        if ← take? ")" then
          let body ← braces nested
          return [.each label usualVariable (.list []) body]
        let first ← nested.expression
        if ← take? ")" then
          let body ← braces nested
          return [.each label usualVariable first body]
        expect ";"
        pure (some first)
      let condition ← if ← take? ";" then pure none else do
        let condition ← nested.expression
        expect ";"
        pure (some (loopCondition condition))
      let update ← if ← take? ")" then pure none else do
        let update ← nested.expression
        expect ")"
        pure (some update)
      let body ← braces nested
      return [.count label first condition update body]
    | _ =>
      let variable_ ← term nested
      expect "("
      let items ← if ← take? ")" then pure (Expr.list []) else do
        let items ← nested.expression
        expect ")"
        pure items
      let body ← braces nested
      return [.each label variable_ items body]
  | _ =>
    skipSpace
    if (← ahead).head? = some '\x7b' then return [.block label (← braces nested)]
    simple nested

def statement (nested : Nested) : Reader (List Statement) := do
  let source ← get
  let word := nameAhead source.input
  let next := (source.input.drop word.length).dropWhile Char.isWhitespace
  if source.input.head? = some '\x7b' && !looksLikeHash (source.input.drop 1) then
    return [.block "" (← braces nested)]
  if word ≠ "" && next.head? = some ':' && (next.drop 1).head? ≠ some ':' && !word.contains ':' &&
      word.all (fun c => c.isUpper || c.isDigit || c = '_') then
    skip (source.input.length - next.length + 1)
    skipSpace
    return ← labelled nested word
  if Joint.starts "=>" next then return ← simple nested
  match word with
  | "if" | "unless" =>
    mark
    skip word.length
    let condition ← inCondition nested
    let condition := if word = "unless" then .unary .not condition else condition
    let body ← braces nested
    return [.branch condition body (← otherwise nested patience)]
  | "while" | "until" | "for" | "foreach" => labelled nested ""
  | "sub" =>
    let name := nameAhead next
    if name = "" then simple nested
    else
      mark
      skip word.length
      skipSpace
      skip name.length
      let full := inPackage source.package name
      modify fun source => { source with functions := full :: source.functions }
      if ← take? ";" then return []
      let body ← functionBody nested
      return [.define full body]
  | "package" =>
    mark
    skip word.length
    let name ← wordAhead
    skip name.length
    let before := source.package
    modify fun source => { source with package := name }
    skipSpace
    if (← ahead).head? = some '\x7b' then
      let body ← braces nested
      modify fun source => { source with package := before }
      return [.block "" ((source.line, .package name) :: body)]
    discard (take? ";")
    return [.package name]
  | "BEGIN" | "END" | "INIT" | "CHECK" | "UNITCHECK" =>
    if next.head? = some '\x7b' then
      skip word.length
      let body ← braces nested
      if word = "END" then modify fun source => { source with ends := body :: source.ends }
      else modify fun source => { source with begins := source.begins ++ [body] }
      return []
    simple nested
  | "use" | "no" =>
    mark
    skip word.length
    useModule nested (word = "use")
  | "__END__" | "__DATA__" =>
    let rest := (source.input.dropWhile (· ≠ '\n')).drop 1
    let data := String.ofList (rest.filter (· ≠ lineMark))
    set { source with input := [], data := some data }
    return []
  | "return" => simple nested
  | _ => simple nested

/-- Statements up to a closing brace or the end. -/
def statements (nested : Nested) : Reader Block := do
  if (← get).inText then modify fun source => { source with inText := false }
  skipSpace
  match ← ahead with
  | [] => return []
  | '\x7d' :: _ => return []
  | ';' :: _ =>
    mark
    skip 1
    nested.statements
  | _ =>
    let line := (← get).line
    let found ← statement nested
    let rest ← nested.statements
    return found.map (fun statement => (line, statement)) ++ rest

/-- How what is nested at most so deeply is read. -/
def nestedAt : Nat → Nested
  | 0 =>
    { expression := misfit, commas := misfit, assignment := misfit, operand := fun _ => misfit
      statements := misfit }
  | depth + 1 =>
    { expression := fun source => expression (nestedAt depth) source
      commas := fun source => commas (nestedAt depth) source
      assignment := fun source => assignment (nestedAt depth) source
      operand := fun level source => operation (nestedAt depth) level source
      statements := fun source => statements (nestedAt depth) source }

end Reader

/-- A program that has been read. -/
structure Program where
  body : Block
  /-- What is run before, and what is run at the end. -/
  begins : List Block := []
  ends : List Block := []
  /-- Whether texts may not stand for the variables that they name. -/
  isStrict : Bool := false
  /-- What comes after the program in its file. -/
  data : Option String := none
deriving Inhabited

def Program.read (source : Source) : Except Fault Program := do
  let whole : Reader Block := do
    let body ← Reader.statements (Reader.nestedAt (8 * source.input.length + 1000))
    if !(← get).input.isEmpty then
      Reader.mark
      Reader.skip 1
      Reader.misfitAfter fun here => ["Unmatched right curly bracket" ++ Reader.placeOf here ++ ", at end of line\n"]
    return body
  let (body, after) ← whole.run source
  if !after.reports.isEmpty then throw { reports := after.reports ++ [Reader.conclusion after] }
  return { body, begins := after.begins, ends := after.ends, data := after.data
           isStrict := after.wasStrict && !after.wasLax }

end Shell.Machine.Perl
