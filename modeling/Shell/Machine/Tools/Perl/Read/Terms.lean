import Shell.Machine.Tools.Perl.Read.Texts

/-! # Reading operands

How operands are written down: numbers, texts, variables, lists, and all that begins with a word.
-/

namespace Shell.Machine.Perl

namespace Reader

/-- Words after which a list of names may stand that are functions or constants. -/
def isQuoteWord (word : String) : Bool :=
  ["q", "qq", "qw", "m", "s", "tr", "y", "qr"].contains word

/-- True for words that always mean the same. -/
def isReserved (word : String) : Bool :=
  ["my", "our", "local", "sub", "do", "eval", "print", "printf", "map", "grep", "sort", "qx", "return", "next", "last",
    "redo", "__PACKAGE__", "__FILE__", "__LINE__"].contains word

/-- True when a word for quoting is followed by what it quotes. -/
def quotes (word : String) (after : List Char) : Bool :=
  let rest := after.dropWhile Char.isWhitespace
  let isAdjacent := rest.length = after.length
  isQuoteWord word &&
    match rest with
    | c :: next :: _ =>
      if c = '=' then isAdjacent && next ≠ '>' && next ≠ ' ' && next ≠ '='
      else if c = '#' then isAdjacent
      else if isNamePart c then false
      else !",;)".contains c
    | _ => false

/-- The package that a name belongs to, and the name in it. -/
def inPackage (package name : String) : String :=
  if name.contains ':' then plainName name else if package = "main" then name else package ++ "::" ++ name

/-- Makes the functions known that a module offers. -/
def importFrom (module : String) (names : List String) : Reader Unit := do
  match moduleFunctions.lookup module with
  | none => return
  | some (usual, all) =>
    let wanted :=
      if names.isEmpty then usual
      else all.filter fun name => names.contains name || names.any (·.startsWith ":")
    modify fun source =>
      { source with imports := wanted.map (fun name => (name, module ++ "::" ++ name)) ++ source.imports }

/-- The texts that an expression consists of, as far as they can be told while it is read. -/
def constantTexts : Expr → List String
  | .text text => [text]
  | .list items => items.flatMap fun
    | .text text => [text]
    | .list items => items.filterMap fun
      | .text text => some text
      | _ => none
    | _ => []
  | _ => []

/-- A variable that is declared, or nothing in its place. -/
def declaredOne : Reader (Option Variable) := do
  if ← takeWord? "undef" then return none
  skipSpace
  match ← ahead with
  | c :: rest =>
    let sort? : Option Kind := match c with
      | '$' => some .scalar
      | '@' => some .array
      | '%' => some .hash
      | _ => none
    let name := nameAhead rest
    match sort? with
    | some sort =>
      if name = "" then misfit
      mark
      skip (name.length + 1)
      return some ⟨sort, name⟩
    | none => misfit
  | [] => misfit

def declaredMany : Nat → Reader (List (Option Variable))
  | 0 => misfit
  | fuel + 1 => do
    if ← take? ")" then return []
    let next ← declaredOne
    discard (take? ",")
    return next :: (← declaredMany fuel)

/-- What is declared after a word. -/
def declaration (lifetime : Lifetime) : Reader Expr := do
  let (fresh, isList) ← if ← take? "(" then do
      pure (← declaredMany ((← ahead).length + 1), true)
    else do
      pure ([← declaredOne], false)
  for variable_ in fresh.filterMap id do
    declare variable_
  return .declare lifetime fresh isList

def braces (nested : Nested) : Reader Block := do
  expect "\x7b"
  let body ← inScope (nested.statements)
  expect "\x7d"
  return body

/-- The arguments of a function: in parentheses, or all that follows. -/
def arguments (nested : Nested) : Reader (List Expr) := do
  skipSpace
  let input ← ahead
  if input.head? = some '(' then
    mark
    skip 1
    between nested ")"
  else if mayBeginTerm input || (input.head?.any fun c => "/<*%&-".contains c) then nested.commas
  else return []

/-- The argument of a function that takes one, if there is one. -/
def oneArgument (nested : Nested) (takesPattern : Bool) : Reader (Option Expr) := do
  skipSpace
  let input ← ahead
  if input.head? = some '(' then
    mark
    skip 1
    match ← between nested ")" with
    | [] => return none
    | items => return some (listOf items)
  else if mayBeginTerm input || (takesPattern && input.head? = some '/') then return some (← nested.operand 15)
  else return none

/-- True when what follows a brace looks like the entries of a hash and not like statements. -/
def looksLikeHash (input : List Char) : Bool :=
  let input := input.dropWhile Char.isWhitespace
  let follows (rest : List Char) : Bool :=
    let rest := rest.dropWhile Char.isWhitespace
    Joint.starts "=>" rest || (rest.head? = some ',' && !(input.head?.any Char.isLower))
  match input with
  | '\x7d' :: _ => true
  | c :: rest =>
    if c = '"' || c = '\'' || c = '\x60' then
      match upTo c c (rest.length + 1) 0 [] rest with
      | some (_, rest) => follows rest
      | none => false
    else if isNamePart c then follows (input.dropWhile isNamePart)
    else false
  | [] => false

/-- The list that a function goes over, with what it does with the elements. -/
def walkTerm (nested : Nested) (walk : Walk) : Reader Expr := do
  let inParentheses ← take? "("
  skipSpace
  let start ← get
  let rest : Reader (List Expr) := do
    skipSpace
    let input ← ahead
    let items ←
      if inParentheses && input.head? = some ')' then pure []
      else if mayBeginTerm input || (input.head?.any fun c => "/<*%&-".contains c) then nested.commas
      else pure []
    if inParentheses then expect ")"
    return items
  let withExpression : Reader Expr := do
    if walk = .sort then
      let items ← rest
      return .walk walk none items
    let body ← nested.assignment
    expect ","
    return .walk walk (some body) (← rest)
  match start.input with
  | '\x7b' :: _ =>
    let asBlock : Reader Expr := do
      let body ← braces nested
      skipSpace
      if (← ahead).head? = some ',' && walk ≠ .sort then misfit
      return .walk walk (some (.block body)) (← rest)
    if walk = .map && looksLikeHash (start.input.drop 1) then withExpression else asBlock
  | '$' :: _ =>
    if walk = .sort then
      let name := nameAhead (start.input.drop 1)
      if mayFollowHandle (start.input.drop (name.length + 1)) then
        let function ← scalarTerm nested .text
        return .walk walk (some (.callValue function (some []))) (← rest)
    withExpression
  | _ =>
    let name := nameAhead start.input
    let isOwn := start.functions.contains name || (name ≠ "" && (mannerOf? name).isNone && (walkOf? name).isNone &&
      !(["map", "grep", "sort", "qw", "uniq", "my", "return"].contains name) && !start.constants.contains name &&
      !(start.imports.lookup name).isSome && (start.input.drop name.length).head? = some ' ')
    if walk = .sort && isOwn && mayFollowHandle (start.input.drop name.length) then
      skip name.length
      return .walk walk (some (.call (inPackage start.package name) (some []))) (← rest)
    withExpression

/-- What is written, and where to. -/
def printTerm (nested : Nested) (kind : Printing) : Reader Expr := do
  let inParentheses ← take? "("
  skipSpace
  let source ← get
  let input := source.input
  let word := nameAhead input
  let afterWord := input.drop word.length
  let isHandleName : Bool :=
    ["STDOUT", "STDERR", "STDIN"].contains word ||
      (word ≠ "" && word.all (fun c => c.isUpper || c.isDigit || c = '_') && !source.constants.contains word &&
        !source.functions.contains word && !word.startsWith "__" &&
        (match afterWord.dropWhile Char.isWhitespace with
        | c :: _ => !",(.=-+*/<>?:|&x".contains c
        | [] => true))
  let handle : Option Expr ←
    if isHandleName then do
      mark
      skip word.length
      pure (some (Expr.text word))
    else if input.head? = some '\x7b' then do
      mark
      skip 1
      let value ← nested.expression
      expect "\x7d"
      pure (some value)
    else if input.head? = some '$' then
      let name := nameAhead (input.drop 1)
      if name ≠ "" && mayFollowHandle (input.drop (name.length + 1)) then do
        mark
        skip (name.length + 1)
        requireDeclared ⟨.scalar, name⟩
        pure (some (Expr.var ⟨.scalar, name⟩))
      else pure none
    else pure none
  skipSpace
  let input ← ahead
  let items ←
    if inParentheses && input.head? = some ')' then pure []
    else if inParentheses then do
      pure (itemsOf (← nested.expression))
    else if mayBeginTerm input || (input.head?.any fun c => "/<*%&-".contains c) then nested.commas
    else pure []
  if inParentheses then expect ")"
  let items := if items.isEmpty && kind ≠ .printf then [usualVariable] else items
  return .print kind handle items

/-- The names of arguments up to a parenthesis, with the number of those before. -/
def signatureFrom (nested : Nested) : Nat → Nat → Nat → Reader Block
  | 0, _, _ => misfit
  | fuel + 1, line, place => do
    if ← take? ")" then return []
    skipSpace
    let target ← declaration .my
    let value : Expr := match target with
      | .declare _ [some ⟨.scalar, _⟩] _ => .element argumentArray (.whole place)
      | _ =>
        .elements argumentArray (.range (.whole place) (.lastIndex argumentArray))
    let isGiven : Expr := .binary .greaterOrEqual (.lastIndex argumentArray) (.whole place)
    let value ←
      if ← take? "//=" then do
        pure (Expr.choose .defined value (← nested.assignment))
      else if ← take? "=" then do
        pure (Expr.either isGiven value (← nested.assignment))
      else pure value
    discard (take? ",")
    return (line, .expr (.assign .plain target value)) :: (← signatureFrom nested fuel line (place + 1))

/-- The body of a function, after its name. Names in parentheses before it are those of the arguments. -/
def functionBody (nested : Nested) : Reader Block := inScope do
  let line := (← get).line
  skipSpace
  let signature : Block ←
    if (← ahead).head? = some '(' then do
      let inner := ((← ahead).drop 1).takeWhile (· ≠ ')')
      if inner.any isNameStart then do
        mark
        skip 1
        signatureFrom nested patience line 0
      else do
        skip (inner.length + 2)
        pure []
    else pure []
  let body ← braces nested
  return signature ++ body

/-- What kind of literal comes next, if one does. -/
def literalAhead? (input : List Char) : Option String :=
  match input with
  | c :: _ =>
    if c = '"' || c = '\'' then some "String" else if c.isDigit then some "Number" else none
  | [] => none

/-- A word that has no meaning of its own and has been taken: a call if parentheses follow, a text otherwise. -/
def plainWord (nested : Nested) (word : String) : Reader Expr := do
  let source ← get
  let next := source.input.dropWhile Char.isWhitespace
  if next.head? = some '(' then
    skipSpace
    skip 1
    let arguments ← between nested ")"
    takenOut nested patience .text true (.call (inPackage source.package word) (some arguments))
  else if word.endsWith "::" then return .text (word.dropEnd 2).toString
  else
    if let some kind := literalAhead? next then
      let line := placeOf source
      if next.head?.any fun c => c = '"' || c = '\'' then
        skipSpace
        discard delimited
      else skip (source.input.length - next.length + (next.takeWhile Char.isDigit).length)
      let rest := (← ahead).length
      let near := String.ofList (source.last.take (source.last.length - rest))
      throw {
        reports := source.reports ++ [
          kind ++ " found where operator expected" ++ line ++ ", near \"" ++ near ++ "\"\n",
          "\t(Do you need to predeclare " ++ word ++ "?)\n",
          "syntax error" ++ line ++ ", near \"" ++ near ++ "\"\n", conclusion source] }
    let isHandle := ["STDIN", "STDOUT", "STDERR", "ARGV", "DATA"].contains word
    if source.strict && !isHandle && !(word.toList.head?.any Char.isUpper) then
      let text := "Bareword \"" ++ word ++ "\" not allowed while \"strict subs\" in use" ++ placeOf source ++ ".\n"
      modify fun source => { source with reports := source.reports ++ [text] }
    return .builtin "word" [.text word, .text source.package]

/-- A call of a function of the program, whose name comes next. -/
def ownCall (nested : Nested) (word : String) : Reader Expr := do
  let source ← get
  mark
  skip word.length
  if Joint.starts "->" (← ahead) && word.toList.head?.any Char.isUpper then
    return ← takenOut nested patience .text false (.text word)
  if Joint.starts "::" (← ahead) then skip 2
  let arguments ← arguments nested
  takenOut nested patience .text true (.call (inPackage source.package word) (some arguments))

/-- An operand that begins with a word. -/
def wordTerm (nested : Nested) : Reader Expr := do
  let source ← get
  let word := nameAhead source.input
  let after := source.input.drop word.length
  let next := after.dropWhile Char.isWhitespace
  if Joint.starts "=>" next && !word.contains ':' then
    mark
    skip word.length
    return .text word
  if quotes word after then return ← quoteLike nested word
  let own := source.functions.contains (inPackage source.package word) && (mannerOf? word).isNone && !isReserved word
  match source.imports.lookup word with
  | some full =>
    mark
    skip word.length
    match walkOf? word with
    | some walk => return ← walkTerm nested walk
    | none =>
      let arguments ← arguments nested
      return ← takenOut nested patience .text false (.call full (some arguments))
  | none => pure ()
  if own then return ← ownCall nested word
  if source.constants.contains word then
    mark
    skip word.length
    if Joint.starts "()" (← ahead) then skip 2
    return .call (inPackage source.package word) (some [])
  mark
  skip word.length
  match word with
  | "my" => declaration .my
  | "our" => declaration .our
  | "state" => declaration .state
  | "local" => return .localize (← nested.operand 20)
  | "sub" =>
    let body ← functionBody nested
    takenOut nested patience .text false (.makeCode "__ANON__" body)
  | "do" =>
    if next.head? = some '\x7b' then return .block (← braces nested)
    return .builtin "do" [(← oneArgument nested false).getD usualVariable]
  | "eval" =>
    if next.head? = some '\x7b' then return .attempt (← braces nested)
    return .builtin "eval" [(← oneArgument nested false).getD usualVariable]
  | "print" => printTerm nested .print
  | "printf" => printTerm nested .printf
  | "say" => if source.newer then printTerm nested .say else plainWord nested word
  | "map" => walkTerm nested .map
  | "grep" => walkTerm nested .grep
  | "sort" => walkTerm nested .sort
  | "qx" =>
    skipSpace
    let (_, text) ← delimited
    return .run (← interpolated nested .text text)
  | "__PACKAGE__" => takenOut nested patience .text false (.text source.package)
  | "__FILE__" => return .text source.file
  | "__LINE__" => return .whole source.line
  | "wantarray" =>
    discard (take? "()")
    return .builtin "wantarray" []
  | "return" =>
    skipSpace
    let input ← ahead
    if mayBeginTerm input || (input.head?.any fun c => "/<*%&-".contains c) then
      return .builtin "return" (← nested.commas)
    return .builtin "return" []
  | "next" | "last" | "redo" =>
    let label ← wordAhead
    if label ≠ "" && label.all (fun c => c.isUpper || c.isDigit || c = '_') then
      skip label.length
      return .builtin word [.text label]
    return .builtin word []
  | "defined" | "exists" | "delete" | "scalar" | "undef" =>
    let operand ← oneArgument nested false
    return .builtin word (match operand with
      | some operand => [operand]
      | none => if word = "defined" then [usualVariable] else [])
  | "shift" | "pop" =>
    skipSpace
    let input ← ahead
    let operand ←
      if input.head?.any (fun c => c = '@' || c = '(' || c = '$') then oneArgument nested false else pure none
    takenOut nested patience .text false (.builtin word (operand.toList))
  | "split" =>
    let arguments ← arguments nested
    return .builtin "split" arguments
  | "new" =>
    let class_ := nameAhead next
    if class_ ≠ "" && (mannerOf? class_).isNone then
      skipSpace
      skip class_.length
      let arguments ← if (← ahead).head? = some '(' then arguments nested else pure []
      return .method (.text class_) (.text "new") arguments
    plainWord nested word
  | _ =>
    if Joint.starts "->" next && (mannerOf? word).isNone then
      let text := if word.endsWith "::" then (word.dropEnd 2).toString else word
      return ← takenOut nested patience .text false (.text text)
    match mannerOf? word with
    | some .bare =>
      discard (take? "()")
      return .builtin word []
    | some .usual =>
      let operand := (← oneArgument nested true).getD usualVariable
      return .builtin word (itemsOf operand)
    | some .single =>
      let operand ← oneArgument nested false
      takenOut nested patience .text false (.builtin word (operand.toList))
    | some .many =>
      let arguments ← arguments nested
      return .builtin word arguments
    | none => plainWord nested word

/-- An operand. -/
def term (nested : Nested) : Reader Expr := do
  skipSpace
  let source ← get
  match source.input with
  | [] =>
    mark
    misfit
  | c :: rest =>
    if c = '$' then scalarTerm nested .text
    else if c = '@' then arrayTerm nested
    else if c = '%' then
      mark
      skip 1
      match ← afterSign nested patience with
      | .inl name =>
        match ← ahead with
        | '\x7b' :: _ =>
          skip 1
          return .pairs true (.var ⟨.hash, name⟩) (← keyInBraces nested)
        | '[' :: _ =>
          skip 1
          return .pairs false (.var ⟨.array, name⟩) (← placeInBrackets nested)
        | _ =>
          requireDeclared ⟨.hash, name⟩
          return .var ⟨.hash, name⟩
      | .inr value => return .deref .hash value
    else if c = '&' then
      mark
      skip 1
      let base ← afterSign nested patience
      let arguments ← if (← ahead).head? = some '(' then do
          skip 1
          pure (some (← between nested ")"))
        else pure none
      match base with
      | .inl name => takenOut nested patience .text true (.call (inPackage source.package name) arguments)
      | .inr value => takenOut nested patience .text true (.callValue value arguments)
    else if c = '*' then
      mark
      skip 1
      match ← afterSign nested patience with
      | .inl name => return .var ⟨.handle, name⟩
      | .inr value => return .deref .handle value
    else if c.isDigit || (c = '.' && rest.head?.any Char.isDigit) then
      let (value, rest) := numberAhead source.input
      mark
      skip (source.input.length - rest.length)
      return value
    else if c = '"' then
      mark
      let (_, text) ← delimited
      interpolated nested .text (unescapeOnly '"' text)
    else if c = '\'' then
      mark
      let (open_, text) ← delimited
      return .text (String.ofList (plainText open_ text))
    else if c = '\x60' then
      mark
      let (_, text) ← delimited
      return .run (← interpolated nested .text text)
    else if c = '/' then
      mark
      let (pattern, flags) ← patternBetween nested
      return .matches_ none false pattern flags
    else if c = '(' then
      mark
      skip 1
      let items ← between nested ")"
      if (← ahead).head? = some '[' then
        skip 1
        let places ← placeInBrackets nested
        takenOut nested patience .text true (.part (.list items) places)
      else
        let value : Expr := .list items
        takenOut nested patience .text false value
    else if c = '[' then
      mark
      skip 1
      takenOut nested patience .text false (.makeArray (← between nested "]"))
    else if c = '\x7b' then
      mark
      skip 1
      takenOut nested patience .text false (.makeHash (← betweenBraces nested))
    else if c = '<' then angled nested
    else if isNameStart c then wordTerm nested
    else
      mark
      skip 1
      misfit

end Reader

end Shell.Machine.Perl
