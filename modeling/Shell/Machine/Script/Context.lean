import Shell.Machine.Script.Source

/-! # Contexts of words

What quotes, backslashes and other characters mean depends on where a word stands: in a line of commands, between
quotes, between braces, in a here-document. Here is what differs, and how the parts of words are read that have no
other parts in them.
-/

namespace Shell.Machine.Script

namespace Reader

/-- Where the parts of a word stand. -/
inductive Context where
  | plain
  /-- In the word that ends a here-document, where nothing is expanded. -/
  | delimiter
  | quoted
  /-- After an operator between braces. -/
  | braces (quoted : Bool)
  | document
  | arithmetic
  /-- Between brackets after the name of an array. -/
  | subscript
  /-- In a pattern whose matches are replaced. -/
  | replaced
  /-- In a number that says which part of a value is taken. -/
  | slice
  /-- In one of the expressions that control a loop. -/
  | clause
  /-- In a pattern or a regular expression of a condition. -/
  | pattern
  | regex
deriving Repr, DecidableEq

namespace Context

/-- Whether text counts as quoted. -/
def isQuoted : Context → Bool
  | quoted | braces true | document | arithmetic | clause => true
  | _ => false

/-- Whether single quotes mean something. -/
def hasSingleQuotes : Context → Bool
  | quoted | braces true | document | arithmetic | clause => false
  | _ => true

/-- Whether double quotes mean something. -/
def hasDoubleQuotes : Context → Bool
  | quoted | document | arithmetic | clause => false
  | _ => true

/-- The characters that a backslash takes their meaning from. Before others it stands for itself. -/
def escapable : Context → String
  | quoted => "\\`$\""
  | braces true => "\\`$\"\x7d"
  | document | arithmetic | clause => "\\`$"
  | _ => ""

/-- What is wrong with a script that ends here. -/
def openReport : Context → Option String
  | plain | delimiter | document | pattern | regex => none
  | quoted | braces true => some "Unterminated quoted string"
  | braces false | replaced | slice => some "Missing '\x7d'"
  | arithmetic | clause => some "Missing '))'"
  | subscript => some "Missing ']'"

/-- What would end the text that is open. -/
def closing : Context → String
  | quoted => "\""
  | arithmetic | clause => ")"
  | subscript => "]"
  | _ => "\x7d"

/-- The characters that mean something here and not elsewhere. -/
def marks : Context → String
  | subscript => "[]"
  | replaced => "/"
  | slice => ":"
  | _ => ""

end Context

/-- True for what ends a word that is not quoted. -/
def isDelimiter (c : Char) : Bool :=
  " \t\n;&|<>()".contains c

/-- True for characters that may mean something inside a word. -/
def isSpecial (c : Char) : Bool :=
  isDelimiter c || "'\"\\$`\x7d".contains c || c = aliasEnd

/-- Parameters with names of one character that is not a letter. -/
def isSpecialParameter (c : Char) : Bool :=
  "!#-?$*@".contains c || c.isDigit

/-- A piece of text as a part of a word. -/
def textPart (text : String) (quoted : Bool) : Part :=
  .text text quoted

/-- The text between single quotes, the first of which has been taken. -/
def singleQuoted : Reader Part := do
  let text ← takeWhile (· ≠ '\'')
  if (← get).input.isEmpty then failUnended "Unterminated quoted string" "'"
  skip 1
  return textPart text true

/-- What follows a backslash, which has been taken. -/
def escaped (context : Context) : Reader Part := do
  match (← get).input with
  | [] => return textPart "\\" true
  | c :: _ =>
    skip 1
    if context.isQuoted && !context.escapable.contains c then
      return textPart (String.ofList ['\\', c]) true
    else return textPart (String.singleton c) true

/-- The text between back quotes, the first of which has been taken. `sofar` is in reverse. -/
def backQuoted (quoted : Bool) : Nat → List Char → Reader (List Char)
  | 0, _ => fail "EOF in backquote substitution"
  | fuel + 1, sofar => do
    match ← peek with
    | none => failUnended "EOF in backquote substitution" "\x60"
    | some '`' =>
      skip 1
      return sofar.reverse
    | some '\\' =>
      skip 1
      match (← get).input with
      | [] => failUnended "EOF in backquote substitution" "\x60"
      | c :: _ =>
        skip 1
        let keeps := !("\\`$".contains c || (quoted && c = '"'))
        backQuoted quoted fuel (if keeps then c :: '\\' :: sofar else c :: sofar)
    | some c =>
      skip 1
      backQuoted quoted fuel (c :: sofar)

/-- Drops a character that has no meaning. A line break is not counted. -/
def dropStray : Reader Unit :=
  modify fun source => { source with input := source.input.drop 1 }

/-- The name of a parameter after an opening brace, and whether its length is asked for. -/
def bracedName (fuel : Nat) : Reader (Option (String × Bool)) := do
  match ← peek with
  | none => return none
  | some c =>
    if Name.isStart c then return some (← takeName Name.isPart fuel, false)
    else if c.isDigit then return some (← takeName Char.isDigit fuel, false)
    else if c = '#' then
      skip 1
      match ← peek with
      | none => return some ("#", false)
      | some d =>
        if Name.isStart d then return some (← takeName Name.isPart fuel, true)
        else if d.isDigit then return some (← takeName Char.isDigit fuel, true)
        else
          let after := (← get).input.drop 1
          if d ≠ '\x7d' && after.head? = some '\x7d' && isSpecialParameter d then
            skip 1
            return some (String.singleton d, true)
          else return some ("#", false)
    else if isSpecialParameter c then
      skip 1
      return some (String.singleton c, false)
    else
      if c ≠ '\x7d' then dropStray
      return none

/-- The operator after the name of a parameter. -/
inductive Operator where
  | close
  | fallback (kind : Fallback) (orEmpty : Bool)
  | trim (atEnd longest : Bool)
  | slice
  | replace (which : Matches)
  | recase (casing : Casing) (all : Bool)
  | transform (letter : Char)
  | bad

/-- The kind of an operator, by its last character. -/
def fallback? : Char → Option Fallback
  | '-' => some .default
  | '=' => some .assign
  | '?' => some .fail
  | '+' => some .alternative
  | _ => none

/-- Takes the operator after the name of a parameter. -/
def operatorAfterName : Reader Operator := do
  match ← peek with
  | none => return .bad
  | some '\x7d' =>
    skip 1
    return .close
  | some ':' =>
    skip 1
    match ← peek with
    | some '\x7d' =>
      skip 1
      return .close
    | some c =>
      match fallback? c with
      | some kind =>
        skip 1
        return .fallback kind true
      | none =>
        dropStray
        return .bad
    | none => return .bad
  | some c =>
    if c = '#' || c = '%' then
      skip 1
      let longest ← take? c
      return .trim (c = '%') longest
    else
      match fallback? c with
      | some kind =>
        skip 1
        return .fallback kind false
      | none =>
        dropStray
        return .bad

/-- Takes an operator that only the extended dialect has. -/
def extendedOperator? : Reader (Option Operator) := do
  let input := (← get).input
  match input with
  | ':' :: c :: _ =>
    if (fallback? c).isSome || c = '\x7d' then return none
    skip 1
    return some .slice
  | '/' :: rest =>
    let (which, count) := match rest with
      | '/' :: _ => (Matches.all, 2)
      | '#' :: _ => (Matches.atStart, 2)
      | '%' :: _ => (Matches.atEnd, 2)
      | _ => (Matches.first, 1)
    skip count
    return some (.replace which)
  | '@' :: letter :: '\x7d' :: _ =>
    skip 3
    return some (.transform letter)
  | c :: rest =>
    let casing? : Option Casing := match c with
      | '^' => some .upper
      | ',' => some .lower
      | '~' => some .swapped
      | _ => none
    match casing? with
    | none => return none
    | some casing =>
      let all := rest.head? = some c
      skip (if all then 2 else 1)
      return some (.recase casing all)
  | [] => return none

end Reader

end Shell.Machine.Script
