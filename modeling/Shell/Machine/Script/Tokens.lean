import Shell.Machine.Script.Context
import Shell.Machine.Utility.Escape

/-! # Tokens of scripts

How operators and redirections are told apart, what a word may mean where a command begins, and which words set
variables or elements of arrays.
-/

namespace Shell.Machine.Script

namespace Reader

/-- Which words get a meaning from where they stand, and whether line breaks count. -/
structure Expectation where
  skipsNewlines : Bool := false
  reserved : Bool := false
  aliases : Bool := false
  delimiter : Bool := false

/-- What is expected where a command begins inside of another. -/
def atCommand : Expectation := { skipsNewlines := true, reserved := true, aliases := true }

def atLine : Expectation := { reserved := true, aliases := true }

/-- What is wrong with a script that ends inside of a command. -/
def endReport : String := "syntax error: unexpected end of file"

/-- Refuses a token that stands in a wrong place. -/
def unexpected {α : Type} (token : Token) (wanted : Option Token) : Reader α := do
  let source ← get
  match source.dialect, token with
  | .plain, _ =>
    fail (token.describe ++ " unexpected" ++
      (match wanted with
      | some wanted => " (expecting " ++ wanted.describe ++ ")"
      | none => ""))
  | .extended, .finish =>
    match source.warnings with
    | [] => throw { line := endLine source, text := endReport }
    | (line, text) :: more => throw { line, text, more := more ++ [(endLine source, endReport)] }
  | .extended, .newline =>
    set { source with line := source.line - 1 }
    failNear ["syntax error near unexpected token `newline'"]
  | .extended, token => failNear ["syntax error near unexpected token \x60" ++ token.written source ++ "'"]

def comment : Reader Unit := do
  discard (takeWhile (· ≠ '\n'))

/-- Operators of two characters, or of one. -/
def operator? : Reader (Option Token) := do
  match ← peek with
  | some c =>
    if c = '&' || c = '|' || c = ';' then
      skip 1
      if ← take? c then return some (.operator (String.ofList [c, c]))
      else return some (.operator (String.singleton c))
    else if c = '(' || c = ')' then
      skip 1
      return some (.operator (String.singleton c))
    else return none
  | none => return none

/-- An operator or a redirection that only the extended dialect has. -/
def extendedToken? : Reader (Option Token) := do
  let tokens : List (String × Token) := [
    ("&>>", .redirect 1 "&>>"), ("&>", .redirect 1 "&>"), ("<<<", .redirect 0 "<<<"), (";;&", .operator ";;&"),
    (";&", .operator ";&"), ("|&", .operator "|&")]
  let input := (← get).input
  match tokens.find? fun entry => input.take entry.1.length = entry.1.toList with
  | some (text, token) =>
    skip text.length
    return some token
  | none => return none

/-- The redirection that begins with an angle bracket, which has not been taken. -/
def redirection (descriptor : Option Nat) : Reader Token := do
  if ← take? '>' then
    let descriptor := descriptor.getD 1
    if ← take? '>' then return .redirect descriptor ">>"
    else if ← take? '|' then return .redirect descriptor ">|"
    else if ← take? '&' then return .redirect descriptor ">&"
    else return .redirect descriptor ">"
  else
    skip 1
    let descriptor := descriptor.getD 0
    if ← take? '<' then
      if (← isExtended) && (← get).input.head? = some '<' then
        skip 1
        return .redirect descriptor "<<<"
      return .redirect descriptor (if ← take? '-' then "<<-" else "<<")
    else if ← take? '&' then return .redirect descriptor "<&"
    else if ← take? '>' then return .redirect descriptor "<>"
    else return .redirect descriptor "<"

/-- A redirection, if one comes next. A digit before it names the descriptor. -/
def redirection? : Reader (Option Token) := do
  match ← peek with
  | some c =>
    if c = '<' || c = '>' then return some (← redirection none)
    else if c.isDigit then
      let input := (← get).input
      let digits := if ← isExtended then input.takeWhile Char.isDigit else [c]
      match input.drop digits.length with
      | d :: _ =>
        if d = '<' || d = '>' then
          skip digits.length
          return some (← redirection (String.ofList digits).toNat?)
        else return none
      | [] => return none
    else return none
  | none => return none

/-- The text of an alias, if a word is one that may be used here. -/
def aliasText? (word : Word) : Reader (Option (String × String)) := do
  let source ← get
  match word.bare? with
  | none => return none
  | some name =>
    if source.active.contains name then return none
    else return (source.aliases.lookup name).map (name, ·)

/-- Puts the text of an alias before what is to be read. -/
def enterAlias (name value : String) : Reader Unit :=
  modify fun source =>
    { source with
      input := value.toList ++ aliasEnd :: source.input, active := name :: source.active }

/-- The name and the value of a word that is an assignment. -/
def assignment? : Word → Option (String × Word)
  | .target name subscript appends :: rest => some (name, .target name subscript appends :: rest)
  | .text text false :: rest =>
    let (name, value) := text.toList.span (· ≠ '=')
    match value with
    | _ :: value =>
      if Name.isValid name then
        some (String.ofList name,
          if value.isEmpty then rest else .text (String.ofList value) false :: rest)
      else none
    | [] => none
  | _ => none

/-- How many commands a list has to have. -/
inductive Length where
  | any
  | some
  /-- As many as stand in a line. -/
  | line
deriving Repr, DecidableEq

/-- Joins a command to those before it. -/
def andThen : Command → Command → Command
  | .empty, second => second
  | first, second => .sequence first second

/-- Nothing but a redirection of the input gives what can be read from it, where the output of a command is wanted. -/
def contentsRead : Command → Command
  | .simple line [] [] [.file 0 .input path] =>
    .simple line [] [[textPart "cat" false]] [.file 0 .input path]
  | command => command

/-- What was to be read before a token that has just been taken. -/
def startOf (source : Source) : Token → List Char
  | .operator text => text.toList ++ source.input
  | _ => source.wordStart

/-- What is written from one place to the one before another. -/
def writtenBefore (start after : List Char) : String :=
  (String.ofList (start.take (start.length - after.length - 1))).trimAscii.toString

/-- A command that runs while others go on. -/
def inBackground (line : Nat) (text : String) : Command → Command
  | .subshell _ body [] => .background line body text
  | command => .background line command text

/-- The special builtins, whose names no function may have. -/
def specialBuiltins : List String := [
  ".", ":", "break", "continue", "eval", "exec", "exit", "export", "readonly", "return", "set",
  "shift", "times", "trap", "unset"]

/-- The parts between double quotes, which begin with an empty text. All parameters of the script
    make no field if there are none of them, even between quotes. -/
def quotedParts (inner : Array Part) : Array Part :=
  match inner.toList with
  | [_, .parameter "@" .none true] => inner.extract 1 2
  | [_, .parameter "@" (.slice _ _) true] => inner.extract 1 2
  | [_, .element _ (some [.text "@" _]) _ _ true] => inner.extract 1 2
  | _ => inner

/-- The text between single quotes after a dollar sign, in which there are escapes. -/
def escapeQuoted : Nat → List Char → Reader (List Char)
  | 0, sofar => return sofar.reverse
  | fuel + 1, sofar => do
    match (← get).input with
    | [] => failUnended "Unterminated quoted string" "'"
    | '\'' :: _ =>
      skip 1
      return sofar.reverse
    | '\\' :: c :: rest =>
      if "'\"?".contains c then
        skip 2
        escapeQuoted fuel (c :: sofar)
      else if c = 'c' then
        skip 3
        escapeQuoted fuel (Char.ofNat (((rest.head?.map Char.toUpper).getD '@').toNat % 32) :: sofar)
      else
        let rules : Escape.Rules := { hexadecimal := true, universal := true }
        match if c = 'E' then .text ['\x1b'] rest else Escape.replace rules (c :: rest) with
        | .text text left =>
          skip (rest.length + 2 - left.length)
          if text = ['\x00'] then
            discard (escapeQuoted fuel [])
            return sofar.reverse
          escapeQuoted fuel (text.reverse ++ sofar)
        | .cut => return sofar.reverse
    | c :: _ =>
      skip 1
      escapeQuoted fuel (c :: sofar)

/-- The length of the text up to a bracket that closes another one, if there is one in the line. -/
def bracketLength? : Nat → Nat → List Char → Option Nat
  | 0, _, _ => none
  | _, _, [] => none
  | fuel + 1, depth, c :: rest =>
    let next (depth : Nat) (rest : List Char) (count : Nat) : Option Nat :=
      (bracketLength? fuel depth rest).map (· + count)
    if c = '\n' then none
    else if c = '\\' then next depth (rest.drop 1) 2
    else if c = '\'' || c = '"' then
      let inside := rest.takeWhile (· ≠ c)
      next depth (rest.drop (inside.length + 1)) (inside.length + 2)
    else if c = '[' then next (depth + 1) rest 1
    else if c = ']' then if depth = 0 then some 0 else next (depth - 1) rest 1
    else next depth rest 1

/-- The name before a subscript and an equals sign, if that is what comes next. -/
def subscripted? (input : List Char) : Option String := do
  let name := input.takeWhile Name.isPart
  if !Name.isValid name then none
  match input.drop name.length with
  | '[' :: rest =>
    let length ← bracketLength? (rest.length + 1) 0 rest
    match rest.drop (length + 1) with
    | '=' :: _ | '+' :: '=' :: _ => return String.ofList name
    | _ => none
  | _ => none

/-- A word that adds to a variable, with that said at its start. -/
def markAdding (word : Word) : Word :=
  match word with
  | .text text false :: rest =>
    let (name, value) := text.toList.span (· ≠ '+')
    match value with
    | '+' :: '=' :: value =>
      if Name.isValid name then
        .target (String.ofList name) none true ::
          (if value.isEmpty then rest else .text (String.ofList value) false :: rest)
      else word
    | _ => word
  | _ => word

/-- True for a word after which the elements of an array may follow. -/
def awaitsElements : Word → Bool
  | [.target _ none _] => true
  | [.text text false] => text.endsWith "=" && Name.isValid (text.toList.dropLast)
  | _ => false

/-- True for the operators of conditions about one operand. -/
def isUnaryCheck (word : String) : Bool :=
  match word.toList with
  | ['-', c] => "abcdefghknoprstuvwxzGLNORS".contains c
  | _ => false

/-- True for the operators of conditions that are words. -/
def isBinaryCheck (word : String) : Bool :=
  ["=", "==", "!=", "=~", "-eq", "-ne", "-lt", "-le", "-gt", "-ge", "-nt", "-ot", "-ef"].contains word

/-- True when a list in parentheses may begin after what has been read of a word. -/
def opensList (sofar : Array Part) : Bool :=
  match sofar.back? with
  | some (.text text false) => "?*+@!".contains ((text.toList.getLast?).getD ' ')
  | _ => false

/-- Takes blanks and line breaks. -/
def skipSpace (breaks : Bool) : Reader Unit := do
  discard (takeWhile fun c => c = ' ' || c = '\t' || (breaks && c = '\n'))

end Reader

end Shell.Machine.Script
