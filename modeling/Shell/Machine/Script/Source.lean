import Shell.Machine.Script.Syntax
import Shell.Name

/-! # Sources of scripts

A script while it is being read: the characters to come, the line, and what has been put off, which are tokens
that were looked at too early and here-documents whose lines have not been reached.
-/

namespace Shell.Machine.Script

/-- A token of a script. -/
inductive Token where
  | word (parts : Word)
  /-- A word that means something where it stands. -/
  | reserved (text : String)
  | operator (text : String)
  | newline
  | finish
  /-- A redirection, given how to make one from the word that follows. -/
  | redirect (descriptor : Nat) (operator : String)

namespace Token

/-- How a token is named in reports. -/
def describe : Token → String
  | word _ => "word"
  | reserved text => "\"" ++ text ++ "\""
  | operator text => "\"" ++ text ++ "\""
  | newline => "newline"
  | finish => "end of file"
  | redirect _ _ => "redirection"

end Token

/-- A here-document that has been announced. -/
structure Document where
  number : Nat
  /-- The line that ends it. -/
  delimiter : String
  /-- Whether nothing in it is expanded. -/
  verbatim : Bool
  /-- Whether tabulators at the beginnings of lines do not count. -/
  stripsTabs : Bool
deriving Repr, DecidableEq, Inhabited

/-- A script that is being read. -/
structure Source where
  input : List Char
  line : Nat := 1
  dialect : Dialect := .plain
  /-- Whether patterns may have parts in parentheses. -/
  hasLists : Bool := false
  /-- All lines, of which errors show one. -/
  lines : List String := []
  /-- The line in which what is being read has begun. -/
  openLine : Nat := 1
  /-- The number of the first line. -/
  firstLine : Nat := 1
  /-- What was to be read when the last word began, and when it ended. -/
  wordStart : List Char := []
  wordEnd : List Char := []
  pushed : Option Token := none
  aliases : List (String × String) := []
  /-- The aliases whose text is being read, the innermost first. -/
  active : List String := []
  /-- Whether the next word may be an alias because the last one ended in a blank. -/
  aliasFollows : Bool := false
  awaited : List Document := []
  /-- The here-documents that have been read. -/
  documents : List (Nat × Word) := []
  /-- The number of the next here-document. -/
  nextDocument : Nat := 0
  /-- What is odd about what has been read, with the lines. -/
  warnings : List (Nat × String) := []

/-- How a token that has just been taken is written. -/
def Token.written (source : Source) : Token → String
  | .word _ => String.ofList (source.wordStart.take (source.wordStart.length - source.wordEnd.length))
  | .reserved text => text
  | .operator text => text
  | .newline => "newline"
  | .finish => "end of file"
  | .redirect _ text => text

/-- Reads from a source. -/
abbrev Reader := StateT Source (Except SyntaxError)

namespace Reader

/-- Refuses the script. -/
def fail {α : Type} (text : String) : Reader α := do
  throw { line := (← get).line, text := "Syntax error: " ++ text }

/-- True when scripts have more than the usual commands and expansions. -/
def isExtended : Reader Bool := do
  return (← get).dialect = .extended

/-- Refuses a script that ends before something that has begun, which a text would have ended. -/
def failUnended {α : Type} (report closing : String) : Reader α := do
  let source ← get
  if source.dialect = .plain then fail report
  throw { line := source.openLine, text := "unexpected EOF while looking for matching `" ++ closing ++ "'" }

/-- The line that is being read. -/
def currentLine (source : Source) : String :=
  (source.lines[source.line - source.firstLine]?).getD ""

/-- The number of the line that a script ends before. -/
def endLine (source : Source) : Nat :=
  let count := source.lines.length
  source.firstLine + (if source.lines.getLast? = some "" then count - 1 else count)

/-- Refuses a script, with reports before that about the place. -/
def failNear {α : Type} (reports : List String) : Reader α := do
  let source ← get
  let shown := "\x60" ++ currentLine source ++ "'"
  let more := (reports.drop 1 ++ [shown]).map fun text => (source.line, text)
  throw { line := source.line, text := reports.headD "", more }

/-- The end of the characters that have been taken from a line, back to a blank or an operator. -/
def latestText (source : Source) : String :=
  let left := (source.input.takeWhile (· ≠ '\n')).length
  let taken := (currentLine source).toList
  let taken := taken.take (taken.length - left)
  let latest := taken.reverse.dropWhile fun c => c = ' ' || c = '\t'
  String.ofList (latest.takeWhile fun c => !(" \t;|&".contains c)).reverse

/-- Reads something that has its own end, which it is an error not to find. -/
def within {α : Type} (read : Reader α) : Reader α := do
  let before := (← get).openLine
  modify fun source => { source with openLine := source.line }
  let result ← read
  modify fun source => { source with openLine := before }
  return result

/-- Stands after the text of an alias; no byte looks like it. -/
def aliasEnd : Char := '\u0100'

/-- Leaves the innermost alias that is being read. -/
def leaveAlias (source : Source) : Source :=
  match source.active with
  | [] => source
  | name :: active =>
    let value := (source.aliases.lookup name).getD ""
    { source with active, aliasFollows := value.endsWith " " || value.endsWith "\t" }

/-- Drops broken lines and the ends of aliases from the front of a source. -/
def settleFrom (source : Source) : List Char → Source
  | '\\' :: '\n' :: rest => settleFrom { source with line := source.line + 1 } rest
  | c :: rest =>
    if c = aliasEnd then settleFrom (leaveAlias source) rest
    else { source with input := c :: rest }
  | [] => { source with input := [] }

/-- The next character, if there is one. A backslash before the end of a line joins lines. -/
def peek : Reader (Option Char) := do
  modify fun source => settleFrom source source.input
  return (← get).input.head?

def countLines (text : List Char) : Nat :=
  text.countP (· = '\n')

/-- Takes so many characters. -/
def skip (count : Nat) : Reader Unit :=
  modify fun source =>
    { source with
      input := source.input.drop count, line := source.line + countLines (source.input.take count) }

/-- Takes the next character if it is a given one. -/
def take? (c : Char) : Reader Bool := do
  if (← peek) = some c then
    skip 1
    return true
  else return false

/-- Takes as many characters as satisfy a condition. Lines are not joined. -/
def takeWhile (accept : Char → Bool) : Reader String :=
  modifyGet fun source =>
    let (taken, input) := source.input.span accept
    (String.ofList (taken.filter (· ≠ aliasEnd)),
      { source with input, line := source.line + countLines taken })

/-- Takes as many characters of a name as there are, though a backslash may break the line in it. -/
def takeName (accept : Char → Bool) : Nat → Reader String
  | 0 => return ""
  | fuel + 1 => do
    match ← peek with
    | some c =>
      if accept c then
        let text ← takeWhile accept
        return text ++ (← takeName accept fuel)
      else return ""
    | none => return ""

/-- Puts a token off. -/
def push (token : Token) : Reader Unit :=
  modify fun source => { source with pushed := some token }

end Reader

/-! ## Here-documents -/

namespace Document

/-- A line of a document without what does not count. -/
def trimLine (document : Document) (line : List Char) : List Char :=
  if document.stripsTabs then line.dropWhile (· = '\t') else line

/-- Divides text into the lines of a document and what comes after it, and says whether the end was
    found. `sofar` is in reverse. -/
def divide (document : Document) : Nat → List Char → List Char → List Char × List Char × Bool
  | 0, sofar, rest => (sofar.reverse, rest, false)
  | fuel + 1, sofar, text =>
    match text with
    | [] => (sofar.reverse, [], false)
    | _ =>
      let (line, rest) := text.span (· ≠ '\n')
      let line := document.trimLine line
      if String.ofList line = document.delimiter then (sofar.reverse, rest.drop 1, true)
      else divide document fuel ((rest.take 1).reverse ++ line.reverse ++ sofar) (rest.drop 1)

/-- What is odd about a document that begins before a line of a script and ends with the script, and where. -/
def warning (document : Document) (source : Source) : Nat × String :=
  (Reader.endLine source - 1, "warning: here-document at line " ++ toString (source.line - 1) ++
    " delimited by end-of-file (wanted `" ++ document.delimiter ++ "')")

end Document

/-- The texts that are reserved where a command may begin. -/
def reservedWords : List String := [
  "!", "case", "do", "done", "elif", "else", "esac", "fi", "for", "if", "in", "then", "until",
  "while", "\x7b", "\x7d"]

def Dialect.reservedWords : Dialect → List String
  | .plain => Script.reservedWords
  | .extended => Script.reservedWords ++ ["[[", "]]", "coproc", "function", "select", "time"]

/-- True for a token that ends a list of commands. -/
def Token.endsList : Token → Bool
  | .finish => true
  | .operator text => [")", ";;", ";&", ";;&"].contains text
  | .reserved text => ["do", "done", "elif", "else", "esac", "fi", "then", "\x7d"].contains text
  | _ => false

/-- True for a token that ends a pipeline, or a line. -/
def Token.endsPipeline : Token → Bool
  | .newline => true
  | .operator text => text = ";" || text = "&&" || text = "||"
  | _ => false

end Shell.Machine.Script
