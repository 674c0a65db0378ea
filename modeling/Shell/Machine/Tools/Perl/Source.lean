import Shell.Machine.Tools.Perl.Syntax
import Shell.Machine.Utility.Numeral

/-! # Sources of general programs

A program while it is being read: the characters to come, the line, which names are known, and what was wrong so far.
A text between quotes is taken as a whole before what is in it is looked at.
-/

namespace Shell.Machine.Perl

/-- What is wrong with a program. -/
structure Fault where
  /-- The lines to report. -/
  reports : List String
deriving Repr, Inhabited

/-- A program that is being read. -/
structure Source where
  input : List Char
  file : String
  line : Nat := 1
  /-- What was to be read when the last two tokens began. -/
  last : List Char := []
  beforeLast : List Char := []
  /-- The package that names belong to. -/
  package : String := "main"
  /-- The functions that have been declared. -/
  functions : List String := []
  /-- Names that stand for a value each. -/
  constants : List String := []
  /-- The functions of modules that have been asked for. -/
  imports : List (String × String) := []
  /-- Whether variables have to be declared. -/
  strict : Bool := false
  /-- Whether there was a part in which variables have to be declared, and one in which they need not be again. -/
  wasStrict : Bool := false
  wasLax : Bool := false
  /-- Whether the newer functions are there. -/
  newer : Bool := false
  declared : List Variable := []
  /-- What was wrong that did not keep the rest from being read. -/
  reports : List String := []
  /-- What is run before and after the program. -/
  begins : List Block := []
  ends : List Block := []
  /-- Whether a text between quotes is being read. -/
  inText : Bool := false
  /-- What comes after the end of the program. -/
  data : Option String := none
deriving Inhabited

/-- Reads from a source. -/
abbrev Reader := StateT Source (Except Fault)

/-- Stands for a line that was taken out of its place. -/
def lineMark : Char := '\u0102'

def countLines (text : List Char) : Nat :=
  text.countP fun c => c = '\n' || c = lineMark

namespace Reader

/-- How often something is done that is expected to end. -/
def patience : Nat := 1000000000

/-- The place that is being read. -/
def placeOf (source : Source) : String :=
  " at " ++ source.file ++ " line " ++ toString source.line

/-- The line that follows all that is wrong with a program. -/
def conclusion (source : Source) : String :=
  "Execution of " ++ source.file ++ " aborted due to compilation errors.\n"

/-- Refuses a program with one report. -/
def refuse {α : Type} (text : String) : Reader α := do
  throw { reports := [text ++ placeOf (← get) ++ ".\n"] }

def isByLine (source : Source) : Bool := source.file ≠ "-e" && !source.file.startsWith "(eval"

/-- What has been read since the last two tokens began, if they are on the same line, or since the last one began. -/
def nearOf (source : Source) : List Char :=
  let between := source.beforeLast.take (source.beforeLast.length - source.last.length)
  let isApart := source.beforeLast.length ≤ source.last.length || (isByLine source && between.contains '\n')
  let from_ := if isApart then source.last else source.beforeLast
  let near := (from_.take (from_.length - source.input.length)).dropWhile Char.isWhitespace
  let follows := near.getLast? = some ')' || near.reverse.take 2 = "ym".toList
  let near := if follows then near ++ source.input.takeWhile Char.isWhitespace else near
  near.filter (· ≠ lineMark)

/-- The place of an error; at the end of a program the last line. -/
def errorPlace (source : Source) : String :=
  let endsLine := source.input.isEmpty && source.last.getLast? = some '\n' && 1 < source.line
  placeOf { source with line := if endsLine then source.line - 1 else source.line }

/-- Refuses a program whose parts do not fit together, with a report before the usual one. -/
def misfitAfter {α : Type} (report : Source → List String) : Reader α := do
  let source ← get
  let near := if source.input.isEmpty then [] else nearOf source
  let shown := if near.isEmpty then "at EOF" else "near \"" ++ String.ofList near ++ "\""
  let text := "syntax error" ++ errorPlace source ++ ", " ++ shown ++ "\n"
  throw { reports := source.reports ++ report source ++ [text, conclusion source] }

/-- Refuses a program whose parts do not fit together. -/
def misfit {α : Type} : Reader α := misfitAfter fun _ => []

/-- Takes so many characters. -/
def skip (count : Nat) : Reader Unit :=
  modify fun source =>
    { source with input := source.input.drop count, line := source.line + countLines (source.input.take count) }

/-- The characters to come. -/
def ahead : Reader (List Char) := do
  return (← get).input

/-- True for the first characters of names. -/
def isNameStart (c : Char) : Bool := c.isAlpha || c = '_'

def isNamePart (c : Char) : Bool := c.isAlphanum || c = '_'

/-- The length of a name, with the packages that it is in. -/
def nameLength : Nat → List Char → Nat
  | 0, _ => 0
  | fuel + 1, text =>
    let own := (text.takeWhile isNamePart).length
    match text.drop own with
    | ':' :: ':' :: rest => if own = 0 && rest.head?.all (!isNameStart ·) then 0 else own + 2 + nameLength fuel rest
    | _ => own

/-- The name that comes next, or an empty text. -/
def nameAhead (input : List Char) : String :=
  match input with
  | c :: _ => if isNameStart c || c = ':' then String.ofList (input.take (nameLength (input.length + 1) input)) else ""
  | [] => ""

/-- Drops what is only explained: lines from one that begins with an equals sign and a letter to `=cut`. -/
def dropManual : Nat → List Char → List Char → List Char × List Char
  | 0, sofar, rest => (sofar, rest)
  | fuel + 1, sofar, rest =>
    let line := rest.takeWhile (· ≠ '\n')
    let rest := rest.drop (line.length + 1)
    let sofar := lineMark :: sofar
    if line.take 4 = "=cut".toList || rest.isEmpty then (sofar, rest) else dropManual fuel sofar rest

/-- Drops blanks and comments. `atStart` says whether a line begins here. -/
def skipSpaceFrom : Nat → Bool → Reader Unit
  | 0, _ => return
  | fuel + 1, atStart => do
    match ← ahead with
    | '\n' :: _ =>
      skip 1
      skipSpaceFrom fuel true
    | '=' :: c :: rest =>
      if atStart && c.isAlpha then
        let (marks, rest) := dropManual (rest.length + 2) [] ('=' :: c :: rest)
        modify fun source => { source with input := rest, line := source.line + marks.length }
        skipSpaceFrom fuel true
    | '#' :: rest =>
      skip (rest.takeWhile (· ≠ '\n')).length
      skip 1
      skipSpaceFrom fuel false
    | c :: _ =>
      if c = lineMark then
        skip 1
        skipSpaceFrom fuel true
      else if c.isWhitespace then
        skip 1
        skipSpaceFrom fuel false
    | [] => return

/-- Drops blanks and comments, though not in a text. -/
def skipSpace : Reader Unit := do
  let source ← get
  if source.inText then return
  match source.input with
  | c :: _ =>
    if c.isWhitespace || c = '#' || c = lineMark then skipSpaceFrom (source.input.length + 1) false
    else if c = '=' && source.last.isEmpty then skipSpaceFrom (source.input.length + 1) true
  | [] => return

/-- Notes that a token begins. -/
def mark : Reader Unit :=
  modify fun source => { source with beforeLast := source.last, last := source.input }

/-- Takes a text if it comes next, past blanks. -/
def take? (text : String) : Reader Bool := do
  skipSpace
  let source ← get
  if source.input.take text.length = text.toList then
    mark
    skip text.length
    return true
  else return false

/-- Takes a text that has to come next, past blanks. -/
def expect (text : String) : Reader Unit := do
  if !(← take? text) then
    skipSpace
    let input ← ahead
    if input.isEmpty && (text = "\x7d" || text = "]") then
      misfitAfter fun source =>
        ["Missing right curly or square bracket" ++ errorPlace source ++ ", at end of line\n"]
    mark
    skip (max 1 (nameAhead input).length)
    misfit

/-- The word that comes next, past blanks. -/
def wordAhead : Reader String := do
  skipSpace
  return nameAhead (← ahead)

/-- Takes a word if it comes next, past blanks. -/
def takeWord? (word : String) : Reader Bool := do
  if (← wordAhead) = word then
    mark
    skip word.length
    return true
  else return false

/-- What closes a text that a character opens. -/
def closerOf : Char → Char
  | '(' => ')'
  | '[' => ']'
  | '\x7b' => '\x7d'
  | '<' => '>'
  | c => c

/-- A text up to what closes it. Backslashes stay. -/
def upTo (open_ close : Char) : Nat → Nat → List Char → List Char → Option (List Char × List Char)
  | 0, _, _, _ => none
  | _, _, _, [] => none
  | fuel + 1, depth, sofar, c :: rest =>
    if c = '\\' then
      match rest with
      | d :: rest => upTo open_ close fuel depth (d :: c :: sofar) rest
      | [] => none
    else if c = close then
      if depth = 0 then some (sofar.reverse, rest) else upTo open_ close fuel (depth - 1) (c :: sofar) rest
    else if c = open_ && open_ ≠ close then upTo open_ close fuel (depth + 1) (c :: sofar) rest
    else upTo open_ close fuel depth (c :: sofar) rest

/-- Takes a text between a delimiter, which comes next, and what closes it. -/
def delimited : Reader (Char × List Char) := do
  match ← ahead with
  | open_ :: rest =>
    match upTo open_ (closerOf open_) (rest.length + 1) 0 [] rest with
    | some (text, after) =>
      skip (rest.length + 1 - after.length)
      return (open_, text.filter (· ≠ lineMark))
    | none =>
      let shown := closerOf open_
      let quote := if shown = '"' then "'" else "\""
      refuse ("Can't find string terminator " ++ quote ++ String.singleton shown ++ quote ++ " anywhere before EOF")
  | [] => misfit

/-- The characters of a text in which only its delimiters and backslashes are escaped. -/
def plainText (open_ : Char) : List Char → List Char
  | '\\' :: c :: rest =>
    if c = '\\' || c = open_ || c = closerOf open_ then c :: plainText open_ rest
    else '\\' :: c :: plainText open_ rest
  | c :: rest => c :: plainText open_ rest
  | [] => []

def wordsOf (text : List Char) : List String :=
  (String.ofList (text.map fun c => if c.isWhitespace then ' ' else c)).splitOn " " |>.filter (· ≠ "")

/-- The lines of a here-document, given what ends it: its text, and what comes after it. -/
def documentLines (ending : List Char) (indented : Bool) :
    Nat → List (List Char) → List Char → Option (List (List Char) × List Char)
  | 0, _, _ => none
  | _, _, [] => none
  | fuel + 1, sofar, rest =>
    let line := rest.takeWhile (· ≠ '\n')
    let rest := rest.drop (line.length + 1)
    let shown := if indented then line.dropWhile (fun c => c = ' ' || c = '\t') else line
    if shown = ending then some (sofar.reverse, rest) else documentLines ending indented fuel (line :: sofar) rest

/-- Lines without the blanks that all of them begin with. -/
def outdented (lines : List (List Char)) : List (List Char) :=
  let isBlank (c : Char) : Bool := c = ' ' || c = '\t'
  let widths := (lines.filter fun line => line.any (!isBlank ·)).map fun line => (line.takeWhile isBlank).length
  let width := widths.foldl min (widths.headD 0)
  lines.map (List.drop width)

/-- Takes a here-document out of the lines after this one. -/
def hereDocument (ending : List Char) (indented : Bool) : Reader (List Char) := do
  let source ← get
  let here := source.input.takeWhile (· ≠ '\n')
  let rest := source.input.drop (here.length + 1)
  match documentLines ending indented (rest.length + 1) [] rest with
  | some (lines, after) =>
    let marks := List.replicate (lines.length + 1) lineMark
    set { source with input := here ++ '\n' :: marks ++ after }
    let lines := if indented then outdented lines else lines
    return lines.flatMap fun line => line ++ ['\n']
  | none =>
    refuse ("Can't find string terminator \"" ++ String.ofList ending ++ "\" anywhere before EOF")

/-- A variable as it is known from everywhere. -/
def plainName (name : String) : String :=
  let name := if name.startsWith "::" then "main" ++ name else name
  if name.startsWith "main::" then (name.drop 6).toString else name

def declare (variable_ : Variable) : Reader Unit :=
  modify fun source => { source with declared := variable_ :: source.declared }

/-- Names that belong to no package. -/
def isSpecialName (name : String) : Bool :=
  ["ENV", "ARGV", "INC", "SIG", "STDIN", "STDOUT", "STDERR", "ARGVOUT", "_", "0", "a", "b"].contains name ||
    !(name.toList.head?.any fun c => c.isAlpha || c = '_')

/-- Checks that a variable was declared, if that has to be done. -/
def requireDeclared (variable_ : Variable) : Reader Unit := do
  let source ← get
  let sign := match variable_.kind with
    | .scalar => "$"
    | .array => "@"
    | .hash => "%"
    | _ => ""
  if source.strict && sign ≠ "" && !isSpecialName variable_.name && !variable_.name.contains ':' &&
      !source.declared.contains variable_ then
    let name := sign ++ variable_.name
    let text := "Global symbol \"" ++ name ++ "\" requires explicit package name (did you forget to declare \"my " ++
      name ++ "\"?)" ++ placeOf source ++ ".\n"
    set { source with reports := source.reports ++ [text] }

/-- Reads something in a scope of its own: what is declared there is not known after it. -/
def inScope {α : Type} (read : Reader α) : Reader α := do
  let before ← get
  let result ← read
  modify fun source =>
    { source with
      declared := before.declared, strict := before.strict, package := before.package, newer := before.newer }
  return result

end Reader

end Shell.Machine.Perl
