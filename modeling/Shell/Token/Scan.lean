import Shell.Token

/-! # Scanning

A script is divided into items by a machine that takes one character at a time. Quoting and substitutions
nest inside a word, so a mode carries the word read so far; the items of a text in two parts are those of
the first part followed by those that its last mode makes of the second.
-/

namespace Shell

/-- A word that is being read. -/
structure Draft where
  start : Place
  text : String := ""
  quoted : Bool := false
  subs : List Substitution := []
deriving Repr, DecidableEq, Inhabited

namespace Draft

/-- Adds a character. -/
def push (c : Char) (draft : Draft) : Draft :=
  { draft with text := draft.text.push c }

/-- Notes that something was quoted. -/
def quote (draft : Draft) : Draft :=
  { draft with quoted := true }

/-- Adds a substitution and its marker. -/
def fill (sub : Substitution) (draft : Draft) : Draft :=
  { draft with text := draft.text.push marker, subs := draft.subs ++ [sub] }

/-- The finished word. -/
def toItem (draft : Draft) : Item :=
  ⟨.word, draft.start, draft.text, draft.quoted, draft.subs⟩

end Draft

namespace Scan

/-- Where in a word a substitution stands. -/
inductive Context where
  | bare
  /-- Inside double quotes, which were opened at a place. -/
  | double (opened : Place)
deriving Repr, DecidableEq, Inhabited

/-- A substitution that is being read, and the word it belongs to. -/
structure Hole where
  draft : Draft
  context : Context
  /-- Where the dollar sign or the back quote stands. -/
  opened : Place
deriving Repr, DecidableEq, Inhabited

/-- The operators that a second, equal character makes into another. -/
inductive Doubling where
  | ampersand
  | bar
  | semicolon
deriving Repr, DecidableEq, Inhabited

namespace Doubling

/-- The operator that a character may begin. -/
def ofChar? : Char → Option Doubling
  | '&' => some ampersand
  | '|' => some bar
  | ';' => some semicolon
  | _ => none

/-- The character. -/
def char : Doubling → Char
  | ampersand => '&'
  | bar => '|'
  | semicolon => ';'

/-- The operator written with one character. -/
def single (operator : Doubling) (start : Place) : Item :=
  match operator with
  | ampersand => { token := .background, start, value := "&" }
  | bar => { token := .pipe, start, value := "|" }
  | semicolon => { token := .semicolon, start, value := ";" }

/-- The operator written with two. -/
def double (operator : Doubling) (start : Place) : Item :=
  match operator with
  | ampersand => { token := .both, start, value := "&&" }
  | bar => { token := .either, start, value := "||" }
  | semicolon => { token := .endCase, start, value := ";;" }

end Doubling

/-- Where in the script of a command substitution the reading stands. -/
inductive ScriptPart where
  | plain
  /-- After a backslash. -/
  | escaped
  | single
  | double
  /-- After a backslash in double quotes. -/
  | doubleEscaped
deriving Repr, DecidableEq, Inhabited

/-- What the characters so far have begun. -/
inductive Mode where
  /-- Nothing: the next token may begin. -/
  | between
  /-- A comment, which goes on to the end of the line. -/
  | comment
  /-- A backslash where a token may begin. -/
  | continuation (start : Place)
  /-- An operator that may be doubled. -/
  | operator (operator : Doubling) (start : Place)
  | word (draft : Draft)
  /-- A backslash in a word. -/
  | escape (draft : Draft)
  | single (draft : Draft) (opened : Place)
  | double (draft : Draft) (opened : Place)
  /-- A backslash in double quotes. -/
  | doubleEscape (draft : Draft) (opened : Place)
  /-- A dollar sign. -/
  | dollar (hole : Hole)
  /-- A dollar sign and the beginning of a name. -/
  | name (hole : Hole) (text : String)
  /-- What stands in braces after a dollar sign. -/
  | braces (hole : Hole) (text : String)
  /-- A dollar sign and one bracket. -/
  | bracket (hole : Hole)
  /-- An expression, with so many brackets of its own open. -/
  | arithmetic (hole : Hole) (depth : Nat) (text : String)
  /-- An expression and the first of the two brackets that close it. -/
  | arithmeticEnd (hole : Hole) (text : String)
  /-- A script, with so many brackets of its own open. -/
  | script (hole : Hole) (part : ScriptPart) (depth : Nat) (text : String)
  /-- A script in back quotes. -/
  | back (hole : Hole) (text : String)
  /-- A backslash in back quotes. -/
  | backEscape (hole : Hole) (text : String)
  /-- Nothing more, after an error. -/
  | halted
deriving Repr, DecidableEq, Inhabited

/-- What a scan finds: items, or the error that ends it. -/
abbrev Found := List (Except ScanError Item)

/-- True for the characters that end a word when they are not quoted. -/
def isDelimiter (c : Char) : Bool :=
  c == ' ' || c == '\t' || c == '\n' || c == ';' || c == '&' || c == '|' || c == '(' || c == ')'

def isSpecialParameter (c : Char) : Bool :=
  c == '?' || c == '#' || c == '$' || c == '!' || c == '@' || c == '*' || c == '-'
    || ('0' ≤ c && c ≤ '9')

/-- Goes on with a word after a substitution. -/
def Context.resume (draft : Draft) : Context → Mode
  | bare => .word draft
  | double opened => .double draft opened

/-- Goes on with the word of a substitution that has been read. -/
def Hole.fill (sub : Substitution) (hole : Hole) : Mode :=
  hole.context.resume (hole.draft.fill sub)

/-- A character of a word that does not end it. -/
def wordChar (draft : Draft) (place : Place) (c : Char) : Mode :=
  if c = '\\' then .escape draft
  else if c = '\'' then .single draft.quote place
  else if c = '"' then .double draft.quote place
  else if c = '`' then .back ⟨draft, .bare, place⟩ ""
  else if c = '$' then .dollar ⟨draft, .bare, place⟩
  else if c = marker then .word draft
  else .word (draft.push c)

/-- A character where a token may begin. -/
def betweenChar (place : Place) (c : Char) : Found × Mode :=
  if c = ' ' || c = '\t' || c = marker then ([], .between)
  else if c = '#' then ([], .comment)
  else if c = '\\' then ([], .continuation place)
  else if c = '\n' then ([.ok { token := .newline, start := place }], .between)
  else if c = '(' then ([.ok { token := .opening, start := place, value := "(" }], .between)
  else if c = ')' then ([.ok { token := .closing, start := place, value := ")" }], .between)
  else
    match Doubling.ofChar? c with
    | some operator => ([], .operator operator place)
    | none => ([], wordChar { start := place } place c)

/-- A character of a word or after it. -/
def bareChar (draft : Draft) (place : Place) (c : Char) : Found × Mode :=
  if isDelimiter c then
    let (found, mode) := betweenChar place c
    (.ok draft.toItem :: found, mode)
  else ([], wordChar draft place c)

/-- A character after a backslash in a word. A line break disappears, and anything else is taken as it is. -/
def escapedChar (draft : Draft) (c : Char) : Mode :=
  if c = '\n' then .word draft else .word (draft.quote.push c)

/-- A character in double quotes. -/
def doubleChar (draft : Draft) (opened place : Place) (c : Char) : Mode :=
  if c = '"' then .word draft
  else if c = '\\' then .doubleEscape draft opened
  else if c = '$' then .dollar ⟨draft, .double opened, place⟩
  else if c = '`' then .back ⟨draft, .double opened, place⟩ ""
  else if c = marker then .double draft opened
  else .double (draft.push c) opened

/-- A character after a backslash in double quotes. A line break disappears, a character that would
    be special is taken as it is, and before any other the backslash stands for itself. -/
def doubleEscapedChar (draft : Draft) (opened place : Place) (c : Char) : Mode :=
  if c = '$' || c = '`' || c = '"' || c = '\\' then .double (draft.push c) opened
  else if c = '\n' then .double draft opened
  else doubleChar (draft.push '\\') opened place c

/-- A character of a word after a substitution. -/
def Context.char (draft : Draft) (place : Place) (c : Char) : Context → Found × Mode
  | bare => bareChar draft place c
  | double opened => ([], doubleChar draft opened place c)

/-- A character after a dollar sign. Where no substitution begins, the sign stands for itself. -/
def dollarChar (hole : Hole) (place : Place) (c : Char) : Found × Mode :=
  if c = '(' then ([], .bracket hole)
  else if c = '\x7b' then ([], .braces hole "")
  else if isSpecialParameter c then ([], hole.fill (.parameter (String.singleton c)))
  else if Name.isStart c then ([], .name hole (String.singleton c))
  else hole.context.char (hole.draft.push '$') place c

/-- A character of an expression. -/
def arithmeticChar (hole : Hole) (depth : Nat) (text : String) (c : Char) : Mode :=
  if c = '(' then .arithmetic hole (depth + 1) (text.push c)
  else if c = ')' then
    match depth with
    | 0 => .arithmeticEnd hole text
    | depth + 1 => .arithmetic hole depth (text.push c)
  else .arithmetic hole depth (text.push c)

/-- A character of a script. Brackets count only outside quotes. -/
def scriptChar (hole : Hole) (part : ScriptPart) (depth : Nat) (text : String) (c : Char) : Mode :=
  let next part depth := Mode.script hole part depth (text.push c)
  match part with
  | .plain =>
    if c = '\'' then next .single depth
    else if c = '"' then next .double depth
    else if c = '\\' then next .escaped depth
    else if c = '(' then next .plain (depth + 1)
    else if c = ')' then
      match depth with
      | 0 => hole.fill (.command text)
      | depth + 1 => next .plain depth
    else next .plain depth
  | .escaped => next .plain depth
  | .single => next (if c = '\'' then .plain else .single) depth
  | .double => next (if c = '\\' then .doubleEscaped else if c = '"' then .plain else .double) depth
  | .doubleEscaped => next .double depth

/-- A character after a backslash in back quotes. -/
def backEscapedChar (hole : Hole) (text : String) (c : Char) : Mode :=
  if c = '`' || c = '\\' || c = '$' then .back hole (text.push c)
  else .back hole ((text.push '\\').push c)

/-- What one character, which stands at a place, makes of a mode. -/
def step (place : Place) (c : Char) : Mode → Found × Mode
  | .between => betweenChar place c
  | .comment => if c = '\n' then betweenChar place c else ([], .comment)
  | .continuation start =>
    if c = '\n' then ([], .between) else ([], escapedChar { start } c)
  | .operator operator start =>
    if c = operator.char then ([.ok (operator.double start)], .between)
    else
      let (found, mode) := betweenChar place c
      (.ok (operator.single start) :: found, mode)
  | .word draft => bareChar draft place c
  | .escape draft => ([], escapedChar draft c)
  | .single draft opened =>
    if c = '\'' then ([], .word draft)
    else if c = marker then ([], .single draft opened)
    else ([], .single (draft.push c) opened)
  | .double draft opened => ([], doubleChar draft opened place c)
  | .doubleEscape draft opened => ([], doubleEscapedChar draft opened place c)
  | .dollar hole => dollarChar hole place c
  | .name hole text =>
    if Name.isPart c then ([], .name hole (text.push c))
    else hole.context.char (hole.draft.fill (.parameter text)) place c
  | .braces hole text =>
    if c = '\x7d' then ([], hole.fill (.parameter text)) else ([], .braces hole (text.push c))
  | .bracket hole =>
    if c = '(' then ([], .arithmetic hole 0 "") else ([], scriptChar hole .plain 0 "" c)
  | .arithmetic hole depth text => ([], arithmeticChar hole depth text c)
  | .arithmeticEnd hole text =>
    if c = ')' then ([], hole.fill (.arithmetic text))
    else ([.error (.openSubstitution hole.opened)], .halted)
  | .script hole part depth text => ([], scriptChar hole part depth text c)
  | .back hole text =>
    if c = '`' then ([], hole.fill (.command text))
    else if c = '\\' then ([], .backEscape hole text)
    else ([], .back hole (text.push c))
  | .backEscape hole text => ([], backEscapedChar hole text c)
  | .halted => ([], .halted)

/-- The item at the end of a text. -/
def finishItem (place : Place) : Item :=
  { token := .finish, start := place }

/-- What is found when the text ends inside a word or right after it. -/
def Context.finish (draft : Draft) (place : Place) : Context → Found
  | bare => [.ok draft.toItem, .ok (finishItem place)]
  | double opened => [.error (.openQuote .double opened)]

/-- What the end of a text, which is at a place, makes of a mode. -/
def finish (place : Place) : Mode → Found
  | .between | .comment => [.ok (finishItem place)]
  | .continuation start => Context.bare.finish (Draft.push '\\' { start }) place
  | .operator operator start => [.ok (operator.single start), .ok (finishItem place)]
  | .word draft => Context.bare.finish draft place
  | .escape draft => Context.bare.finish (draft.push '\\') place
  | .single _ opened => [.error (.openQuote .single opened)]
  | .double _ opened | .doubleEscape _ opened => [.error (.openQuote .double opened)]
  | .dollar hole => hole.context.finish (hole.draft.push '$') place
  | .name hole text => hole.context.finish (hole.draft.fill (.parameter text)) place
  | .braces hole _ | .bracket hole | .arithmetic hole _ _ | .arithmeticEnd hole _
  | .script hole _ _ _ => [.error (.openSubstitution hole.opened)]
  | .back hole _ | .backEscape hole _ => [.error (.openQuote .back hole.opened)]
  | .halted => []

/-- What is found in a text that begins at a place and in a mode. -/
def run (place : Place) (mode : Mode) : List Char → Found
  | [] => finish place mode
  | c :: rest =>
    let (found, mode') := step place c mode
    found ++ run (place.after c) mode' rest

-- their equations, generated here once for all proofs
attribute [grind =] scriptChar step finish run

end Scan

/-- The items of a text. The last is always the end of the text, or else an error, and there is no
    other of either. -/
def scan (text : String) : List (Except ScanError Item) :=
  Scan.run {} .between text.toList

end Shell
