import Shell.Word

/-! # Tokens

The lexical categories of a script, the reserved words, and the items that a script is divided into.
-/

namespace Shell

/-- The category of an item. -/
inductive Token where
  | word
  /-- The end of the script. -/
  | finish
  | newline
  /-- `&&` -/
  | both
  /-- `||` -/
  | either
  /-- `&` -/
  | background
  /-- `|` -/
  | pipe
  /-- `;` -/
  | semicolon
  /-- `;;` -/
  | endCase
  /-- `(` -/
  | opening
  /-- `)` -/
  | closing
  | ifWord | thenWord | elseWord | elifWord | fiWord
  | doWord | doneWord
  | caseWord | esacWord
  | whileWord | untilWord | forWord | inWord
  /-- `!` -/
  | bang
  | openBrace
  | closeBrace
deriving Repr, DecidableEq, Inhabited

namespace Token

/-- Every category. -/
def all : List Token := [
  word, finish, newline, both, either, background, pipe, semicolon, endCase, opening, closing,
  ifWord, thenWord, elseWord, elifWord, fiWord, doWord, doneWord, caseWord, esacWord, whileWord,
  untilWord, forWord, inWord, bang, openBrace, closeBrace]

/-- The name of a category in listings. -/
def name : Token → String
  | word => "WORD"
  | finish => "EOF"
  | newline => "NEWLINE"
  | both => "AND"
  | either => "OR"
  | background => "BACKGROUND"
  | pipe => "PIPE"
  | semicolon => "SEMI"
  | endCase => "ENDCASE"
  | opening => "LPAREN"
  | closing => "RPAREN"
  | ifWord => "IF"
  | thenWord => "THEN"
  | elseWord => "ELSE"
  | elifWord => "ELIF"
  | fiWord => "FI"
  | doWord => "DO"
  | doneWord => "DONE"
  | caseWord => "CASE"
  | esacWord => "ESAC"
  | whileWord => "WHILE"
  | untilWord => "UNTIL"
  | forWord => "FOR"
  | inWord => "IN"
  | bang => "BANG"
  | openBrace => "LBRACE"
  | closeBrace => "RBRACE"

def ofName? (text : String) : Option Token :=
  all.find? fun token => token.name == text

/-- The reserved words with their categories. -/
def reserved : List (String × Token) := [
  ("if", ifWord), ("then", thenWord), ("else", elseWord), ("elif", elifWord), ("fi", fiWord),
  ("do", doWord), ("done", doneWord), ("case", caseWord), ("esac", esacWord),
  ("while", whileWord), ("until", untilWord), ("for", forWord), ("in", inWord), ("!", bang),
  ("\x7b", openBrace), ("\x7d", closeBrace)]

/-- The category of a reserved word. -/
def ofReserved? (text : String) : Option Token :=
  reserved.lookup text

/-- True for the categories of reserved words. -/
def isReserved (token : Token) : Bool :=
  reserved.any fun entry => entry.2 == token

end Token

/-- A place in a text. -/
structure Place where
  /-- How many bytes stand before it. -/
  offset : Nat := 0
  /-- The number of its line, counted from one. -/
  line : Nat := 1
deriving Repr, DecidableEq, Inhabited

namespace Place

/-- The place after a character. -/
def after (place : Place) (c : Char) : Place :=
  ⟨place.offset + c.utf8Size, if c = '\n' then place.line + 1 else place.line⟩

end Place

/-- One item of a script. -/
structure Item where
  token : Token
  /-- Where it begins. -/
  start : Place
  /-- Its text, with quoting removed and markers for substitutions. -/
  value : String := ""
  /-- True when some of it was quoted or escaped. -/
  quoted : Bool := false
  /-- What stands at the markers. -/
  subs : List Substitution := []
deriving Repr, DecidableEq, Inhabited

namespace Item

/-- True for a word that may be a reserved word or be replaced. -/
def isPlainWord (item : Item) : Bool :=
  item.token == .word && !item.quoted && item.subs.isEmpty

def toWord (item : Item) : Word :=
  ⟨item.value, item.subs⟩

/-- The item as it is shown in listings. -/
def render (item : Item) : String :=
  match item.token with
  | .finish | .newline => item.token.name
  | _ => item.token.name ++ "(" ++ Text.bare item.value ++ ")"

end Item

/-- The three kinds of quote that have to be closed. -/
inductive Quote where
  | single
  | double
  | back
deriving Repr, DecidableEq, Inhabited

namespace Quote

/-- The name of a kind of quote. -/
def name : Quote → String
  | single => "single"
  | double => "double"
  | back => "back"

end Quote

/-- Why a text cannot be divided into items. -/
inductive ScanError where
  /-- A quote that is never closed. -/
  | openQuote (quote : Quote) (opened : Place)
  /-- A substitution that is never closed. -/
  | openSubstitution (opened : Place)
deriving Repr, DecidableEq, Inhabited

namespace ScanError

/-- Where the construct that is never closed begins. -/
def opened : ScanError → Place
  | openQuote _ place => place
  | openSubstitution place => place

def message : ScanError → String
  | openQuote quote place =>
    "unterminated " ++ quote.name ++ " quote starting at line " ++ toString place.line
  | openSubstitution place =>
    "unterminated substitution starting at line " ++ toString place.line

end ScanError

end Shell
