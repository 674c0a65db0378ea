import Shell.Machine.Tools.Awk.Syntax
import Shell.Machine.Utility.Decimal
import Shell.Machine.Regex.Read

/-! # Words of programs for records

How the text of a program divides into words and signs. A slash begins a regular expression where no operand has just
ended.
-/

namespace Shell.Machine.Awk

/-- A word or a sign of a program. -/
inductive Token where
  | number (value : Float) (text : String)
  | text (text : String)
  | regex (text : String)
  | name (name : String)
  /-- A name right before a parenthesis, which calls a function. -/
  | caller (name : String)
  | builtin (name : String)
  | word (word : String)
  | sign (sign : String)
  | newline
  | end_
  /-- What is wrong with what comes next. -/
  | bad (report : String)
deriving Repr, Inhabited

/-- A token and the line that it is in. -/
structure Lexeme where
  token : Token
  line : Nat
deriving Repr, Inhabited

namespace Token

/-- The words that have a meaning of their own. -/
def words : List String :=
  ["BEGIN", "END", "break", "continue", "delete", "do", "else", "exit", "for", "function", "getline", "if", "in",
    "next", "nextfile", "print", "printf", "return", "while"]

/-- The signs, those with more characters first. -/
def signs : List String :=
  ["+=", "-=", "*=", "/=", "%=", "^=", "==", "<=", ">=", "!=", "!~", "++", "--", "&&", "||", ">>",
    "\x7b", "\x7d", "(", ")", "[", "]", ";", ",", "+", "-", "*", "/", "%", "^", "!", ">", "<", "|", "?", ":", "~",
    "$", "="]

/-- How a token is named when it is in the wrong place. -/
def shown : Token → String
  | .number _ spelling => spelling
  | .text content => content
  | .regex content => "/" ++ content ++ "/"
  | .name other => if other = "NF" then "$" else other
  | .caller other => other
  | .builtin other => other
  | .word other => other
  | .sign other => if other = ">>" then ">" else other
  | .newline => "end of line"
  | .end_ => "end of file"
  | .bad report => report

/-- True when a slash after a token divides. -/
def endsOperand : Token → Bool
  | .number _ _ | .text _ | .regex _ | .name _ | .builtin _ => true
  | .sign other => [")", "]", "$", "++", "--"].contains other
  | _ => false

end Token

/-! ## Texts -/

/-- The characters that letters after a backslash stand for. -/
def letterEscape? : Char → Option Char
  | '"' => some '"'
  | '\\' => some '\\'
  | 'a' => some '\x07'
  | 'b' => some '\x08'
  | 'f' => some '\x0c'
  | 'n' => some '\n'
  | 'r' => some '\r'
  | 't' => some '\t'
  | 'v' => some '\x0b'
  | _ => none

/-- Replaces the escapes of a text. A backslash that begins none stays. -/
def unescape : Nat → List Char → List Char
  | 0, chars => chars
  | _, [] => []
  | fuel + 1, '\\' :: c :: rest =>
    match letterEscape? c with
    | some d => d :: unescape fuel rest
    | none =>
      let (base, most, digits) := if c = 'x' then (16, 2, rest) else (8, 3, c :: rest)
      let (value, count, rest') := Numeral.digits base most 0 0 digits
      if count = 0 then '\\' :: unescape fuel (c :: rest)
      else Char.ofNat (value % 256) :: unescape fuel rest'
  | fuel + 1, c :: rest => c :: unescape fuel rest

/-- A text with its escapes replaced. -/
def unescaped (text : String) : String :=
  String.ofList (unescape text.length text.toList)

/-- The text up to a quote, its line breaks after backslashes left out, how many of them, and what follows. -/
def quoted? : List Char → Option (List Char × Nat × List Char)
  | [] => none
  | '"' :: rest => some ([], 0, rest)
  | '\\' :: '\n' :: rest => (quoted? rest).map fun (text, breaks, rest) => (text, breaks + 1, rest)
  | '\\' :: c :: rest => (quoted? rest).map fun (text, breaks, rest) => ('\\' :: c :: text, breaks, rest)
  | '\n' :: _ => none
  | c :: rest => (quoted? rest).map fun (text, breaks, rest) => (c :: text, breaks, rest)

/-- The text up to a slash that is in no set, and what follows. -/
def slashed? : Bool → List Char → Option (List Char × List Char)
  | _, [] => none
  | inSet, '\\' :: '/' :: rest => (slashed? inSet rest).map fun (text, rest) => ('/' :: text, rest)
  | inSet, '\\' :: c :: rest => (slashed? inSet rest).map fun (text, rest) => ('\\' :: c :: text, rest)
  | _, '\n' :: _ => none
  | inSet, c :: rest =>
    if c = '/' && !inSet then some ([], rest)
    else
      let inSet := if c = '[' then true else if c = ']' then false else inSet
      (slashed? inSet rest).map fun (text, rest) => (c :: text, rest)

/-- The beginning of a text that does not end. -/
def runaway (kind : String) (quote : Char) (chars : List Char) : Token :=
  let shown := (chars.takeWhile (· ≠ '\n')).take 10
  .bad ("runaway " ++ kind ++ " " ++ String.singleton quote ++ String.ofList shown ++ " ...")

/-! ## Scanning -/

/-- Reads a number without a sign. -/
def readNumber (chars : List Char) : Token × List Char :=
  let (whole, rest) := chars.span Char.isDigit
  let (fraction, rest) := match rest with
    | '.' :: rest =>
      let (digits, rest) := rest.span Char.isDigit
      ('.' :: digits, rest)
    | _ => ([], rest)
  let (power, rest) := match rest with
    | e :: after =>
      if e ≠ 'e' && e ≠ 'E' then ([], rest)
      else
        let (sign, digits) := match after with
          | '+' :: digits => (['+'], digits)
          | '-' :: digits => (['-'], digits)
          | digits => ([], digits)
        let (digits, left) := digits.span Char.isDigit
        if digits.isEmpty then ([], rest) else (e :: sign ++ digits, left)
    | [] => ([], [])
  let text := String.ofList (whole ++ fraction ++ power)
  let value := ((Double.read text).map (·.1)).getD 0
  (if value.isInf then .bad (text ++ " : decimal overflow") else .number value text, rest)

def isNameChar (c : Char) : Bool :=
  c.isAlphanum || c = '_'

def nameToken (name : String) (rest : List Char) : Token :=
  if Token.words.contains name then .word name
  else if (builtins.lookup name).isSome then .builtin name
  else if rest.head? = some '(' then .caller name
  else .name name

/-- A report about a character that has no place in programs. -/
def unexpected (c : Char) : String :=
  let digits := Numeral.inBase 16 c.toNat
  "unexpected character " ++
    (if ' ' ≤ c && c ≤ '~' then "'" ++ String.singleton c ++ "'" else "0x" ++ Numeral.padLeft 2 '0' digits)

/-- The tokens of a text, given the line and the last token. -/
def scan : Nat → Nat → Token → List Char → List Lexeme
  | 0, line, _, _ => [⟨.end_, line⟩]
  | _, line, _, [] => [⟨.end_, line⟩]
  | fuel + 1, line, last, c :: rest =>
    let found (token : Token) (rest : List Char) : List Lexeme := ⟨token, line⟩ :: scan fuel line token rest
    if c = ' ' || c = '\t' || c = '\x0b' || c = '\x0c' || c = '\r' then scan fuel line last rest
    else if c = '\n' then ⟨.newline, line⟩ :: scan fuel (line + 1) .newline rest
    else if c = '#' then scan fuel line last (rest.dropWhile (· ≠ '\n'))
    else if c = '\\' && rest.head? = some '\n' then scan fuel (line + 1) last (rest.drop 1)
    else if c = '\\' && rest.take 2 = ['\r', '\n'] then scan fuel (line + 1) last (rest.drop 2)
    else if c = '"' then
      match quoted? rest with
      | some (text, breaks, rest) =>
        let token := Token.text (String.ofList (unescape text.length text))
        ⟨token, line⟩ :: scan fuel (line + breaks) token rest
      | none => [⟨runaway "string constant" '"' rest, line⟩]
    else if c.isDigit || (c = '.' && rest.head?.any Char.isDigit) then
      let (token, rest) := readNumber (c :: rest)
      found token rest
    else if isNameChar c then
      let name := c :: rest.takeWhile isNameChar
      let rest := rest.dropWhile isNameChar
      found (nameToken (String.ofList name) rest) rest
    else if c = '/' && !last.endsOperand then
      match slashed? false rest with
      | some (text, rest) => found (.regex (String.ofList text)) rest
      | none => [⟨runaway "regular expression" '/' rest, line⟩]
    else
      match Token.signs.find? fun sign => (c :: rest).take sign.length = sign.toList with
      | some sign => found (.sign sign) ((c :: rest).drop sign.length)
      | none => [⟨.bad (unexpected c), line⟩]

end Shell.Machine.Awk

/-! ## Regular expressions

How regular expressions are written in programs for `awk`: the extended way, without intervals and references, and
with the escapes of texts.
-/

namespace Shell.Machine.Awk.Expression

/-- The character that an escape stands for, and what follows. -/
def escape (c : Char) (rest : List Char) : Char × List Char :=
  match if c = '"' || c = '\\' then none else letterEscape? c with
  | some d => (d, rest)
  | none =>
    let (base, most, digits) := if c = 'x' then (16, 2, rest) else (8, 3, c :: rest)
    let (value, count, after) := Numeral.digits base most 0 0 digits
    if count = 0 then (c, rest) else (Char.ofNat (value % 256), after)

/-- Reads a character of a set. -/
def setChar : List Char → Option (Char × List Char)
  | [] => none
  | '\\' :: c :: rest => some (escape c rest)
  | c :: rest => some (c, rest)

/-- Reads a member of a set: a class with a name, a range or a character. -/
def member : List Char → Option (List SetMember × List Char)
  | '[' :: ':' :: rest =>
    match Regex.upToPair ':' ']' rest with
    | some (name, after) =>
      let name := String.ofList name
      if (SetMember.inClass? name 'a').isSome then some ([.named name], after)
      else some ([.range '[' '['], ':' :: rest)
    | none => some ([.range '[' '['], ':' :: rest)
  | chars => do
    let (low, rest) ← setChar chars
    match rest with
    | '-' :: d :: after =>
      if d = ']' then return ([.range low low], rest)
      else
        let (high, rest) ← setChar (d :: after)
        return (if high < low then [] else [.range low high], rest)
    | _ => return ([.range low low], rest)

/-- Reads the members of a set up to the bracket that closes it. -/
def members : Nat → Bool → List Char → Option (List SetMember × List Char)
  | 0, _, _ => none
  | fuel + 1, isFirst, chars => do
    if chars.head? = some ']' && !isFirst then return ([], chars.drop 1)
    let (found, rest) ← member chars
    let (more, rest) ← members fuel false rest
    return (found ++ more, rest)

/-- A part that is repeated as the signs after it say. -/
def repeated : Nat → Regex → List Char → Regex × List Char
  | 0, regex, rest => (regex, rest)
  | fuel + 1, regex, rest =>
    match rest with
    | '*' :: rest => repeated fuel (.repeated regex 0 none) rest
    | '+' :: rest => repeated fuel (.repeated regex 1 none) rest
    | '?' :: rest => repeated fuel (.repeated regex 0 (some 1)) rest
    | _ => (regex, rest)

mutual

/-- Reads alternatives, inside of so many parentheses. -/
def readEither : Nat → Nat → List Char → Except String (Regex × List Char)
  | 0, _, rest => .ok (.empty, rest)
  | fuel + 1, depth, chars => do
    let (first, rest) ← readSequence fuel depth none chars
    match rest with
    | '|' :: rest =>
      let (other, rest) ← readEither fuel depth rest
      return (.either first other, rest)
    | _ => return (first, rest)

/-- Reads one part after another. -/
def readSequence : Nat → Nat → Option Regex → List Char → Except String (Regex × List Char)
  | 0, _, sofar, rest => .ok (sofar.getD .empty, rest)
  | fuel + 1, depth, sofar, chars => do
    let add (regex : Regex) (rest : List Char) : Except String (Regex × List Char) :=
      let (regex, rest) := repeated rest.length regex rest
      readSequence fuel depth (some (match sofar with
        | some before => .sequence before regex
        | none => regex)) rest
    match chars with
    | [] => if sofar.isNone && depth = 0 then return (.empty, []) else return (sofar.getD .empty, [])
    | '|' :: _ => if sofar.isNone then throw "missing operand" else return (sofar.getD .empty, chars)
    | ')' :: rest =>
      if depth = 0 then add (.char ')') rest else return (sofar.getD .empty, chars)
    | '(' :: rest =>
      let (inner, rest) ← readEither fuel (depth + 1) rest
      match rest with
      | ')' :: rest => add inner rest
      | _ => throw "missing ')'"
    | '.' :: rest => add .any rest
    | '^' :: rest => add (.anchor .textStart) rest
    | '$' :: rest => add (.anchor .textEnd) rest
    | '[' :: rest =>
      let (inverted, inside) := match rest with
        | '^' :: rest => (true, rest)
        | rest => (false, rest)
      match members (inside.length + 1) true inside with
      | some (found, rest) => add (.set inverted found) rest
      | none => throw "missing ]"
    | '\\' :: c :: rest =>
      let (c, rest) := escape c rest
      add (.char c) rest
    | c :: rest =>
      if c = '*' || c = '+' || c = '?' then
        if sofar.isNone then throw "missing operand" else add (.char c) rest
      else add (.char c) rest

end

/-- The regular expression that a text is, or what is wrong with it. -/
def read (text : String) : Except String Regex := do
  let (regex, _) ← readEither (2 * text.length + 2) 0 text.toList
  return regex

end Shell.Machine.Awk.Expression
