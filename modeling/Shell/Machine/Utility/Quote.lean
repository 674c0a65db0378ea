import Shell.Machine.Utility.Numeral

/-! # Quoted names

How programs show names and arguments in their reports: between quotes, with what cannot be seen written by
number, and so that a shell would read the name again.
-/

namespace Shell.Machine.Quote

/-- The escape of a character that is not shown as itself. -/
def escape (c : Char) : String :=
  match c with
  | '\x07' => "\\a"
  | '\x08' => "\\b"
  | '\x0c' => "\\f"
  | '\n' => "\\n"
  | '\r' => "\\r"
  | '\t' => "\\t"
  | '\x0b' => "\\v"
  | _ => "\\" ++ Numeral.padLeft 3 '0' (Numeral.inBase 8 c.toNat)

/-- True for a character that can be seen. -/
def isVisible (c : Char) : Bool :=
  ' ' ≤ c && c ≤ '~'

/-- A text between single quotes, with escapes for what would be misread. -/
def text (text : String) : String :=
  let body := text.toList.map fun c =>
    if c = '\'' then "\\'" else if c = '\\' then "\\\\"
    else if isVisible c then String.singleton c else escape c
  "'" ++ String.join body ++ "'"

/-- True for characters that mean nothing to a shell. -/
def isPlain (c : Char) : Bool :=
  c.isAlphanum || "%+,-./:@_]".contains c

/-- True when a shell reads a text as itself. -/
def isPlainText (text : String) : Bool :=
  match text.toList with
  | [] => false
  | c :: rest =>
    (isPlain c || ((c = '\x7b' || c = '\x7d') && !rest.isEmpty)) &&
      rest.all fun d => isPlain d || "#~\x7b\x7d".contains d

/-- A text between single quotes as a shell reads it. `open_` says whether escapes are being written. -/
def shellFrom : Bool → List Char → List Char
  | escaping, [] => if escaping then ['\''] else ['\'']
  | escaping, c :: rest =>
    if !isVisible c then
      let start := if escaping then [] else ['\'', '$', '\'']
      start ++ (escape c).toList ++ shellFrom true rest
    else
      let start := if escaping then ['\'', '\''] else []
      let here := if c = '\'' then ['\'', '\\', '\'', '\''] else [c]
      let start := if escaping && c = '\'' then ['\'', '\\', '\'', '\''] else start ++ here
      start ++ shellFrom false rest

/-- A text as it could be given to a shell, always between quotes. -/
def always (text : String) : String :=
  let chars := text.toList
  let compatible := chars.all fun c => isPlain c || c = ' ' || c = '\''
  if chars.contains '\'' && compatible then "\"" ++ text ++ "\""
  else String.ofList ('\'' :: shellFrom false chars)

/-- A text as it could be given to a shell, between quotes if it has to be. -/
def ifNeeded (text : String) : String :=
  if isPlainText text then text else always text

end Shell.Machine.Quote

/-! ## Texts as scripts write them

The ways to write a text in a script so that it stands for itself.
-/

namespace Shell.Machine.ScriptQuote

/-- True for a character that can be shown as itself. -/
def isShown (c : Char) : Bool :=
  Quote.isVisible c

/-- True for a text with characters that cannot be shown. -/
def needsEscapes (text : String) : Bool :=
  text.any fun c => !isShown c

/-- A text between quotes with escapes for what cannot be shown. -/
def escaped (text : String) : String :=
  let body := text.toList.map fun c =>
    if c = '\'' then "\\'" else if c = '\\' then "\\\\" else if c = '\x1b' then "\\E"
    else if isShown c then String.singleton c else Quote.escape c
  "$'" ++ String.join body ++ "'"

/-- A text between single quotes. -/
def single (text : String) : String :=
  "'" ++ "'\\''".intercalate (text.splitOn "'") ++ "'"

/-- A text between quotes, single ones if possible. -/
def reusable (text : String) : String :=
  if needsEscapes text then escaped text
  else if text = "'" then "\\'"
  else single text

/-- A text between double quotes. -/
def double (text : String) : String :=
  if needsEscapes text then escaped text
  else
    let body := text.toList.map fun c =>
      if "\"$\x60\\".contains c then String.ofList ['\\', c] else String.singleton c
    "\"" ++ String.join body ++ "\""

/-- True for a character that means something in a script. -/
def isMeaningful (c : Char) : Bool :=
  " \t\n'\"\\|&;()<>!\x7b\x7d*[]?^$\x60".contains c

/-- True for a text with characters that mean something in a script. -/
def hasMeaning (text : String) : Bool :=
  let rec go (before : Option Char) : List Char → Bool
    | [] => false
    | c :: rest =>
      isMeaningful c
        || (c = '~' && (before.isNone || before = some '=' || before = some ':'))
        || (c = '#' && before.isNone)
        || go (some c) rest
  go none text.toList

/-- A text between quotes if it has to be. -/
def listed (text : String) : String :=
  if needsEscapes text then escaped text
  else if hasMeaning text then single text
  else text

/-- A text with backslashes before characters that mean something. -/
def backslashed (text : String) : String :=
  if text.isEmpty then "''"
  else if needsEscapes text then escaped text
  else
    let rec go (before : Option Char) : List Char → List Char
      | [] => []
      | c :: rest =>
        let counts := isMeaningful c || c = ','
          || (c = '~' && (before.isNone || before = some '=' || before = some ':'))
          || (c = '#' && before.isNone)
        let here := if counts then ['\\', c] else [c]
        here ++ go (some c) rest
    String.ofList (go none text.toList)

end Shell.Machine.ScriptQuote
