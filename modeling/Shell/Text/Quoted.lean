import Shell.Text.Printable

/-! # Text made visible

Two ways of showing text in which every character can be read: between double quotes, for messages, and
bare, for token listings. Both write a character without a visible form by its number in hexadecimal.
-/

namespace Shell.Text

/-- A character by its number: `\u{301}`. -/
def escapeByNumber (c : Char) : List Char :=
  ['\\', 'u', '\x7b'] ++ Nat.toDigits 16 c.toNat ++ ['\x7d']

/-- The escape of the characters that have one of their own wherever they stand. -/
def shortEscape : Char → Option (List Char)
  | '\x00' => some ['\\', '0']
  | '\t' => some ['\\', 't']
  | '\r' => some ['\\', 'r']
  | '\n' => some ['\\', 'n']
  | '\\' => some ['\\', '\\']
  | _ => none

/-- One character inside double quotes; a mark that would be drawn on its neighbour goes by number. -/
def escapeQuoted (c : Char) : List Char :=
  match shortEscape c with
  | some text => text
  | none =>
    if c = '"' then ['\\', '"']
    else if isExtending c || !isPrintable c then escapeByNumber c
    else [c]

/-- Text between double quotes. -/
def quoted (text : String) : String :=
  String.ofList (['"'] ++ text.toList.flatMap escapeQuoted ++ ['"'])

/-- One character of bare text, where both kinds of quote are escaped. -/
def escapeBare (c : Char) : List Char :=
  match shortEscape c with
  | some text => text
  | none =>
    if c = '"' || c = '\'' then ['\\', c]
    else if isPrintable c then [c]
    else escapeByNumber c

/-- The first character of bare text, which has nothing before it that a mark could be drawn on. -/
def escapeLeading (c : Char) : List Char :=
  match shortEscape c with
  | some text => text
  | none => if isExtending c then escapeByNumber c else escapeBare c

/-- Text with no quotes around it. -/
def bare (text : String) : String :=
  match text.toList with
  | [] => ""
  | first :: rest => String.ofList (escapeLeading first ++ rest.flatMap escapeBare)

end Shell.Text
