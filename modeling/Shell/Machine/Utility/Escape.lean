import Shell.Machine.Utility.Numeral

/-! # Backslash escapes

The escapes that `echo` and `printf` replace.
-/

namespace Shell.Machine.Escape

/-- Which escapes there are besides the usual letters and octal numbers. -/
structure Rules where
  /-- Whether an octal number after a zero may have three more digits. -/
  leadingZero : Bool := false
  /-- Whether `\x` begins a number. -/
  hexadecimal : Bool := false
  /-- Whether `\c` ends all output. -/
  cuts : Bool := false
  /-- Whether a quote may be escaped. -/
  quotes : Bool := false
  /-- Whether `\u` and `\U` begin the number of a character, with four and with eight digits. -/
  universal : Bool := false
  /-- Whether `\E` means the same as `\e`. -/
  capital : Bool := false
deriving Repr, DecidableEq, Inhabited

/-- What an escape amounts to. -/
inductive Result where
  | text (text : List Char) (rest : List Char)
  | cut
deriving Repr, DecidableEq, Inhabited

def letter? : Char → Option Char
  | 'a' => some '\x07'
  | 'b' => some '\x08'
  | 'e' => some '\x1b'
  | 'f' => some '\x0c'
  | 'n' => some '\n'
  | 'r' => some '\r'
  | 't' => some '\t'
  | 'v' => some '\x0b'
  | '\\' => some '\\'
  | _ => none

def byte (value : Nat) : Char :=
  Char.ofNat (value % 256)

/-- How many digits the number of a character has after a letter. -/
def universalDigits : Char → Nat
  | 'u' => 4
  | 'U' => 8
  | _ => 0

/-- A character by its number. One that is not a single byte is written as an escape again. -/
def universal (letter : Char) (value : Nat) : List Char :=
  if value < 128 then [Char.ofNat value]
  else
    let letter := if value < 65536 then 'u' else letter
    let digits := (Numeral.inBase 16 value).toUpper
    '\\' :: letter :: (Numeral.padLeft (universalDigits letter) '0' digits).toList

/-- What comes of a backslash and what follows it. -/
def replace (rules : Rules) : List Char → Result
  | [] => .text ['\\'] []
  | c :: rest =>
    match letter? c with
    | some d => .text [d] rest
    | none =>
      if c = 'c' && rules.cuts then .cut
      else if c = 'E' && rules.capital then .text ['\x1b'] rest
      else if c = '"' && rules.quotes then .text ['"'] rest
      else if c = 'x' && rules.hexadecimal then
        let (value, count, left) := Numeral.digits 16 2 0 0 rest
        if count = 0 then .text ['\\', 'x'] rest else .text [byte value] left
      else if universalDigits c ≠ 0 && rules.universal then
        let (value, count, left) := Numeral.digits 16 (universalDigits c) 0 0 rest
        if count < universalDigits c then .text ['\\', c] rest else .text (universal c value) left
      else if c = '0' && rules.leadingZero then
        let (value, _, left) := Numeral.digits 8 3 0 0 rest
        .text [byte value] left
      else
        let (value, count, left) := Numeral.digits 8 3 0 0 (c :: rest)
        if count = 0 then .text ['\\', c] rest else .text [byte value] left

/-- Text with its escapes replaced, in reverse, and whether it was cut off. -/
def unescapeFrom (rules : Rules) : Nat → List Char → List Char → List Char × Bool
  | 0, sofar, _ => (sofar, false)
  | _, sofar, [] => (sofar, false)
  | fuel + 1, sofar, c :: rest =>
    if c = '\\' then
      match replace rules rest with
      | .cut => (sofar, true)
      | .text text rest => unescapeFrom rules fuel (text.reverse ++ sofar) rest
    else unescapeFrom rules fuel (c :: sofar) rest

/-- Text with its escapes replaced, and whether it was cut off. -/
def unescape (rules : Rules) (text : String) : String × Bool :=
  let (sofar, cut) := unescapeFrom rules (text.length + 1) [] text.toList
  (String.ofList sofar.reverse, cut)

end Shell.Machine.Escape

/-! ## Echoed arguments

What `echo` writes. In scripts it replaces escapes and knows one option; the program of this name replaces them only
if it is told to.
-/

namespace Shell.Machine.Echo

/-- What `echo` writes in a script. -/
def script (arguments : List String) : String :=
  let (newline, arguments) := match arguments with
    | "-n" :: rest => (false, rest)
    | _ => (true, arguments)
  let rules : Escape.Rules := { leadingZero := true, cuts := true, quotes := true }
  let (text, cut) := Escape.unescape rules (" ".intercalate arguments)
  if newline && !cut then text ++ "\n" else text

/-- What the options of the program say. -/
structure Options where
  newline : Bool := true
  escapes : Bool := false
deriving Repr, DecidableEq, Inhabited

/-- Reads options up to the first argument that is none. -/
def readOptions : Options → List String → Options × List String
  | options, [] => (options, [])
  | options, argument :: rest =>
    match argument.toList with
    | '-' :: letters =>
      if !letters.isEmpty && letters.all (fun c => "neE".contains c) then
        let options := letters.foldl
          (fun options c =>
            if c = 'n' then { options with newline := false }
            else { options with escapes := c = 'e' })
          options
        readOptions options rest
      else (options, argument :: rest)
    | _ => (options, argument :: rest)

def program (arguments : List String) : String :=
  let (options, arguments) := readOptions {} arguments
  let text := " ".intercalate arguments
  let rules : Escape.Rules := { leadingZero := true, cuts := true, hexadecimal := true }
  let (text, cut) := if options.escapes then Escape.unescape rules text else (text, false)
  if options.newline && !cut then text ++ "\n" else text

/-- What `echo` writes in a script of the extended dialect. -/
def extended (escapesByDefault : Bool) (arguments : List String) : String :=
  let (options, arguments) := readOptions { escapes := escapesByDefault } arguments
  let text := " ".intercalate arguments
  let rules : Escape.Rules :=
    { leadingZero := true, cuts := true, hexadecimal := true, universal := true, capital := true }
  let (text, cut) := if options.escapes then Escape.unescape rules text else (text, false)
  if options.newline && !cut then text ++ "\n" else text

end Shell.Machine.Echo
