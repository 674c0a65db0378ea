/-! # Texts of bytes

Inside a machine a text is a sequence of bytes. It is kept as a string in which the character with number `n`
stands for the byte `n`, so that patterns and formats see single bytes.
-/

namespace Shell.Machine.Octets

/-- The text that bytes make up. -/
def ofBytes (bytes : ByteArray) : String :=
  bytes.foldl (fun text byte => text.push (Char.ofNat byte.toNat)) ""

def toBytes (text : String) : ByteArray :=
  text.foldl (fun bytes c => bytes.push (UInt8.ofNat c.toNat)) .empty

/-- The bytes that a string of characters has in UTF-8, as a text. -/
def ofString (text : String) : String :=
  ofBytes text.toUTF8

/-- The string of characters whose UTF-8 a text is, if it is that of any. -/
def toString? (text : String) : Option String :=
  String.fromUTF8? (toBytes text)

/-! ## Text that may be damaged -/

def isContinuation (byte : Nat) : Bool :=
  0x80 ≤ byte && byte < 0xc0

/-- How many bytes after the first one of a character belong to it, and between which bounds the
    second one has to lie. -/
def trailing? (first : Nat) : Option (Nat × Nat × Nat) :=
  if 0xc2 ≤ first && first < 0xe0 then some (1, 0x80, 0xbf)
  else if first = 0xe0 then some (2, 0xa0, 0xbf)
  else if first = 0xed then some (2, 0x80, 0x9f)
  else if 0xe1 ≤ first && first < 0xf0 then some (2, 0x80, 0xbf)
  else if first = 0xf0 then some (3, 0x90, 0xbf)
  else if 0xf1 ≤ first && first < 0xf4 then some (3, 0x80, 0xbf)
  else if first = 0xf4 then some (3, 0x80, 0x8f)
  else none

/-- Takes the continuation bytes of a character. The first component is its number, or nothing when
    the bytes break off. -/
def takeTrailing : Nat → Nat → Nat → Nat → List UInt8 → Option Nat × List UInt8
  | 0, _, _, sofar, rest => (some sofar, rest)
  | _ + 1, _, _, _, [] => (none, [])
  | count + 1, low, high, sofar, byte :: rest =>
    if low ≤ byte.toNat && byte.toNat ≤ high then
      takeTrailing count 0x80 0xbf (sofar * 64 + byte.toNat % 64) rest
    else (none, byte :: rest)

/-- The characters of bytes. What is no character counts as `U+FFFD`, as few bytes at a time as possible. -/
def decode : Nat → List UInt8 → List Char
  | 0, _ => []
  | _, [] => []
  | fuel + 1, byte :: rest =>
    if byte < 0x80 then Char.ofNat byte.toNat :: decode fuel rest
    else
      match trailing? byte.toNat with
      | none => '\ufffd' :: decode fuel rest
      | some (count, low, high) =>
        let mask := if count = 1 then 32 else if count = 2 then 16 else 8
        let (number, rest) := takeTrailing count low high (byte.toNat % mask) rest
        (number.map Char.ofNat).getD '\ufffd' :: decode fuel rest

/-- The characters of bytes, whatever they are. -/
def render (bytes : ByteArray) : String :=
  (String.fromUTF8? bytes).getD (String.ofList (decode bytes.size bytes.toList))

end Shell.Machine.Octets
