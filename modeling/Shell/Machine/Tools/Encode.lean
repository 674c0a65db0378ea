import Shell.Machine.Tools.Width

/-! # Bytes as letters

Programs that write bytes in an alphabet of 64 or 32 letters and read them back. A group of letters stands for a
group of bytes; a short group is filled up.
-/

namespace Shell.Machine

/-- An alphabet whose letters stand for so many bits each. -/
structure Alphabet where
  letters : Array Char
  bits : Nat
  /-- How many letters make up a group. -/
  group : Nat

namespace Alphabet

/-- The alphabet of 64 letters. -/
def base64 : Alphabet :=
  { letters := "ABCDEFGHIJKLMNOPQRSTUVWXYZabcdefghijklmnopqrstuvwxyz0123456789+/".toList.toArray
    bits := 6, group := 4 }

/-- The alphabet of 32 letters. -/
def base32 : Alphabet :=
  { letters := "ABCDEFGHIJKLMNOPQRSTUVWXYZ234567".toList.toArray, bits := 5, group := 8 }

/-- The alphabet of 64 letters for the names of files. -/
def base64url : Alphabet :=
  { letters := "ABCDEFGHIJKLMNOPQRSTUVWXYZabcdefghijklmnopqrstuvwxyz0123456789-_".toList.toArray
    bits := 6, group := 4 }

/-- The alphabet of 16 letters. -/
def base16 : Alphabet :=
  { letters := "0123456789ABCDEF".toList.toArray, bits := 4, group := 2 }

/-- The alphabet of 32 letters that begins with the digits. -/
def base32hex : Alphabet :=
  { letters := "0123456789ABCDEFGHIJKLMNOPQRSTUV".toList.toArray, bits := 5, group := 8 }

/-- The alphabet of two letters. -/
def base2 : Alphabet :=
  { letters := #['0', '1'], bits := 1, group := 8 }

/-- The letters for the bits that are pending and those of some bytes. -/
def encodeBits (alphabet : Alphabet) : Nat → Nat → Nat → List Char → List Char
  | 0, _, _, _ => []
  | fuel + 1, value, count, bytes =>
    let unit := Nat.pow 2 alphabet.bits
    if alphabet.bits ≤ count then
      let rest := Nat.pow 2 (count - alphabet.bits)
      alphabet.letters.getD (value / rest % unit) '=' ::
        encodeBits alphabet fuel (value % rest) (count - alphabet.bits) bytes
    else
      match bytes with
      | byte :: bytes => encodeBits alphabet fuel (value * 256 + byte.toNat) (count + 8) bytes
      | [] =>
        if count = 0 then []
        else [alphabet.letters.getD (value * Nat.pow 2 (alphabet.bits - count) % unit) '=']

/-- Bytes as letters, with the last group filled up. -/
def encode (alphabet : Alphabet) (text : String) : String :=
  let letters := alphabet.encodeBits (9 * text.length + 9) 0 0 text.toList
  let missing := (alphabet.group - letters.length % alphabet.group) % alphabet.group
  String.ofList (letters ++ List.replicate missing '=')

def value? (alphabet : Alphabet) (c : Char) : Option Nat :=
  alphabet.letters.toList.idxOf? c

/-- The bytes that the letters of one group stand for, and whether the group is right. -/
def decodeGroup (alphabet : Alphabet) (letters : List Char) : List Char × Bool :=
  let (used, filled) := letters.span (· ≠ '=')
  let values := used.map alphabet.value?
  let known := (values.takeWhile Option.isSome).filterMap id
  let value := known.foldl (fun sum value => sum * Nat.pow 2 alphabet.bits + value) 0
  let bits := known.length * alphabet.bits
  let count := bits / 8
  let bytes := (List.range count).map fun place =>
    Char.ofNat (value / Nat.pow 2 (bits - 8 * (place + 1)) % 256)
  let isRight := known.length = used.length && filled.all (· = '=') && letters.length = alphabet.group &&
    bits % 8 < alphabet.bits && 8 ≤ bits
  (if alphabet.bits = 5 && letters.length < alphabet.group then [] else bytes, isRight)

/-- The bytes that letters stand for, and whether all of them could be read. -/
def decode (alphabet : Alphabet) : Nat → List Char → List Char × Bool
  | 0, _ => ([], true)
  | _, [] => ([], true)
  | fuel + 1, letters =>
    match decodeGroup alphabet (letters.take alphabet.group) with
    | (bytes, false) => (bytes, false)
    | (bytes, true) =>
      let (more, isRight) := decode alphabet fuel (letters.drop alphabet.group)
      (bytes ++ more, isRight)

/-- A byte whose bits stand the other way round. -/
def mirrored (byte : Char) : Char :=
  Char.ofNat ((List.range 8).foldl (fun sum place => 2 * sum + byte.toNat / Nat.pow 2 place % 2) 0)

end Alphabet

/-- A way to write bytes in letters. -/
structure Coding where
  isLetter : Char → Bool
  /-- The letters for bytes, if there can be any. -/
  encode : String → Except String String
  /-- The bytes that letters stand for, and whether all of them could be read. -/
  decode : List Char → List Char × Bool

namespace Coding

/-- Bytes in the letters of an alphabet. -/
def ofAlphabet (alphabet : Alphabet) : Coding where
  isLetter c := (c = '=' && (alphabet.bits = 5 || alphabet.bits = 6)) || (alphabet.value? c).isSome
  encode text := .ok (alphabet.encode text)
  decode letters := alphabet.decode (letters.length + 1) letters

/-- Bytes as bits, of which the last comes first. -/
def lowestFirst : Coding where
  isLetter c := c = '0' || c = '1'
  encode text := .ok (Alphabet.base2.encode (text.map Alphabet.mirrored))
  decode letters :=
    let (bytes, isRight) := Alphabet.base2.decode (letters.length + 1) letters
    (bytes.map Alphabet.mirrored, isRight)

/-- Digits of base 85. -/
def digits85 : List Char :=
  "0123456789abcdefghijklmnopqrstuvwxyzABCDEFGHIJKLMNOPQRSTUVWXYZ.-:+=^!/*?&<>()[]\x7b\x7d@%$#".toList

/-- The last digits of a number in some base, so many of them. -/
def lastDigits (base : Nat) : Nat → Nat → List Nat → List Nat
  | 0, _, digits => digits
  | count + 1, value, digits => lastDigits base count (value / base) (value % base :: digits)

/-- Five digits for each four bytes. -/
def encode85 : List Char → List Char
  | a :: b :: c :: d :: rest =>
    let value := [a, b, c, d].foldl (fun sum byte => sum * 256 + byte.toNat) 0
    (lastDigits 85 5 value []).map (digits85.getD · '?') ++ encode85 rest
  | _ => []

/-- Four bytes for each five digits. -/
def decode85 : List Char → List Char × Bool
  | [] => ([], true)
  | a :: b :: c :: d :: e :: rest =>
    match [a, b, c, d, e].mapM fun digit => digits85.idxOf? digit with
    | none => ([], false)
    | some values =>
      let value := values.foldl (fun sum digit => sum * 85 + digit) 0
      if Nat.pow 2 32 ≤ value then ([], false)
      else
        let (bytes, isRight) := decode85 rest
        ((lastDigits 256 4 value []).map Char.ofNat ++ bytes, isRight)
  | _ => ([], false)

/-- Bytes as digits of base 85. -/
def base85 : Coding where
  isLetter c := digits85.contains c
  encode text :=
    if text.length % 4 = 0 then .ok (String.ofList (encode85 text.toList))
    else .error "invalid input (length must be multiple of 4 characters)"
  decode letters := decode85 letters

/-- The ways to write bytes, by their names. -/
def all : List (String × Coding) := [
  ("base64", ofAlphabet .base64), ("base64url", ofAlphabet .base64url), ("base32", ofAlphabet .base32),
  ("base32hex", ofAlphabet .base32hex), ("base16", ofAlphabet .base16), ("base2msbf", ofAlphabet .base2),
  ("base2lsbf", lowestFirst), ("z85", base85)]

end Coding

namespace ToolM

/-- A text in lines of so many characters, or in one line without an end. -/
def wrapped (width : Nat) (text : String) : String :=
  if width = 0 then text
  else
    let lines (fuel : Nat) (chars : List Char) : List String :=
      (List.range fuel).map fun place => String.ofList ((chars.drop (place * width)).take width) ++ "\n"
    String.join (lines ((text.length + width - 1) / width) text.toList)

/-- Writes bytes as letters, or reads them back. -/
def recode (coding : Coding) (arguments : Arguments) : ToolM Unit := do
  let width ← match arguments.value? "w" with
    | none => pure 76
    | some text =>
      match Numeral.natural? text with
      | some width => pure width
      | none => fail 1 ("invalid wrap size: " ++ Quote.text text)
  match arguments.operands with
  | _ :: extra :: _ => extraOperand extra
  | _ => pure ()
  let path := arguments.operands.headD "-"
  let text ← match ← openInput path with
    | .error error => fail 1 (Quote.ifNeeded path ++ ": " ++ error.text)
    | .ok descriptor =>
      match ← readAll descriptor with
      | (_, some error) => fail 1 ("read error: " ++ error.text)
      | (text, none) => pure text
  if arguments.has "d" then
    let letters := text.toList.filter fun c => if arguments.has "i" then coding.isLetter c else c ≠ '\n'
    let (bytes, isRight) := coding.decode letters
    print (String.ofList bytes)
    if !isRight then fail 1 "invalid input"
  else
    match coding.encode text with
    | .ok letters => print (wrapped width letters)
    | .error wrong =>
      match coding.encode (text.take (text.length / 4 * 4)).toString with
      | .ok letters => print (wrapped width letters)
      | .error _ => pure ()
      fail 1 wrong

/-- The options of programs for alphabets. -/
def recodeOptions : List String := ["d,decode", "i,ignore-garbage", "w,wrap,:"]

/-- Writes bytes in 64 letters. -/
def base64 : ToolM Unit := do
  recode (.ofAlphabet .base64) (← readArguments 1 false recodeOptions)

/-- Writes bytes in 32 letters. -/
def base32 : ToolM Unit := do
  recode (.ofAlphabet .base32) (← readArguments 1 false recodeOptions)

/-- Writes bytes in letters of an alphabet that is asked for. -/
def basenc : ToolM Unit := do
  let names := Coding.all.map (·.1)
  let arguments ← readArguments 1 false (recodeOptions ++ names.map ("," ++ ·))
  match (arguments.last? names).bind fun name => Coding.all.lookup name with
  | some coding => recode coding arguments
  | none => misuse 1 "missing encoding type"

end ToolM

end Shell.Machine
