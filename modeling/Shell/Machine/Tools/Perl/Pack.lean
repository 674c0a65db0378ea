import Shell.Machine.Tools.Perl.Functions

/-! # Values as bytes

How values are written as bytes and read from bytes as a template says: letters, each with how often it applies or how
long a text is.
-/

namespace Shell.Machine.Perl

/-- One letter of a template. -/
structure PackItem where
  letter : Char
  /-- How often, or how long. -/
  count : Option Nat := none
  /-- As often or as long as possible. -/
  isAll : Bool := false
  /-- The sum of what is read in so many bits is wanted. -/
  sum : Option Nat := none

namespace PackItem

/-- The letters of a template. -/
def read : Nat → List Char → List PackItem
  | 0, _ => []
  | _, [] => []
  | fuel + 1, c :: rest =>
    if c.isWhitespace then read fuel rest
    else
      let number (text : List Char) : Option Nat × List Char :=
        let digits := text.takeWhile Char.isDigit
        ((String.ofList digits).toNat?, text.drop digits.length)
      let (sum, letter, rest) := if c = '%' then
          let (bits, rest) := number rest
          (some (bits.getD 16), rest.headD 'C', rest.drop 1)
        else (none, c, rest)
      let rest := rest.dropWhile fun c => c = '<' || c = '>' || c = '!'
      match rest with
      | '*' :: rest => { letter, isAll := true, sum } :: read fuel rest
      | rest =>
        let (count, rest) := number rest
        { letter, count, sum } :: read fuel rest

/-- How many bytes a whole number takes, and whether the greatest part of it comes first. -/
def size? : Char → Option (Nat × Bool)
  | 'c' | 'C' | 'W' | 'U' => some (1, false)
  | 's' | 'S' | 'v' => some (2, false)
  | 'l' | 'L' | 'V' | 'i' | 'I' => some (4, false)
  | 'q' | 'Q' | 'j' | 'J' => some (8, false)
  | 'n' => some (2, true)
  | 'N' => some (4, true)
  | _ => none

def bytesOf (size : Nat) (greatFirst : Bool) (value : Nat) : List Char :=
  let bytes := (List.range size).map fun place => Char.ofNat (value / Nat.pow 256 place % 256)
  if greatFirst then bytes.reverse else bytes

def numberOf (greatFirst : Bool) (bytes : List Char) : Nat :=
  (if greatFirst then bytes else bytes.reverse).foldl (fun sofar c => sofar * 256 + c.toNat) 0

/-- A text of bits or of digits as bytes; so many of them make up a byte. -/
def gather (base perByte : Nat) (greatFirst : Bool) (digits : List Char) : Nat → List Char
  | 0 => []
  | fuel + 1 =>
    match digits with
    | [] => []
    | digits =>
      let part := digits.take perByte
      let part := part ++ List.replicate (perByte - part.length) '0'
      let values := part.map fun c => ((Numeral.digit? 16 c).getD 0) % base
      let value := (if greatFirst then values else values.reverse).foldl (fun sofar digit => sofar * base + digit) 0
      Char.ofNat (value % 256) :: gather base perByte greatFirst (digits.drop perByte) fuel

/-- Bytes as a text of bits or of digits. -/
def spread (base perByte : Nat) (greatFirst : Bool) (bytes : List Char) : List Char :=
  bytes.flatMap fun c =>
    let digits := (List.range perByte).map fun place =>
      ((Numeral.inBase base (c.toNat / Nat.pow base place % base)).toList.headD '0').toLower
    if greatFirst then digits.reverse else digits

/-- How a letter for bits or digits reads: the base, how many make up a byte, and whether the greatest comes first. -/
def digitsFor? : Char → Option (Nat × Nat × Bool)
  | 'H' => some (16, 2, true)
  | 'h' => some (16, 2, false)
  | 'B' => some (2, 8, true)
  | 'b' => some (2, 8, false)
  | _ => none

def packText (item : PackItem) (text : List Char) : List Char :=
  let filler := if item.letter = 'A' then ' ' else '\x00'
  if item.isAll then text ++ (if item.letter = 'Z' then ['\x00'] else [])
  else
    let size := item.count.getD 1
    let kept := if item.letter = 'Z' then text.take (size - 1) else text.take size
    kept ++ List.replicate (size - kept.length) filler

def pack {m : Type → Type} [Monad m] (textOf : Value → m String) : List PackItem → List Value → m (List Char)
  | [], _ => return []
  | item :: rest, values => do
    if ['a', 'A', 'Z'].contains item.letter then
      let text ← textOf (values.headD .undefined)
      return packText item text.toList ++ (← pack textOf rest (values.drop 1))
    else if item.letter = 'x' then
      return List.replicate (if item.isAll then 0 else item.count.getD 1) '\x00' ++ (← pack textOf rest values)
    else
      match digitsFor? item.letter, size? item.letter with
      | some (base, perByte, greatFirst), _ =>
        let text ← textOf (values.headD .undefined)
        let digits := if item.isAll then text.toList else text.toList.take (item.count.getD 1)
        let bytes := gather base perByte greatFirst digits (digits.length + 1)
        return bytes ++ (← pack textOf rest (values.drop 1))
      | none, some (size, greatFirst) =>
        let count := if item.isAll then values.length else item.count.getD 1
        let modulus : Int := Int.ofNat (Nat.pow 256 size)
        let bytes := (values.take count).flatMap fun value =>
          bytesOf size greatFirst (value.int % modulus).toNat
        return bytes ++ (← pack textOf rest (values.drop count))
      | none, none => pack textOf rest values

/-- The numbers that bytes stand for, at most so many, and what is left. -/
def numbersIn (size : Nat) (greatFirst signed : Bool) : Nat → List Char → List Int × List Char
  | 0, bytes => ([], bytes)
  | count + 1, bytes =>
    if bytes.length < size || size = 0 then ([], bytes)
    else
      let value : Int := numberOf greatFirst (bytes.take size)
      let value := if signed then Int.bmod value (Nat.pow 256 size) else value
      let (rest, left) := numbersIn size greatFirst signed count (bytes.drop size)
      (value :: rest, left)

def unpack : List PackItem → List Char → List Value
  | [], _ => []
  | item :: rest, bytes =>
    let text (chars : List Char) : Value := .string (String.ofList chars)
    if ['a', 'A', 'Z'].contains item.letter then
      let size := if item.isAll then bytes.length else item.count.getD 1
      let part := bytes.take size
      let shown := match item.letter with
        | 'A' => (part.reverse.dropWhile fun c => c = '\x00' || c.isWhitespace).reverse
        | 'Z' => part.takeWhile (· ≠ '\x00')
        | _ => part
      text shown :: unpack rest (bytes.drop size)
    else if item.letter = 'x' then unpack rest (bytes.drop (item.count.getD 1))
    else
      match digitsFor? item.letter, size? item.letter with
      | some (base, perByte, greatFirst), _ =>
        let digits := spread base perByte greatFirst bytes
        let count := if item.isAll then digits.length else min (item.count.getD 1) digits.length
        let shown := digits.take count
        let value := match item.sum with
          | some _ => Value.ofNat ((shown.filter (· = '1')).length)
          | none => text shown
        value :: unpack rest (bytes.drop ((count + perByte - 1) / perByte))
      | none, some (size, greatFirst) =>
        let signed := ['c', 's', 'l', 'q', 'i', 'j'].contains item.letter
        let count := if item.isAll then bytes.length else item.count.getD 1
        let (numbers, left) := numbersIn size greatFirst signed count bytes
        let values := match item.sum with
          | some bits => [Value.ofInt (numbers.foldl (· + ·) 0 % Int.ofNat (Nat.pow 2 bits))]
          | none => numbers.map Value.ofInt
        values ++ unpack rest left
      | none, none => unpack rest bytes

end PackItem

end Shell.Machine.Perl
