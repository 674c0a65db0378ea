/-! # Digests

Numbers of a fixed size that stand for the contents of files. A text is divided into blocks, each of which changes a
state; the last block also holds the length of the text.
-/

namespace Shell.Machine

/-- A way to make digests. -/
structure Digest where
  /-- What the way is called in output. -/
  title : String
  /-- How many bytes there are in a digest. -/
  size : Nat
  compute : ByteArray → List UInt8

namespace Digest

/-- A number as so many bytes, the lowest first. -/
def lowFirst : Nat → Nat → List UInt8
  | 0, _ => []
  | count + 1, value => value.toUInt8 :: lowFirst count (value / 256)

/-- A number as so many bytes, the highest first. -/
def highFirst (count value : Nat) : List UInt8 :=
  (lowFirst count value).reverse

/-- The number that bytes make up, the highest first. -/
def ofBytes (bytes : ByteArray) (start count : Nat) : Nat :=
  (List.range count).foldl (fun sum place => sum * 256 + (bytes[start + place]?.getD 0).toNat) 0

/-- The number that bytes make up, the lowest first. -/
def ofBytesReversed (bytes : ByteArray) (start count : Nat) : Nat :=
  (List.range count).foldl (fun sum place => sum * 256 + (bytes[start + count - 1 - place]?.getD 0).toNat) 0

/-- Adds a mark, zeros and the length in bits, which fill up the last block. -/
def pad (block lengthSize : Nat) (write : Nat → Nat → List UInt8) (message : ByteArray) : ByteArray :=
  let size := message.size
  let zeros := (block - (size + 1 + lengthSize) % block) % block
  (0x80 :: List.replicate zeros 0 ++ write lengthSize (8 * size)).foldl ByteArray.push message

/-- The words of all blocks in order. -/
def blocks (block word : Nat) (read : ByteArray → Nat → Nat → Nat) (message : ByteArray) : List (Array Nat) :=
  (List.range (message.size / block)).map fun number =>
    ((List.range (block / word)).map fun place => read message (number * block + place * word) word).toArray

/-! ## Roots of primes -/

/-- The whole part of a root, found bit by bit. -/
def root (power value : Nat) : Nat → Nat → Nat
  | 0, sofar => sofar
  | bits + 1, sofar =>
    let next := sofar + Nat.pow 2 bits
    root power value bits (if Nat.pow next power ≤ value then next else sofar)

/-- The first primes, so many. -/
def primes (count : Nat) : List Nat :=
  ((List.range 420).filter fun value =>
    2 ≤ value && (List.range value).all fun part => part < 2 || value % part ≠ 0).take count

/-- So many bits after the point of a root of a number. -/
def fraction (power bits value : Nat) : Nat :=
  root power (value * Nat.pow (Nat.pow 2 bits) power) (bits + 5) 0 % Nat.pow 2 bits

/-! ## Words of 32 bits -/

def turnLeft (word : UInt32) (bits : UInt32) : UInt32 :=
  (word <<< bits) ||| (word >>> (32 - bits))

def turnRight (word : UInt32) (bits : UInt32) : UInt32 :=
  turnLeft word (32 - bits)

/-- The constants that the oldest way adds. -/
def sines : Array UInt32 := #[
  0xd76aa478, 0xe8c7b756, 0x242070db, 0xc1bdceee, 0xf57c0faf, 0x4787c62a, 0xa8304613, 0xfd469501, 0x698098d8,
  0x8b44f7af, 0xffff5bb1, 0x895cd7be, 0x6b901122, 0xfd987193, 0xa679438e, 0x49b40821, 0xf61e2562, 0xc040b340,
  0x265e5a51, 0xe9b6c7aa, 0xd62f105d, 0x02441453, 0xd8a1e681, 0xe7d3fbc8, 0x21e1cde6, 0xc33707d6, 0xf4d50d87,
  0x455a14ed, 0xa9e3e905, 0xfcefa3f8, 0x676f02d9, 0x8d2a4c8a, 0xfffa3942, 0x8771f681, 0x6d9d6122, 0xfde5380c,
  0xa4beea44, 0x4bdecfa9, 0xf6bb4b60, 0xbebfbc70, 0x289b7ec6, 0xeaa127fa, 0xd4ef3085, 0x04881d05, 0xd9d4d039,
  0xe6db99e5, 0x1fa27cf8, 0xc4ac5665, 0xf4292244, 0x432aff97, 0xab9423a7, 0xfc93a039, 0x655b59c3, 0x8f0ccc92,
  0xffeff47d, 0x85845dd1, 0x6fa87e4f, 0xfe2ce6e0, 0xa3014314, 0x4e0811a1, 0xf7537e82, 0xbd3af235, 0x2ad7d2bb,
  0xeb86d391]

/-- How far words are turned in each quarter of the oldest way. -/
def turns : Array UInt32 := #[7, 12, 17, 22, 5, 9, 14, 20, 4, 11, 16, 23, 6, 10, 15, 21]

/-- A step of the oldest way. -/
def oldStep (words : Array Nat) (state : UInt32 × UInt32 × UInt32 × UInt32) (step : Nat) :
    UInt32 × UInt32 × UInt32 × UInt32 :=
  let (a, b, c, d) := state
  let (mixed, place) :=
    match step / 16 with
    | 0 => ((b &&& c) ||| (~~~b &&& d), step)
    | 1 => ((d &&& b) ||| (~~~d &&& c), 5 * step + 1)
    | 2 => (b ^^^ c ^^^ d, 3 * step + 5)
    | _ => (c ^^^ (b ||| ~~~d), 7 * step)
  let sum := a + mixed + sines.getD step 0 + (words.getD (place % 16) 0).toUInt32
  (d, b + turnLeft sum (turns.getD (step / 16 * 4 + step % 4) 0), b, c)

/-- The digest of 128 bits. -/
def md5 : Digest where
  title := "MD5"
  size := 16
  compute message :=
    let (a, b, c, d) := (blocks 64 4 ofBytesReversed (pad 64 8 lowFirst message)).foldl
      (fun (a, b, c, d) words =>
        let (e, f, g, h) := (List.range 64).foldl (oldStep words) (a, b, c, d)
        (a + e, b + f, c + g, d + h))
      ((0x67452301, 0xefcdab89, 0x98badcfe, 0x10325476) : UInt32 × UInt32 × UInt32 × UInt32)
    [a, b, c, d].flatMap fun word => lowFirst 4 word.toNat

/-- The words of a block, and more words made from them, up to so many. -/
def extend32 (next : Array UInt32 → Nat → UInt32) (count : Nat) (words : Array Nat) : Array UInt32 :=
  (List.range' 16 (count - 16)).foldl (fun words place => words.push (next words place)) (words.map Nat.toUInt32)

/-- A step of the way of 160 bits. -/
def middleStep (words : Array UInt32) (state : UInt32 × UInt32 × UInt32 × UInt32 × UInt32) (step : Nat) :
    UInt32 × UInt32 × UInt32 × UInt32 × UInt32 :=
  let (a, b, c, d, e) := state
  let (mixed, constant) : UInt32 × UInt32 :=
    match step / 20 with
    | 0 => ((b &&& c) ||| (~~~b &&& d), 0x5a827999)
    | 1 => (b ^^^ c ^^^ d, 0x6ed9eba1)
    | 2 => ((b &&& c) ||| (b &&& d) ||| (c &&& d), 0x8f1bbcdc)
    | _ => (b ^^^ c ^^^ d, 0xca62c1d6)
  (turnLeft a 5 + mixed + e + constant + words.getD step 0, a, turnLeft b 30, c, d)

/-- The digest of 160 bits. -/
def sha1 : Digest where
  title := "SHA1"
  size := 20
  compute message :=
    let next (words : Array UInt32) (place : Nat) : UInt32 :=
      let word (back : Nat) : UInt32 := words.getD (place - back) 0
      turnLeft (word 3 ^^^ word 8 ^^^ word 14 ^^^ word 16) 1
    let (a, b, c, d, e) := (blocks 64 4 ofBytes (pad 64 8 highFirst message)).foldl
      (fun (a, b, c, d, e) words =>
        let (f, g, h, i, j) := (List.range 80).foldl (middleStep (extend32 next 80 words)) (a, b, c, d, e)
        (a + f, b + g, c + h, d + i, e + j))
      ((0x67452301, 0xefcdab89, 0x98badcfe, 0x10325476, 0xc3d2e1f0) : UInt32 × UInt32 × UInt32 × UInt32 × UInt32)
    [a, b, c, d, e].flatMap fun word => highFirst 4 word.toNat

/-- The constants that the way of 256 bits adds. -/
def roots32 : Array UInt32 :=
  ((primes 64).map fun prime => (fraction 3 32 prime).toUInt32).toArray

/-- A step of the way of 256 bits. -/
def step32 (words : Array UInt32) (state : Array UInt32) (step : Nat) : Array UInt32 :=
  match state.toList with
  | [a, b, c, d, e, f, g, h] =>
    let turned := turnRight e 6 ^^^ turnRight e 11 ^^^ turnRight e 25
    let first := h + turned + ((e &&& f) ^^^ (~~~e &&& g)) + roots32.getD step 0 + words.getD step 0
    let second := (turnRight a 2 ^^^ turnRight a 13 ^^^ turnRight a 22) + ((a &&& b) ^^^ (a &&& c) ^^^ (b &&& c))
    #[first + second, a, b, c, d + first, e, f, g]
  | _ => state

/-- The digest of 256 bits or less, from a state on. -/
def sha2Small (title : String) (size : Nat) (start : List Nat) : Digest where
  title
  size
  compute message :=
    let next (words : Array UInt32) (place : Nat) : UInt32 :=
      let word (back : Nat) : UInt32 := words.getD (place - back) 0
      let first := turnRight (word 15) 7 ^^^ turnRight (word 15) 18 ^^^ (word 15 >>> 3)
      let second := turnRight (word 2) 17 ^^^ turnRight (word 2) 19 ^^^ (word 2 >>> 10)
      word 16 + first + word 7 + second
    let state := (blocks 64 4 ofBytes (pad 64 8 highFirst message)).foldl
      (fun state words =>
        let after := (List.range 64).foldl (step32 (extend32 next 64 words)) state
        Array.zipWith (· + ·) state after)
      (start.map Nat.toUInt32).toArray
    (state.toList.flatMap fun word => highFirst 4 word.toNat).take size

/-- The digest of 256 bits. -/
def sha256 : Digest :=
  sha2Small "SHA256" 32 ((primes 8).map (fraction 2 32))

/-- The digest of 224 bits. -/
def sha224 : Digest :=
  sha2Small "SHA224" 28 (((primes 16).drop 8).map fun prime => fraction 2 64 prime % Nat.pow 2 32)

/-! ## Words of 64 bits -/

def turnLong (word : UInt64) (bits : UInt64) : UInt64 :=
  (word >>> bits) ||| (word <<< (64 - bits))

/-- The constants that the way of 512 bits adds. -/
def roots64 : Array UInt64 :=
  ((primes 80).map fun prime => (fraction 3 64 prime).toUInt64).toArray

/-- A step of the way of 512 bits. -/
def step64 (words : Array UInt64) (state : Array UInt64) (step : Nat) : Array UInt64 :=
  match state.toList with
  | [a, b, c, d, e, f, g, h] =>
    let turned := turnLong e 14 ^^^ turnLong e 18 ^^^ turnLong e 41
    let first := h + turned + ((e &&& f) ^^^ (~~~e &&& g)) + roots64.getD step 0 + words.getD step 0
    let second := (turnLong a 28 ^^^ turnLong a 34 ^^^ turnLong a 39) + ((a &&& b) ^^^ (a &&& c) ^^^ (b &&& c))
    #[first + second, a, b, c, d + first, e, f, g]
  | _ => state

/-- The digest of 512 bits or less, from a state on. -/
def sha2Large (title : String) (size : Nat) (start : List Nat) : Digest where
  title
  size
  compute message :=
    let next (words : Array UInt64) (place : Nat) : UInt64 :=
      let word (back : Nat) : UInt64 := words.getD (place - back) 0
      let first := turnLong (word 15) 1 ^^^ turnLong (word 15) 8 ^^^ (word 15 >>> 7)
      let second := turnLong (word 2) 19 ^^^ turnLong (word 2) 61 ^^^ (word 2 >>> 6)
      word 16 + first + word 7 + second
    let state := (blocks 128 8 ofBytes (pad 128 16 highFirst message)).foldl
      (fun state words =>
        let all := (List.range' 16 64).foldl (fun words place => words.push (next words place)) (words.map Nat.toUInt64)
        Array.zipWith (· + ·) state ((List.range 80).foldl (step64 all) state))
      (start.map Nat.toUInt64).toArray
    (state.toList.flatMap fun word => highFirst 8 word.toNat).take size

/-- The digest of 512 bits. -/
def sha512 : Digest :=
  sha2Large "SHA512" 64 ((primes 8).map (fraction 2 64))

/-- The digest of 384 bits. -/
def sha384 : Digest :=
  sha2Large "SHA384" 48 (((primes 16).drop 8).map (fraction 2 64))

/-- In which order the words of a block are mixed in. -/
def orders : List (List Nat) := [
  [0, 1, 2, 3, 4, 5, 6, 7, 8, 9, 10, 11, 12, 13, 14, 15], [14, 10, 4, 8, 9, 15, 13, 6, 1, 12, 0, 2, 11, 7, 5, 3],
  [11, 8, 12, 0, 5, 2, 15, 13, 10, 14, 3, 6, 7, 1, 9, 4], [7, 9, 3, 1, 13, 12, 11, 14, 2, 6, 5, 10, 4, 0, 15, 8],
  [9, 0, 5, 7, 2, 4, 10, 15, 14, 1, 11, 12, 6, 8, 3, 13], [2, 12, 6, 10, 0, 11, 8, 3, 4, 13, 7, 5, 15, 14, 1, 9],
  [12, 5, 1, 15, 14, 13, 4, 10, 0, 7, 6, 3, 9, 2, 8, 11], [13, 11, 7, 14, 12, 1, 3, 9, 5, 0, 15, 4, 8, 6, 2, 10],
  [6, 15, 14, 9, 11, 3, 0, 8, 12, 2, 13, 7, 1, 4, 10, 5], [10, 2, 8, 4, 7, 6, 1, 5, 15, 11, 9, 14, 3, 12, 13, 0]]

/-- The places that are mixed together, four at a time. -/
def mixed : List (Nat × Nat × Nat × Nat) := [
  (0, 4, 8, 12), (1, 5, 9, 13), (2, 6, 10, 14), (3, 7, 11, 15), (0, 5, 10, 15), (1, 6, 11, 12), (2, 7, 8, 13),
  (3, 4, 9, 14)]

/-- Mixes two words into four others. -/
def mix (state : Array UInt64) (places : Nat × Nat × Nat × Nat) (one other : UInt64) : Array UInt64 :=
  let (i, j, k, l) := places
  let a := state.getD i 0 + state.getD j 0 + one
  let d := turnLong (state.getD l 0 ^^^ a) 32
  let c := state.getD k 0 + d
  let b := turnLong (state.getD j 0 ^^^ c) 24
  let a := a + b + other
  let d := turnLong (d ^^^ a) 16
  let c := c + d
  let b := turnLong (b ^^^ c) 63
  (((state.setIfInBounds i a).setIfInBounds j b).setIfInBounds k c).setIfInBounds l d

/-- Mixes the words of a block into a state once. -/
def mixAll (words : Array UInt64) (state : Array UInt64) (order : List Nat) : Array UInt64 :=
  (mixed.zipIdx).foldl
    (fun state (places, number) =>
      let word (place : Nat) : UInt64 := words.getD (order.getD place 0) 0
      mix state places (word (2 * number)) (word (2 * number + 1)))
    state

/-- The digest of so many bytes that is made by mixing. -/
def blake2b (size : Nat) : Digest where
  title := "BLAKE2b" ++ if size = 64 then "" else "-" ++ toString (8 * size)
  size
  compute message :=
    let start := ((primes 8).map fun prime => (fraction 2 64 prime).toUInt64).toArray
    let initial := start.modify 0 (· ^^^ (0x01010000 + size).toUInt64)
    let count := max 1 ((message.size + 127) / 128)
    let state := (List.range count).foldl
      (fun state number =>
        let taken := min message.size (128 * (number + 1))
        let words := ((List.range 16).map fun place =>
          (ofBytesReversed message (number * 128 + place * 8) 8).toUInt64).toArray
        let inner := (state ++ start).modify 12 (· ^^^ taken.toUInt64)
        let inner := if number + 1 = count then inner.modify 14 (~~~·) else inner
        let after := (orders ++ orders.take 2).foldl (mixAll words) inner
        state.zipIdx.map fun (word, place) => word ^^^ after.getD place 0 ^^^ after.getD (place + 8) 0)
      initial
    (state.toList.flatMap fun word => lowFirst 8 word.toNat).take size

/-! ## Sums -/

/-- A sum that is turned before each byte. -/
def turnedSum (message : ByteArray) : Nat :=
  message.foldl (fun sum byte => (sum / 2 + sum % 2 * 32768 + byte.toNat) % 65536) 0

/-- A sum whose halves are added. -/
def foldedSum (message : ByteArray) : Nat :=
  let sum := message.foldl (fun sum byte => sum + byte.toNat) 0 % Nat.pow 2 32
  let once := sum % 65536 + sum / 65536
  once % 65536 + once / 65536

/-- A remainder after a bit has come in. -/
def divideBit (remainder : UInt32) : Nat → UInt32
  | 0 => remainder
  | bits + 1 =>
    let next := remainder <<< 1
    divideBit (if remainder &&& 0x80000000 ≠ 0 then next ^^^ 0x04c11db7 else next) bits

def remainders : Array UInt32 :=
  ((List.range 256).map fun byte => divideBit (Nat.toUInt32 byte <<< 24) 8).toArray

/-- The remainder of a text and its length, taken as the coefficients of a polynomial. -/
def remainderSum (message : ByteArray) : Nat :=
  let add (sum : UInt32) (byte : UInt8) : UInt32 :=
    (sum <<< 8) ^^^ remainders.getD ((sum >>> 24) ^^^ byte.toUInt32).toNat 0
  let size := message.size
  let length := lowFirst ((size.log2 + 8) / 8) size
  (~~~ ((if size = 0 then [] else length).foldl add (message.foldl add 0))).toNat

def hexadecimal (bytes : List UInt8) : String :=
  let digit (value : Nat) : Char := "0123456789abcdef".toList.getD value '0'
  String.ofList (bytes.flatMap fun byte => [digit (byte.toNat / 16), digit (byte.toNat % 16)])

end Digest

end Shell.Machine
