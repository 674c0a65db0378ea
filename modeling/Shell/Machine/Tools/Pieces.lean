import Shell.Machine.Tools.Files
import Shell.Machine.Tools.Environment
import Shell.Machine.Tools.Width

/-! # Pieces of files

Programs that divide a file into several, that copy a part of one, and that make files longer or shorter.
-/

namespace Shell.Machine

namespace Pieces

/-! ## Names of pieces -/

/-- How the names of pieces go on. -/
structure Naming where
  start : String := "x"
  finish : String := ""
  /-- How many characters are counted with, if that is fixed. -/
  length : Option Nat := none
  digits : List Char := "abcdefghijklmnopqrstuvwxyz".toList
  /-- Where counting begins. -/
  first : Nat := 0

/-- A number in some digits, of a given length. -/
def Naming.digitsOf (naming : Naming) : Nat → Nat → List Char
  | 0, _ => []
  | length + 1, number =>
    let base := naming.digits.length
    naming.digitsOf length (number / base) ++ [naming.digits.getD (number % base) '?']

/-- A number in digits that grow longer, so that the order of names stays the order of numbers. -/
def Naming.growing (naming : Naming) : Nat → Nat → Nat → List Char
  | 0, _, _ => []
  | fuel + 1, level, number =>
    let base := naming.digits.length
    let count := (base - 1) * Nat.pow base (level + 1)
    if number < count then
      List.replicate level (naming.digits.getLastD '?') ++ naming.digitsOf (level + 2) number
    else naming.growing fuel (level + 1) (number - count)

/-- The name of a piece, if there are enough names. -/
def Naming.name? (naming : Naming) (number : Nat) : Option String :=
  let number := number + naming.first
  let middle : Option (List Char) := match naming.length with
    | some length =>
      if number < Nat.pow naming.digits.length length then some (naming.digitsOf length number) else none
    | none => some (naming.growing 64 0 number)
  middle.map fun middle => naming.start ++ String.ofList middle ++ naming.finish

/-! ## Dividing -/

/-- How a text is divided. -/
inductive Division where
  | lines (count : Nat)
  | bytes (count : Nat)
  /-- Whole lines of so many bytes at most. -/
  | linesOfBytes (count : Nat)
  /-- So many pieces, of which perhaps only one is wanted. -/
  | chunks (count : Nat) (only : Option Nat)
  | lineChunks (count : Nat) (only : Option Nat)
  /-- Lines in turn. -/
  | turns (count : Nat) (only : Option Nat)
deriving Repr, DecidableEq, Inhabited

def linesWithEnds (last : Char) (text : String) : List String :=
  let lines := text.splitOn (String.singleton last)
  lines.dropLast.map (fun line => line.push last) ++ (lines.getLast?.filter fun line => !line.isEmpty).toList

def groupsOf {α : Type} (size : Nat) : Nat → List α → List (List α)
  | 0, _ => []
  | _, [] => []
  | fuel + 1, items => items.take size :: groupsOf size fuel (items.drop size)

/-- Lines in pieces of so many bytes at most. Lines that are longer are divided. -/
def fill (size : Nat) : Nat → List Char → List (List Char) → List (List Char)
  | 0, piece, _ => [piece]
  | _, piece, [] => if piece.isEmpty then [] else [piece]
  | fuel + 1, piece, line :: rest =>
    if piece.length + line.length ≤ size then fill size fuel (piece ++ line) rest
    else if piece.isEmpty then line.take size :: fill size fuel [] (line.drop size :: rest)
    else piece :: fill size fuel [] (line :: rest)

/-- Lines in so many pieces; each ends with the line that reaches its end. -/
def byLines (count size : Nat) (lines : List String) : List String :=
  let chunk := max 1 (size / count)
  let stopOf (number : Nat) : Nat := if number + 1 = count then size else (number + 1) * chunk
  let place (reached : Nat) : Nat :=
    ((List.range count).find? fun number => reached < stopOf number).getD (count - 1)
  let (pieces, _) := lines.foldl
    (fun (pieces, reached) line =>
      (pieces.modify (place reached) (· ++ line), reached + line.length))
    (List.replicate count "", 0)
  pieces

def Division.pieces (division : Division) (last : Char) (text : String) : List String :=
  match division with
  | .lines count =>
    let lines := linesWithEnds last text
    (groupsOf count (lines.length + 1) lines).map String.join
  | .bytes count => (groupsOf count (text.length + 1) text.toList).map String.ofList
  | .linesOfBytes count =>
    let lines := (linesWithEnds last text).map String.toList
    (fill count (2 * text.length + lines.length + 2) [] lines).map String.ofList
  | .chunks count only =>
    let size := text.length / count
    let pieces := (List.range count).map fun number =>
      let rest := (text.drop (number * max 1 size)).toString
      if number + 1 = count then rest else (rest.take (max 1 size)).toString
    only.elim pieces fun number => [pieces.getD (number - 1) ""]
  | .lineChunks count only =>
    let pieces := byLines count text.length (linesWithEnds last text)
    only.elim pieces fun number => [pieces.getD (number - 1) ""]
  | .turns count only =>
    let lines := (linesWithEnds last text).zipIdx
    let pieces := (List.range count).map fun number =>
      String.join ((lines.filter fun (_, place) => place % count = number).map (·.1))
    only.elim pieces fun number => [pieces.getD (number - 1) ""]

/-- Whether the only piece that is wanted is written instead of being put into a file. -/
def Division.isOnly : Division → Bool
  | .chunks _ only | .lineChunks _ only | .turns _ only => only.isSome
  | _ => false

/-- The division into pieces of a number that a text asks for. -/
def chunks? (text : String) : Option Division :=
  let number (text : String) : Option Nat := (Numeral.natural? text).filter (· ≠ 0)
  let make (build : Nat → Option Nat → Division) (parts : List String) : Option Division :=
    match parts with
    | [count] => (number count).map fun count => build count none
    | [only, count] => do
      let count ← number count
      let only ← number only
      if only ≤ count then return build count (some only) else none
    | _ => none
  match text.splitOn "/" with
  | "l" :: parts => make .lineChunks parts
  | "r" :: parts => make .turns parts
  | parts => make .chunks parts

end Pieces

namespace ToolM

open Pieces

/-- Reads all of an input, or ends the program. -/
def readInput (path : String) : ToolM String := do
  match ← openInput path with
  | .error error => fail 1 ("cannot open " ++ Quote.always path ++ " for reading: " ++ error.text)
  | .ok descriptor =>
    let (text, error) ← readAll descriptor
    closeInput descriptor
    match error with
    | some error => fail 1 ((if path = "-" then "-" else Quote.ifNeeded path) ++ ": read error: " ++ error.text)
    | none => return text

/-- Writes a text into a file. False if that fails, which is reported. -/
def writeWhole (path text : String) : ToolM Bool := do
  match ← ask (.openFile path { write := true, create := true, truncate := true } 0o666) with
  | .error error =>
    complain (Quote.ifNeeded path ++ ": " ++ error.text)
    return false
  | .ok descriptor =>
    discard (ask (.write descriptor (Octets.toBytes text)))
    discard (ask (.close descriptor))
    return true

/-- Gives a piece to a command, which learns the name of the piece. -/
def filterPiece (command name text : String) : ToolM Unit := do
  let (reading, writing) : Nat × Nat ← ask .makePipe
  let environment := setVariables (← get).environment ["FILE=" ++ name]
  let shell := (← setting? "SHELL").getD "/bin/sh"
  let child ← fork do
    discard (ask (.close writing))
    discard (ask (.redirect reading 0))
    discard (ask (.close reading))
    let error ← become [shell, "-c", command] environment
    return becomeStatus error
  discard (ask (.close reading))
  ask (.arrange Signal.pipe .ignored)
  discard (ask (.write writing (Octets.toBytes text)))
  discard (ask (.close writing))
  match ← awaitChild child patience with
  | some (.exited 0) | none => return
  | some (.exited code) =>
    fail 1 ("with FILE=" ++ name ++ ", exit " ++ toString code ++ " from command: " ++ command)
  | some (.signaled signal) =>
    fail 1 ("with FILE=" ++ name ++ ", signal " ++ Signal.name signal ++ " from command: " ++ command)

/-- How a file is to be divided. -/
def divisionOf (arguments : Arguments) : ToolM Division := do
  let kinds := ["l", "b", "C", "n"].filter arguments.has
  if 1 < kinds.length then misuse 1 "cannot split in more than one way"
  let size (name what : String) : ToolM Nat := do
    let text := (arguments.value? name).getD ""
    match countFrom? text with
    | some { count, sign := none } => if count ≠ 0 then return count
    | _ => pure ()
    fail 1 ("invalid number of " ++ what ++ ": " ++ Quote.text text)
  match kinds with
  | ["l"] => return .lines (← size "l" "lines")
  | ["b"] => return .bytes (← size "b" "bytes")
  | ["C"] => return .linesOfBytes (← size "C" "lines")
  | ["n"] =>
    let text := (arguments.value? "n").getD ""
    match chunks? text with
    | some division => return division
    | none => fail 1 ("invalid number of chunks: " ++ Quote.text ((text.splitOn "/").getLastD ""))
  | _ => return .lines 1000

/-- Divides a file into several. -/
def split : ToolM Unit := do
  modify fun tool =>
    { tool with arguments := tool.arguments.map fun text =>
        if isNumberOption text then "-l" ++ (text.drop 1).toString else text }
  let arguments ← readArguments 1 false
    ["a,suffix-length,:", "b,bytes,:", "C,line-bytes,:", "d,", ",numeric-suffixes,?", "x,", ",hex-suffixes,?",
      "e,elide-empty-files", "l,lines,:", "n,number,:", "t,separator,:", "u,unbuffered", ",verbose", ",filter,:",
      ",additional-suffix,:"]
  match arguments.operands with
  | _ :: _ :: extra :: _ => extraOperand extra
  | _ => pure ()
  let division ← divisionOf arguments
  let length ← match arguments.value? "a" with
    | none => pure none
    | some text =>
      match Numeral.natural? text with
      | some length => pure (if length = 0 then none else some length)
      | none => fail 1 ("invalid suffix length: " ++ Quote.text text)
  let digits := match arguments.last? ["d", "numeric-suffixes", "x", "hex-suffixes"] with
    | none => "abcdefghijklmnopqrstuvwxyz"
    | some "d" | some "numeric-suffixes" => "0123456789"
    | some _ => "0123456789abcdef"
  let first := ((arguments.value? "numeric-suffixes").orElse fun _ => arguments.value? "hex-suffixes").filter
    fun text => !text.isEmpty
  let last ← match arguments.value? "t" with
    | none => pure '\n'
    | some "\\0" => pure '\x00'
    | some text =>
      match text.toList with
      | [c] => pure c
      | [] => fail 1 "empty record separator"
      | _ => fail 1 ("multi-character separator " ++ Quote.text text)
  let text ← readInput (arguments.operands.headD "-")
  let pieces := division.pieces last text
  if division.isOnly then
    print (String.join pieces)
    return
  let pieces := if arguments.has "e" then pieces.filter fun piece => !piece.isEmpty else pieces
  let needed : Option Nat := if arguments.has "n" then some (max 2 (digitsFor digits.length pieces.length)) else none
  let naming : Naming := {
    start := arguments.operands.getD 1 "x"
    finish := (arguments.value? "additional-suffix").getD ""
    length := (length.orElse fun _ => needed).orElse fun _ => first.map fun _ => 2
    digits := digits.toList
    first := (first.bind String.toNat?).getD 0 }
  for (piece, number) in pieces.zipIdx do
    let some name := naming.name? number
      | fail 1 "output file suffixes exhausted"
    match arguments.value? "filter" with
    | some command =>
      if arguments.has "verbose" then print ("executing with FILE=" ++ Quote.always name ++ "\n")
      filterPiece command name piece
    | none =>
      if arguments.has "verbose" then print ("creating file " ++ Quote.always name ++ "\n")
      if !(← writeWhole name piece) then quit 1
where
  /-- How many digits the numbers below a count need. -/
  digitsFor (base count : Nat) : Nat :=
    (Nat.toDigits base (count - 1)).length

/-! ## Copying parts -/

/-- What is copied, and how. -/
structure Extract where
  input : Option String := none
  output : Option String := none
  inputSize : Nat := 512
  outputSize : Nat := 512
  /-- Whether blocks are written as they are read. -/
  whole : Bool := false
  conversionSize : Nat := 0
  count : Option Nat := none
  skip : Nat := 0
  seek : Nat := 0
  conversions : List String := []
  inputFlags : List String := []
  outputFlags : List String := []
  status : String := ""

/-- The number of a size, which may be a product. -/
def sizeProduct? (text : String) : Option Nat :=
  let factors := text.splitOn "x"
  factors.foldlM
    (fun product factor =>
      let factor := if factor.endsWith "B" && (factor.dropEnd 1).toString.all Char.isDigit && factor.length > 1
        then (factor.dropEnd 1).toString else factor
      let factor := match factor.toList.getLast? with
        | some 'c' => (factor.dropEnd 1).toString
        | _ => factor
      match countFrom? factor with
      | some { count, sign := none } => some (product * count)
      | _ =>
        if factor.endsWith "w" then (Numeral.natural? (factor.dropEnd 1).toString).map (product * 2 * ·) else none)
    1

def conversionNames : List String := [
  "ascii", "ebcdic", "ibm", "block", "unblock", "lcase", "ucase", "sparse", "swab", "noerror", "nocreat", "excl",
  "notrunc", "sync", "fdatasync", "fsync"]

def flagNames : List String := [
  "append", "binary", "cio", "direct", "directory", "dsync", "noatime", "nocache", "noctty", "nofollow", "nolinks",
  "nonblock", "sync", "text", "fullblock", "count_bytes", "skip_bytes", "seek_bytes"]

/-- Reads one operand of the program that copies parts. -/
def extractOperand (extract : Extract) (operand : String) : ToolM Extract := do
  let (name, value) := operand.toList.span (· ≠ '=')
  let name := String.ofList name
  let text := String.ofList (value.drop 1)
  let unknown {α : Type} : ToolM α := misuse 1 ("unrecognized operand " ++ Quote.text operand)
  let number : ToolM Nat := do
    match sizeProduct? text with
    | some value => return value
    | none => fail 1 ("invalid number: " ++ Quote.text text)
  let size : ToolM Nat := do
    let value ← number
    if value = 0 then fail 1 ("invalid number: " ++ Quote.text text)
    return value
  let names (known : List String) (what : String) : ToolM (List String) := do
    let given := text.splitOn ","
    match given.find? fun name => !known.contains name with
    | some wrong => misuse 1 ("invalid " ++ what ++ ": " ++ Quote.text wrong)
    | none => return given
  if value.isEmpty then unknown
  match name with
  | "if" => return { extract with input := some text }
  | "of" => return { extract with output := some text }
  | "ibs" => return { extract with inputSize := ← size }
  | "obs" => return { extract with outputSize := ← size }
  | "bs" =>
    let size ← size
    return { extract with inputSize := size, outputSize := size, whole := true }
  | "cbs" => return { extract with conversionSize := ← number }
  | "count" => return { extract with count := some (← number) }
  | "skip" | "iseek" => return { extract with skip := ← number }
  | "seek" | "oseek" => return { extract with seek := ← number }
  | "conv" => return { extract with conversions := extract.conversions ++ (← names conversionNames "conversion") }
  | "iflag" => return { extract with inputFlags := ← names flagNames "input flag" }
  | "oflag" => return { extract with outputFlags := ← names flagNames "output flag" }
  | "status" =>
    if ["none", "noxfer", "progress"].contains text then return { extract with status := text }
    else misuse 1 ("invalid status level: " ++ Quote.text text)
  | _ => unknown

/-- Full blocks and others that were read or written. -/
structure Blocks where
  full : Nat := 0
  part : Nat := 0
deriving Repr, DecidableEq, Inhabited

def Blocks.add (size most : Nat) (blocks : Blocks) : Blocks :=
  if size = most then { blocks with full := blocks.full + 1 } else { blocks with part := blocks.part + 1 }

/-- Neighbouring bytes exchanged. -/
def swapPairs : List Char → List Char
  | a :: b :: rest => b :: a :: swapPairs rest
  | rest => rest

/-- A block with what is said to be done to bytes. -/
def Extract.convert (extract : Extract) (block : List Char) : List Char :=
  let has (name : String) : Bool := extract.conversions.contains name
  let block := if has "sync" then
      block ++ List.replicate (extract.inputSize - block.length) (if has "block" || has "unblock" then ' ' else '\x00')
    else block
  let block := if has "swab" then swapPairs block else block
  if has "ucase" then block.map Char.toUpper else if has "lcase" then block.map Char.toLower else block

/-- Reads one block. One that is to be full is read on until it is. -/
def readBlock (descriptor : Nat) (full : Bool) : Nat → Nat → ByteArray → ToolM (Except SystemError ByteArray)
  | 0, _, sofar => return .ok sofar
  | fuel + 1, most, sofar => do
    match ← ask (.read descriptor (most - sofar.size)) with
    | .error error => return .error error
    | .ok bytes =>
      let sofar := sofar ++ bytes
      if bytes.isEmpty || !full || most ≤ sofar.size then return .ok sofar
      else readBlock descriptor full fuel most sofar

/-- Reads blocks from a descriptor: what was read, and how many blocks. -/
def readBlocks (extract : Extract) (descriptor : Nat) (most : Option Nat) (inBytes full : Bool) :
    Nat → Nat → List (List Char) → Blocks → ToolM (List (List Char) × Blocks × Option SystemError)
  | 0, _, sofar, blocks => return (sofar.reverse, blocks, none)
  | fuel + 1, taken, sofar, blocks => do
    let size := if inBytes then
        most.elim extract.inputSize fun most => min extract.inputSize (most - taken)
      else extract.inputSize
    if most.any (· ≤ taken) || size = 0 then return (sofar.reverse, blocks, none)
    match ← readBlock descriptor full patience size .empty with
    | .error error => return (sofar.reverse, blocks, some error)
    | .ok bytes =>
      if bytes.isEmpty then return (sofar.reverse, blocks, none)
      let block := (Octets.ofBytes bytes).toList
      readBlocks extract descriptor most inBytes full fuel (taken + if inBytes then bytes.size else 1) (block :: sofar)
        (blocks.add bytes.size extract.inputSize)

/-- Lines in fields of so many bytes. -/
def blockLines (size : Nat) (text : String) : String :=
  String.join ((linesOf text).map fun line => Numeral.padRight size (line.take size).toString)

/-- Fields of so many bytes as lines. -/
def unblockLines (size : Nat) (text : String) : String :=
  String.join ((groupsOf size (text.length + 1) text.toList).map fun field =>
    String.ofList (field.reverse.dropWhile (· = ' ')).reverse ++ "\n")

/-- Says how much was copied. -/
def reportBlocks (extract : Extract) (read written : Blocks) (size : Nat) : ToolM Unit := do
  if extract.status ≠ "none" then
    let line (blocks : Blocks) (what : String) : String :=
      toString blocks.full ++ "+" ++ toString blocks.part ++ " records " ++ what ++ "\n"
    let amount := if extract.status = "noxfer" then ""
      else toString size ++ " byte" ++ (if size = 1 then "" else "s") ++ " copied, 0.0001 s, 0.0 kB/s\n"
    discard (ask (.write 2 (Octets.toBytes (line read "in" ++ line written "out" ++ amount))))

/-- Copies a part of a file. -/
def dd : ToolM Unit := do
  let arguments ← readArguments 1 false []
  let mut extract : Extract := {}
  for operand in arguments.operands do
    extract ← extractOperand extract operand
  let plan := extract
  let has (name : String) : Bool := plan.conversions.contains name
  for (one, other) in [("block", "unblock"), ("lcase", "ucase"), ("excl", "nocreat")] do
    if has one && has other && !(one = "block" && plan.conversionSize = 0) then
      fail 1 ("cannot combine " ++ one ++ " and " ++ other)
  let input ← match plan.input with
    | none => pure 0
    | some path =>
      match ← ask (.openFile path { read := true } 0) with
      | .ok descriptor => pure descriptor
      | .error error => fail 1 ("failed to open " ++ Quote.always path ++ ": " ++ error.text)
  let seekBytes := if plan.outputFlags.contains "seek_bytes" then plan.seek else plan.seek * plan.outputSize
  let keeps := has "notrunc" || plan.outputFlags.contains "append"
  -- What is in the file already is put before and after what is copied.
  let (output, old) ← match plan.output with
    | none => pure (1, "")
    | some path =>
      let old ← if !keeps && seekBytes = 0 then pure ""
        else
          match ← ask (.openFile path { read := true } 0) with
          | .error _ => pure ""
          | .ok descriptor =>
            let (text, _) ← readAll descriptor
            discard (ask (.close descriptor))
            pure text
      let mode : OpenMode :=
        { write := true, create := !has "nocreat", truncate := true, fresh := has "excl" }
      match ← ask (.openFile path mode 0o666) with
      | .ok descriptor => pure (descriptor, old)
      | .error error => fail 1 ("failed to open " ++ Quote.always path ++ ": " ++ error.text)
  let skipsBytes := plan.inputFlags.contains "skip_bytes"
  discard (readBlocks { plan with inputSize := if skipsBytes then max 1 (min plan.skip maxRead) else plan.inputSize }
    input (some plan.skip) skipsBytes true (plan.skip + 1) 0 [] {})
  let (blocks, read, error) ← readBlocks plan input plan.count (plan.inputFlags.contains "count_bytes")
    (plan.inputFlags.contains "fullblock") patience 0 [] {}
  let converted := blocks.map plan.convert
  let text := String.ofList converted.flatten
  let text :=
    if has "block" && plan.conversionSize ≠ 0 then blockLines plan.conversionSize text
    else if has "unblock" && plan.conversionSize ≠ 0 then unblockLines plan.conversionSize text
    else text
  let isPlain := plan.whole && !(["block", "unblock", "ucase", "lcase", "swab"].any has)
  let sizes := if isPlain then converted.map List.length
    else (groupsOf plan.outputSize (text.length + 1) text.toList).map List.length
  let written := sizes.foldl (fun blocks size => blocks.add size plan.outputSize) ({} : Blocks)
  let start := if plan.outputFlags.contains "append" then old.length else seekBytes
  let before := ((old.take start).toString).pushn '\x00' (start - old.length)
  let after := if keeps then (old.drop (start + text.length)).toString else ""
  let whole := if plan.output.isSome then before ++ text ++ after else text
  let name := (plan.output.map Quote.always).getD "'standard output'"
  let failed : Option SystemError ← if whole.isEmpty then pure none
    else
      match ← ask (.write output (Octets.toBytes whole)) with
      | .ok _ => pure none
      | .error error => do
        report ("error writing " ++ name ++ ": " ++ error.text)
        pure (some error)
  match error with
  | some error =>
    complain ("error reading " ++ (plan.input.map Quote.always).getD "'standard input'" ++ ": " ++ error.text)
  | none => pure ()
  reportBlocks plan read (if failed.isSome then {} else written) (if failed.isSome then 0 else text.length)
  if failed.isSome then quit 1

/-! ## Lengths -/

/-- The size that a text asks for, given how long a file is. -/
def sizeFrom? (text : String) (size : Nat) : Option Nat :=
  let (mark, rest) := match text.toList with
    | c :: rest => if "+-<>/%".contains c then (some c, String.ofList rest) else (none, text)
    | [] => (none, text)
  match countFrom? rest with
  | some { count, sign := none } =>
    match mark with
    | none => some count
    | some '+' => some (size + count)
    | some '-' => some (size - count)
    | some '<' => some (min size count)
    | some '>' => some (max size count)
    | some '/' => if count = 0 then none else some (size / count * count)
    | _ => if count = 0 then none else some ((size + count - 1) / count * count)
  | _ => none

/-- Makes files longer or shorter. -/
def truncate : ToolM Unit := do
  let arguments ← readArguments 1 false
    ["c,no-create", "o,io-blocks", "r,reference,:", "s,size,:"]
  let given := arguments.value? "s"
  let isRelative := given.any fun text => text.toList.head?.any fun c => "+-<>/%".contains c
  match given, arguments.value? "r" with
  | none, none => misuse 1 "you must specify either '--size' or '--reference'"
  | some text, reference =>
    if (sizeFrom? text 0).isNone then
      let isZero := (countFrom? (text.drop 1).toString).any fun { count, .. } => count = 0
      if isZero && (text.startsWith "/" || text.startsWith "%") then fail 1 "division by zero"
      fail 1 ("Invalid number: " ++ Quote.text text)
    if reference.isSome && !isRelative then misuse 1 "you must specify a relative '--size' with '--reference'"
  | none, some _ => pure ()
  if arguments.operands.isEmpty then misuse 1 "missing file operand"
  let base : Option Nat ← match arguments.value? "r" with
    | none => pure none
    | some path =>
      match ← ask (.inspect path true) with
      | .ok info => pure (some info.size)
      | .error error => fail 1 ("cannot stat " ++ Quote.always path ++ ": " ++ error.text)
  for path in arguments.operands do
    match ← ask (.openFile path { write := true, create := !arguments.has "c" } 0o666) with
    | .error error =>
      if !(arguments.has "c" && error = .missing) then
        complain ("cannot open " ++ Quote.always path ++ " for writing: " ++ error.text)
    | .ok descriptor =>
      discard (ask (.close descriptor))
      let size := ((← inspect? path true).map FileInfo.size).getD 0
      let unit := if arguments.has "o" then 4096 else 1
      let wanted : Nat := ((given.elim base fun text => sizeFrom? text (base.getD size)).getD 0) * unit
      match ← ask (.truncate path wanted) with
      | .ok _ => pure ()
      | .error error =>
        complain ("failed to truncate " ++ Quote.always path ++ " at " ++ toString wanted ++ " bytes: " ++
          error.text)

end ToolM

end Shell.Machine
