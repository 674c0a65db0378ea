import Shell.Machine.Tools.Lines
import Shell.Machine.Utility.Digest

/-! # Programs for digests

Programs that tell the digests of files, each with the name of its file, and check whether files still have the
digests that were written down.
-/

namespace Shell.Machine.ToolM

/-- The ways to make digests, by the words for them. -/
def digestNames : List (String × Digest) := [
  ("md5", .md5), ("sha1", .sha1), ("sha224", .sha224), ("sha256", .sha256), ("sha384", .sha384), ("sha512", .sha512),
  ("blake2b", .blake2b 64)]

/-- The bytes of a file, or a report. -/
def bytesOf (path : String) : ToolM (Option ByteArray) := do
  let refuse (error : SystemError) : ToolM (Option ByteArray) := do
    flush
    complain (Quote.ifNeeded path ++ ": " ++ error.text)
    return none
  match ← openInput path with
  | .error error => refuse error
  | .ok descriptor =>
    let (text, error) ← readAll descriptor
    closeInput descriptor
    match error with
    | some error => refuse error
    | none => return some (Octets.toBytes text)

/-- A name without characters that would end a line, and whether there were any. -/
def escapedName (name : String) : String × Bool :=
  let parts := name.toList.map fun c =>
    if c = '\\' then "\\\\" else if c = '\n' then "\\n" else if c = '\r' then "\\r" else String.singleton c
  let text := String.join parts
  (text, text ≠ name)

/-- A name as it was before characters were replaced. -/
def plainName : List Char → Option (List Char)
  | '\\' :: 'n' :: rest => (plainName rest).map ('\n' :: ·)
  | '\\' :: 'r' :: rest => (plainName rest).map ('\r' :: ·)
  | '\\' :: '\\' :: rest => (plainName rest).map ('\\' :: ·)
  | '\\' :: _ => none
  | c :: rest => (plainName rest).map (c :: ·)
  | [] => some []

/-- Writes the digest of a file. -/
def printDigest (digest : Digest) (tagged binary zero : Bool) (path : String) : ToolM Unit := do
  match ← bytesOf path with
  | none => return
  | some bytes =>
    let value := Digest.hexadecimal (digest.compute bytes)
    let (name, isEscaped) := if zero then (path, false) else escapedName path
    let mark := if isEscaped then "\\" else ""
    let last := if zero then "\x00" else "\n"
    if tagged then print (mark ++ digest.title ++ " (" ++ name ++ ") = " ++ value ++ last)
    else print (mark ++ value ++ (if binary then " *" else "  ") ++ name ++ last)

/-- What a line says: the way the digest was made if it says so, the digest and the name. -/
structure NotedDigest where
  title : Option String
  value : String
  name : String
deriving Repr, DecidableEq, Inhabited

def notedDigest? (line : String) : Option NotedDigest :=
  let chars := line.toList
  let isEscaped := chars.head? = some '\\'
  let chars := if isEscaped then chars.drop 1 else chars
  let chars := chars.dropWhile fun c => c = ' ' || c = '\t'
  let name (chars : List Char) : Option String :=
    if isEscaped then (plainName chars).map String.ofList else some (String.ofList chars)
  let isDigit (c : Char) : Bool := (Numeral.digit? 16 c).isSome
  let digits := chars.takeWhile isDigit
  match chars.drop digits.length with
  | ' ' :: c :: rest =>
    if !digits.isEmpty && (c = ' ' || c = '*') && !rest.isEmpty then
      (name rest).map fun name => ⟨none, String.ofList digits, name⟩
    else tagged name isDigit chars
  | _ => tagged name isDigit chars
where
  /-- Reads a line that begins with the way the digest was made. -/
  tagged (name : List Char → Option String) (isDigit : Char → Bool) (chars : List Char) : Option NotedDigest :=
    let title := chars.takeWhile fun c => c ≠ ' ' && c ≠ '('
    let rest := (chars.drop title.length).dropWhile (· = ' ')
    match rest with
    | '(' :: rest =>
      let reversed := rest.reverse
      let digits := (reversed.takeWhile isDigit).reverse
      match reversed.drop digits.length with
      | ' ' :: '=' :: ' ' :: ')' :: before =>
        if digits.isEmpty then none
        else (name before.reverse).map fun name => ⟨some (String.ofList title), String.ofList digits, name⟩
      | _ => none
    | _ => none

/-- How the check of files went. -/
structure CheckCounts where
  proper : Nat := 0
  improper : Nat := 0
  unread : Nat := 0
  wrong : Nat := 0
  right : Nat := 0

/-- Checks the files that are named in one. -/
def checkDigests (digest? : NotedDigest → Option Digest) (title : String) (arguments : Arguments) (path : String) :
    ToolM Unit := do
  let shown := if path = "-" then "'standard input'" else Quote.ifNeeded path
  match ← bytesOf path with
  | none => return
  | some bytes =>
    let lines := linesOf (Octets.ofBytes bytes)
    let mut counts : CheckCounts := {}
    for (line, place) in lines.zipIdx do
      if !line.startsWith "#" && !line.isEmpty then
        let found := (notedDigest? (withoutEnd '\r' line)).bind fun noted =>
          (digest? noted).map fun digest => (noted, digest)
        match found with
        | none =>
          counts := { counts with improper := counts.improper + 1 }
          if arguments.has "w" then
            flush
            report (shown ++ ": " ++ toString (place + 1) ++ ": improperly formatted " ++ title ++ " checksum line")
        | some (noted, digest) =>
          counts := { counts with proper := counts.proper + 1 }
          let (name, isEscaped) := escapedName noted.name
          let name := (if isEscaped then "\\" else "") ++ name
          let opened ← openInput noted.name
          match opened with
          | .error error =>
            if !(arguments.has "ignore-missing" && error = .missing) then
              flush
              complain (Quote.ifNeeded noted.name ++ ": " ++ error.text)
              counts := { counts with unread := counts.unread + 1 }
              if !arguments.has "status" then print (name ++ ": FAILED open or read\n")
          | .ok descriptor =>
            let (text, _) ← readAll descriptor
            closeInput descriptor
            if Digest.hexadecimal (digest.compute (Octets.toBytes text)) = noted.value.toLower then
              counts := { counts with right := counts.right + 1 }
              if !arguments.has "status" && !arguments.has "quiet" then print (name ++ ": OK\n")
            else
              counts := { counts with wrong := counts.wrong + 1 }
              if !arguments.has "status" then print (name ++ ": FAILED\n")
    flush
    if counts.proper = 0 then complain (shown ++ ": no properly formatted checksum lines found")
    else
      if !arguments.has "status" then
        if counts.improper ≠ 0 then
          report ("WARNING: " ++ toString counts.improper ++
            (if counts.improper = 1 then " line is improperly formatted" else " lines are improperly formatted"))
        if counts.unread ≠ 0 then
          report ("WARNING: " ++ toString counts.unread ++
            (if counts.unread = 1 then " listed file could not be read" else " listed files could not be read"))
        if counts.wrong ≠ 0 then
          report ("WARNING: " ++ toString counts.wrong ++
            (if counts.wrong = 1 then " computed checksum did NOT match" else " computed checksums did NOT match"))
        if arguments.has "ignore-missing" && counts.right = 0 then report (shown ++ ": no file was verified")
      if counts.wrong ≠ 0 || counts.unread ≠ 0 || (arguments.has "ignore-missing" && counts.right = 0) ||
          (arguments.has "strict" && counts.improper ≠ 0) then
        modify fun tool => { tool with status := 1 }

/-- Refuses options that do not go together. -/
def refuseDigestOptions (arguments : Arguments) : ToolM Unit := do
  let checks := arguments.has "c"
  if arguments.has "tag" && !arguments.has "b" && arguments.has "t" then
    misuse 1 "--tag does not support --text mode"
  if arguments.has "z" && checks then
    misuse 1 "the --zero option is not supported when verifying checksums"
  if arguments.has "tag" && checks then
    misuse 1 "the --tag option is meaningless when verifying checksums"
  if (arguments.has "b" || arguments.has "t") && checks then
    misuse 1 "the --binary and --text options are meaningless when verifying checksums"
  for option in ["ignore-missing", "status", "w", "quiet", "strict"] do
    if arguments.has option && !checks then
      misuse 1 ("the --" ++ (if option = "w" then "warn" else option) ++
        " option is meaningful only when verifying checksums")

def digestOptions : List String := [
  "b,binary", "t,text", "c,check", "w,warn", "z,zero", ",ignore-missing", ",quiet", ",status", ",strict", ",tag"]

/-- The way of mixing for a length in bits. -/
def mixedDigest (text : String) : ToolM Digest := do
  match Numeral.natural? text with
  | none => fail 1 ("invalid length: " ++ Quote.text text)
  | some bits =>
    if bits % 8 ≠ 0 then
      report ("invalid length: " ++ Quote.text text)
      fail 1 "length is not a multiple of 8"
    if 512 < bits then
      report ("invalid length: " ++ Quote.text text)
      fail 1 "maximum digest length for 'BLAKE2b' is 512 bits"
    return .blake2b (if bits = 0 then 64 else bits / 8)

/-- Tells the digests of files, or checks them. -/
def digest (kind : Digest) : ToolM Unit := do
  let arguments ← readArguments 1 false (digestOptions ++ if kind.title = "BLAKE2b" then ["l,length,:"] else [])
  let kind ← match arguments.value? "l" with
    | none => pure kind
    | some text => mixedDigest text
  refuseDigestOptions arguments
  let paths := if arguments.operands.isEmpty then ["-"] else arguments.operands
  if arguments.has "c" then
    let digest? (noted : NotedDigest) : Option Digest :=
      let right := match noted.title with
        | none => true
        | some title => title = kind.title || (kind.title.startsWith "BLAKE2b" && title.startsWith "BLAKE2b")
      if !right then none
      else if noted.value.length = 2 * kind.size then some kind
      else if kind.title.startsWith "BLAKE2b" && noted.value.length % 2 = 0 && noted.value.length ≤ 128 then
        some (.blake2b (noted.value.length / 2))
      else none
    paths.forM (checkDigests digest? kind.title arguments)
  else
    paths.forM (printDigest kind (arguments.has "tag") (arguments.last? ["b", "t"] = some "b") (arguments.has "z"))

/-- Writes a sum of a file and how long the file is. -/
def printSum (kind : String) (named : Bool) (last path : String) : ToolM Unit := do
  match ← bytesOf path with
  | none => return
  | some bytes =>
    let name := if named then " " ++ path else ""
    let size := bytes.size
    let text := match kind with
      | "bsd" =>
        Numeral.padLeft 5 '0' (toString (Digest.turnedSum bytes)) ++ " " ++
          Numeral.padLeft 5 ' ' (toString ((size + 1023) / 1024))
      | "sysv" => toString (Digest.foldedSum bytes) ++ " " ++ toString ((size + 511) / 512)
      | _ => toString (Digest.remainderSum bytes) ++ " " ++ toString size
    print (text ++ name ++ last)

/-- Tells sums of files. -/
def sum : ToolM Unit := do
  let arguments ← readArguments 1 false ["r,", "s,sysv"]
  let kind := if arguments.last? ["r", "s"] = some "s" then "sysv" else "bsd"
  if arguments.operands.isEmpty then printSum kind false "\n" "-"
  else arguments.operands.forM (printSum kind true "\n")

/-- Tells sums or digests of files, or checks digests. -/
def cksum : ToolM Unit := do
  let arguments ← readArguments 1 false (digestOptions ++ ["a,algorithm,:", ",untagged", "l,length,:", ",debug"])
  let kinds := ["bsd", "sysv", "crc"] ++ digestNames.map (·.1) ++ ["sm3"]
  let kind := (arguments.value? "a").getD "crc"
  if !kinds.contains kind then
    report ("invalid argument " ++ Quote.text kind ++ " for '--algorithm'")
    explainChoices kinds
    advise 1
  if arguments.has "l" && kind ≠ "blake2b" then
    misuse 1 "--length is only supported with --algorithm=blake2b"
  let paths := if arguments.operands.isEmpty then ["-"] else arguments.operands
  let last := if arguments.has "z" then "\x00" else "\n"
  if arguments.has "c" then
    if ["bsd", "sysv", "crc"].contains kind && arguments.has "a" then
      misuse 1 ("--check is not supported with --algorithm=\x7bbsd,sysv,crc\x7d")
    refuseDigestOptions arguments
    let digest? (noted : NotedDigest) : Option Digest :=
      match noted.title with
      | some title => (digestNames.map (·.2)).find? fun digest =>
          digest.title = title && noted.value.length = 2 * digest.size &&
            (!arguments.has "a" || (digestNames.lookup kind).any fun wanted => wanted.title = title)
      | none => if arguments.has "a" then
          (digestNames.lookup kind).filter fun digest => noted.value.length = 2 * digest.size
        else none
    paths.forM (checkDigests digest? (if arguments.has "a" then kind.toUpper else "CRC") arguments)
  else
    refuseDigestOptions arguments
    match digestNames.lookup kind with
    | none => paths.forM (printSum kind (!arguments.operands.isEmpty) last)
    | some kind =>
      let kind ← match arguments.value? "l" with
        | none => pure kind
        | some text => mixedDigest text
      paths.forM (printDigest kind (!arguments.has "untagged") false (arguments.has "z"))

end Shell.Machine.ToolM
