import Shell.Machine.Script.Builtin.Variables

/-! # Reading input

The builtins of the extended dialect that read lines into variables and into arrays.
-/

namespace Shell.Machine.Script.ScriptM

/-- How input is read. -/
structure ReadRules where
  descriptor : Nat := 0
  /-- The byte that ends what is read, if any does. -/
  delimiter : Option UInt8 := some 10
  /-- So many characters are read at most. -/
  limit : Option Nat := none
  /-- Whether a backslash is a character like others. -/
  raw : Bool := false

/-- What has been read: characters, the last one first, and whether a backslash waits for the next one. -/
structure ReadProgress where
  glyphs : List Glyph := []
  waits : Bool := false
  count : Nat := 0

/-- Adds a byte to what has been read. True if that is the end. -/
def takeByte (rules : ReadRules) (byte : UInt8) (progress : ReadProgress) : Bool × ReadProgress :=
  let c := Char.ofNat byte.toNat
  let full (progress : ReadProgress) : Bool × ReadProgress :=
    (rules.limit.any fun limit => limit ≤ progress.count, progress)
  if progress.waits then
    if c = '\n' then (false, { progress with waits := false })
    else full { glyphs := ⟨c, true⟩ :: progress.glyphs, count := progress.count + 1 }
  else if c = '\\' && !rules.raw then (false, { progress with waits := true })
  else if some byte = rules.delimiter then (true, progress)
  else if byte = 0 then (false, progress)
  else full { progress with glyphs := ⟨c, false⟩ :: progress.glyphs, count := progress.count + 1 }

/-- Adds bytes to what has been read. True if the end has been reached. -/
def takeBytes (rules : ReadRules) : List UInt8 → ReadProgress → Bool × ReadProgress
  | [], progress => (false, progress)
  | byte :: rest, progress =>
    match takeByte rules byte progress with
    | (true, progress) => (true, progress)
    | (false, progress) => takeBytes rules rest progress

/-- Why reading has ended. -/
inductive ReadEnd where
  | complete
  /-- There was nothing more. -/
  | exhausted
  | failed (error : SystemError)
deriving Repr, DecidableEq, Inhabited

/-- Reads characters up to the end of what is to be read. -/
def readProgress (rules : ReadRules) : Nat → ReadProgress → ScriptM (ReadEnd × ReadProgress)
  | 0, progress => return (.exhausted, progress)
  | fuel + 1, progress => do
    let result : Except SystemError ByteArray ← match rules.limit, rules.delimiter with
      | none, some delimiter => ask (.readUpTo rules.descriptor delimiter)
      | _, _ => ask (.read rules.descriptor 1)
    match result with
    | .error .interrupted =>
      if (← ask .pendingSignal).isSome then return (.exhausted, progress) else readProgress rules fuel progress
    | .error error => return (.failed error, progress)
    | .ok bytes =>
      if bytes.isEmpty then return (.exhausted, progress)
      match takeBytes rules bytes.toList progress with
      | (true, progress) => return (.complete, progress)
      | (false, progress) => readProgress rules fuel progress

def allFields (separators : String) : Nat → List Glyph → List (List Glyph)
  | 0, _ => []
  | _, [] => []
  | fuel + 1, glyphs =>
    let (field, rest) := glyphs.span fun glyph => !isSeparator separators glyph
    field :: allFields separators fuel (skipSeparator separators rest)

/-- Gives a variable or an element a value that has been read. False if that is no name. -/
def assignRead (text value : String) : ScriptM Bool := do
  let target := Assignable.ofText text
  if !Name.isValid target.name.toList || target.value.isSome then
    discard (refuseName text)
    return false
  match target.subscript with
  | some subscript => setElementAt target.name subscript value false
  | none => setValue target.name value false false
  return true

/-- Gives variables the values that have been read, up to the first that has no name. -/
def assignAllRead : List (String × String) → ScriptM Bool
  | [] => return true
  | (name, value) :: rest => do
    if ← assignRead name value then assignAllRead rest else return false

def readDescriptor (text : Option String) : ScriptM Nat := do
  match text with
  | none => return 0
  | some text =>
    match text.toNat? with
    | none =>
      failWith 1 (text ++ ": invalid file descriptor specification")
    | some number =>
      match ← ask (.inspectOpen number) with
      | .ok _ => return number
      | .error error => failWith 1 (text ++ ": invalid file descriptor: " ++ error.text)

/-- The number of characters that an option names. -/
def readCount (text : Option String) : ScriptM (Option Nat) := do
  match text with
  | none => return none
  | some text =>
    match text.toNat? with
    | some count => return some count
    | none => failWith 1 (text ++ ": invalid number")

/-- Reads a line into variables. -/
def readExtended (arguments : List String) : ScriptM Nat := do
  let (options, names) ← readOptions "ersa:d:i:n:N:p:t:u:" arguments
  let value (letter : Char) : Option String := (options.reverse.find? fun option => option.1 = letter).map (·.2)
  let has (letter : Char) : Bool := options.any fun option => option.1 = letter
  let descriptor ← readDescriptor (value 'u')
  let limit ← readCount (value 'n')
  let exact ← readCount (value 'N')
  match value 't' with
  | some text =>
    if (text.toList.filter fun c => c ≠ '.').any fun c => !c.isDigit then
      failWith 1 (text ++ ": invalid timeout specification")
    if text = "0" then return 0
  | none => pure ()
  match names.find? fun name => !Name.isValid ((Assignable.ofText name).name.toList) with
  | some name => if !has 'a' then return ← refuseName name
  | none => pure ()
  let delimiter : UInt8 := match value 'd' with
    | none => 10
    | some text => UInt8.ofNat ((text.toList.head?.map Char.toNat).getD 0)
  let rules : ReadRules := {
    descriptor, delimiter := if exact.isSome then none else some delimiter, limit := exact.orElse fun _ => limit,
    raw := has 'r' }
  if rules.limit = some 0 then return 0
  let (ending, progress) ← readProgress rules patience {}
  let status : Nat ← match ending with
    | .complete => pure 0
    | .exhausted => pure 1
    | .failed error => do
      warn ("read error: " ++ toString descriptor ++ ": " ++ error.text)
      pure 1
  let glyphs := progress.glyphs.reverse
  let separators := (← get).separators
  let trimmed := glyphs.dropWhile (isBlankSeparator separators)
  match value 'a' with
  | some name =>
    if !Name.isValid name.toList then return ← refuseName name
    let fields := allFields separators (trimmed.length + 1) trimmed
    setElements name (fields.map fun field => { text := Glyph.text field }) false
    return status
  | none =>
    let values : List (String × String) :=
      if names.isEmpty then [("REPLY", Glyph.text glyphs)]
      else if exact.isSome then names.zip (Glyph.text glyphs :: (names.drop 1).map fun _ => "")
      else names.zip ((divideLine separators names.length trimmed).map Glyph.text)
    if ← assignAllRead values then return status else return 1

/-! ## Many lines -/

/-- Reads so many lines. Each keeps the byte that ends it. -/
def readLines (descriptor : Nat) (delimiter : UInt8) : Nat → Option Nat → List String → ScriptM (List String)
  | 0, _, sofar => return sofar.reverse
  | fuel + 1, left, sofar => do
    if left = some 0 then return sofar.reverse
    match ← readLine fuel .empty with
    | none => return sofar.reverse
    | some line => readLines descriptor delimiter fuel (left.map (· - 1)) (line :: sofar)
where
  /-- Reads a line, if there is one. -/
  readLine : Nat → ByteArray → ScriptM (Option String)
    | 0, _ => return none
    | fuel + 1, sofar => do
      match ← ask (.readUpTo descriptor delimiter) with
      | .error .interrupted => readLine fuel sofar
      | .error _ => return if sofar.isEmpty then none else some (Octets.ofBytes sofar)
      | .ok bytes =>
        let all := sofar ++ bytes
        if bytes.isEmpty then return if all.isEmpty then none else some (Octets.ofBytes all)
        else if bytes.data.back? = some delimiter then return some (Octets.ofBytes all)
        else readLine fuel all

/-- Reads lines into an array. -/
def mapLines (arguments : List String) : ScriptM Nat := do
  let (options, names) ← readOptions "d:n:O:s:tu:C:c:" arguments
  let value (letter : Char) : Option String := (options.reverse.find? fun option => option.1 = letter).map (·.2)
  let has (letter : Char) : Bool := options.any fun option => option.1 = letter
  let number (letter : Char) (report : String) : ScriptM Nat := do
    match value letter with
    | none => return 0
    | some text =>
      match text.toNat? with
      | some number => return number
      | none => failWith 1 (text ++ ": " ++ report)
  let descriptor ← readDescriptor (value 'u')
  let count ← number 'n' "invalid line count"
  let origin ← number 'O' "invalid array origin"
  let skipped ← number 's' "invalid line count"
  let name := names.headD "MAPFILE"
  if !Name.isValid name.toList then return ← refuseName name
  let entry ← seen name
  if entry.entries.isSome then
    warn (name ++ ": not an indexed array")
    return 1
  let delimiter := UInt8.ofNat (((value 'd').bind fun text => text.toList.head?.map Char.toNat).getD
    (if (value 'd').isSome then 0 else 10))
  let lines ← readLines descriptor delimiter patience (if count = 0 then none else some (skipped + count)) []
  let mark := Char.ofNat delimiter.toNat
  let texts := (lines.drop skipped).map fun line =>
    if (has 't' || delimiter = 0) && line.toList.getLast? = some mark then (line.dropEnd 1).toString else line
  requireWritable name
  let start := if has 'O' then (entry.asElements.elements.getD []) else []
  let elements := (numberedFrom origin texts).foldl
    (fun elements (index, text) => State.setElement index text elements) start
  let entry := (← get).entryToChange name
  modify fun state => state.putVariable (entry.withElements elements)
  return 0

end Shell.Machine.Script.ScriptM
