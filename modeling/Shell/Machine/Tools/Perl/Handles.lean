import Shell.Machine.Tools.Perl.World

/-! # Handles of general programs

What programs read from and write to: files, commands, and texts in variables. What is written is collected until
there is enough of it; lines are read as a variable says that they end.
-/

namespace Shell.Machine.Perl.PerlM

def handleAt (id : Nat) : PerlM Handle := do
  return (← look fun world => world.handles[id]?).getD default

def changeHandle (id : Nat) (change : Handle → Handle) : PerlM Unit :=
  modify fun world => { world with handles := world.handles.modify id change }

/-- The handles that are there from the beginning. -/
def standardNames : List String := ["STDIN", "STDOUT", "STDERR"]

def handleOf (value : Value) : PerlM (Option Nat) := do
  match value with
  | .reference (.handle id) => return some id
  | .reference (.cell id) =>
    match ← load id with
    | .reference (.handle id) => return some id
    | _ => return none
  | .reference (.hash _) => return none
  | .string name =>
    let name := if name.startsWith "*main::" then (name.drop 7).toString else name
    match standardNames.findIdx? (· = name) with
    | some id => return some id
    | none => return some (← mainVariable .handle (Reader.plainName name))
  | _ => return none

/-- So much is collected before it is written. -/
def maxPending : Nat := 8192

/-- Writes what is pending for a handle. -/
def drain (id : Nat) : PerlM Bool := do
  let handle ← handleAt id
  if handle.pending.isEmpty then return true
  changeHandle id fun handle => { handle with pending := "" }
  match handle.descriptor with
  | some descriptor =>
    match ← ask (.write descriptor (Octets.toBytes handle.pending)) with
    | .ok _ => return true
    | .error error =>
      noteError error
      return false
  | none => return true

/-- Writes all that is pending. -/
def flushAll : PerlM Unit := do
  tool ToolM.flush
  for id in List.range (← look (·.handles)).size do
    discard (drain id)

def writeTo (id : Nat) (text : String) : PerlM Bool := do
  if id = 1 then
    let handle ← handleAt 1
    if handle.isOpen && handle.descriptor = some 1 then
      tool (ToolM.print text)
      return true
  let handle ← handleAt id
  if !handle.isOpen || !handle.writes then
    noteError .badDescriptor
    return false
  match handle.cell with
  | some cell =>
    let before ← textOf (← load cell)
    store cell (.string (before ++ text))
    return true
  | none =>
    if id = 2 then
      discard (ask (.write (handle.descriptor.getD 2) (Octets.toBytes text)))
      return true
    changeHandle id fun handle => { handle with pending := handle.pending ++ text }
    if maxPending ≤ handle.pending.utf8ByteSize + text.utf8ByteSize then drain id else return true

/-- Writes to the standard error. -/
def complain (text : String) : PerlM Unit := do
  discard (writeTo 2 text)

/-- Reports something about this place. -/
def warn (report : String) : PerlM Unit := do
  complain (report ++ (← whereabouts))

def readSize : Nat := 8192

/-- Reads more for a handle. -/
def fill (id : Nat) : PerlM Unit := do
  let handle ← handleAt id
  match handle.descriptor with
  | none => changeHandle id fun handle => { handle with ended := true }
  | some descriptor =>
    match ← ask (.read descriptor readSize) with
    | .error error =>
      noteError error
      changeHandle id fun handle => { handle with ended := true }
    | .ok bytes =>
      changeHandle id fun handle =>
        { handle with
          bytes := handle.bytes.extract handle.start handle.bytes.size ++ bytes, start := 0, ended := bytes.isEmpty }

/-- Reads all there is for a handle. -/
def fillAll (id : Nat) : Nat → PerlM Unit
  | 0 => return
  | fuel + 1 => do
    if !(← handleAt id).ended then
      fill id
      fillAll id fuel

/-- The place after the first of some bytes from a place on. -/
def placeAfter (ending bytes : ByteArray) : Nat → Nat → Option Nat
  | 0, _ => none
  | fuel + 1, place =>
    if bytes.size < place + ending.size then none
    else if bytes[place]? = ending[0]? && (bytes.extract place (place + ending.size)).toList = ending.toList then
      some (place + ending.size)
    else placeAfter ending bytes fuel (place + 1)

/-- Takes bytes up to an ending, given how many have been searched. -/
def takeUpTo (id : Nat) (ending : ByteArray) : Nat → Nat → PerlM (Option String)
  | 0, _ => return none
  | fuel + 1, searched => do
    let handle ← handleAt id
    let size := handle.bytes.size
    let take (stop : Nat) : PerlM (Option String) := do
      changeHandle id fun handle => { handle with start := stop }
      return some (Octets.ofBytes (handle.bytes.extract handle.start stop))
    match placeAfter ending handle.bytes (size + 1) (handle.start + searched) with
    | some stop => take stop
    | none =>
      if handle.ended then
        if handle.start < size then take size else return none
      else
        let searched := size - handle.start + 1 - ending.size
        fill id
        takeUpTo id ending fuel searched

def takeAll (id : Nat) : PerlM (Option String) := do
  fillAll id patience
  let handle ← handleAt id
  if handle.bytes.size ≤ handle.start then return none
  changeHandle id fun handle => { handle with start := handle.bytes.size }
  return some (Octets.ofBytes (handle.bytes.extract handle.start handle.bytes.size))

/-- Takes a paragraph: up to an empty line. -/
def takeParagraph (id : Nat) : PerlM (Option String) := do
  fillAll id patience
  let handle ← handleAt id
  let rest := (Octets.ofBytes (handle.bytes.extract handle.start handle.bytes.size)).toList
  let text := rest.dropWhile (· = '\n')
  if text.isEmpty then return none
  let rec divide : Nat → List Char → List Char → List Char × List Char
    | 0, sofar, rest => (sofar.reverse, rest)
    | _, sofar, [] => (sofar.reverse, [])
    | _, sofar, '\n' :: '\n' :: rest => (('\n' :: '\n' :: sofar).reverse, rest.dropWhile (· = '\n'))
    | fuel + 1, sofar, c :: rest => divide fuel (c :: sofar) rest
  let (taken, after) := divide (text.length + 1) [] text
  changeHandle id fun handle => { handle with start := handle.bytes.size - after.length }
  return some (String.ofList taken)

/-- Takes so many bytes at most. -/
def takeCount (id count : Nat) : Nat → PerlM (Option String)
  | 0 => return none
  | fuel + 1 => do
    let handle ← handleAt id
    let left := handle.bytes.size - handle.start
    if left < count && !handle.ended then
      fill id
      takeCount id count fuel
    else if left = 0 then return none
    else
      let stop := handle.start + min left count
      changeHandle id fun handle => { handle with start := stop }
      return some (Octets.ofBytes (handle.bytes.extract handle.start stop))

def takeLine (id : Nat) : PerlM (Option String) := do
  let separator ← special "/"
  let line ← match separator with
    | .undefined => takeAll id
    | .reference (.cell cell) => takeCount id (← load cell).nat patience
    | value =>
      let text ← textOf value
      if text.isEmpty then takeParagraph id else takeUpTo id (Octets.toBytes text) patience 0
  if line.isSome then changeHandle id fun handle => { handle with lines := handle.lines + 1 }
  return line

/-- What the ending of a process counts as. -/
def statusOf : Option Ending → Int
  | some (.exited code) => code * 256
  | some (.signaled signal) => signal
  | none => -1

/-- Waits for a child, and notes how it has ended. -/
def wait (child : Nat) : PerlM Int := do
  let status := statusOf (← tool (ToolM.awaitChild child ToolM.patience))
  setSpecial "?" (.whole status)
  return status

/-- Closes a handle. True if that went well. -/
def closeHandle (id : Nat) : PerlM Bool := do
  let handle ← handleAt id
  if !handle.isOpen then
    noteError .badDescriptor
    return false
  if id = 1 then tool ToolM.flush
  let drained ← drain id
  if let some descriptor := handle.descriptor then discard (ask (.close descriptor))
  let name := handle.name
  changeHandle id fun _ => { name }
  match handle.child with
  | some child => return (← wait child) = 0 && drained
  | none => return drained

/-- Opens a handle for what a descriptor stands for. -/
def attach (id descriptor : Nat) (writes : Bool) (child : Option Nat) : PerlM Unit :=
  changeHandle id fun handle =>
    { name := handle.name, descriptor := some descriptor, writes, child, isOpen := true }

/-- True for commands that a script has to be asked about. -/
def needsScript (command : String) : Bool :=
  command.toList.any fun c => "$&*(){}[]'\";\\|?<>~\x60\n".contains c

/-- The environment that programs are started with. -/
def environment : PerlM (List String) := do
  let table ← hashAt (← mainVariable .hash "ENV")
  table.keys.mapM fun key => do
    let cell := ((table.cells[key]?).map (·.1)).getD 0
    return key ++ "=" ++ (← textOf (← load cell))

def argumentsOf (command : List String) : List String :=
  match command with
  | [text] =>
    if needsScript text then ["/bin/sh", "-c", text]
    else (text.map fun c => if c.isWhitespace then ' ' else c).splitOn " " |>.filter (· ≠ "")
  | words => words

/-- True when the program is there that a command starts. -/
def isKnownCommand (command : List String) : PerlM Bool := do
  let name := (argumentsOf command).headD ""
  let isThere (path : String) : PerlM Bool := do
    match ← ask (.inspect path true) with
    | .ok info => return info.sort ≠ .directory
    | .error _ => return false
  if name.contains '/' then isThere name
  else
    let path := ((← environment).find? fun entry => entry.startsWith "PATH=").map fun entry => (entry.drop 5).toString
    ((path.getD "/bin:/usr/bin").splitOn ":").anyM fun place => isThere (place ++ "/" ++ name)

/-- Starts a command, given what is done before it. The result is its number. -/
def start (command : List String) (prepare : ToolM Unit) : PerlM Nat := do
  flushAll
  let settings ← environment
  tool <| ToolM.fork do
    prepare
    let error ← ToolM.become (argumentsOf command) settings
    return ToolM.becomeStatus error

/-- Makes a descriptor stand for another one, which is closed. -/
def moveTo (source target unused : Nat) : ToolM Unit := do
  discard (ToolM.ask (.close unused))
  discard (ToolM.ask (.redirect source target))
  discard (ToolM.ask (.close source))

/-- Opens a handle to a command that writes, or that reads. -/
def openCommand (id : Nat) (command : List String) (writes : Bool) : PerlM Bool := do
  if !(← isKnownCommand command) then
    noteError .missing
    setSpecial "?" (.whole (-1))
    return false
  let ends : Nat × Nat ← ask .makePipe
  if writes then
    let child ← start command (moveTo ends.1 0 ends.2)
    discard (ask (.close ends.1))
    attach id ends.2 true (some child)
  else
    let child ← start command (moveTo ends.2 1 ends.1)
    discard (ask (.close ends.2))
    attach id ends.1 false (some child)
  return true

def openFile (id : Nat) (mode path : String) : PerlM Bool := do
  let opened : OpenMode := match mode with
    | "<" => { read := true }
    | ">" => { write := true, create := true, truncate := true }
    | ">>" => { write := true, create := true, append := true }
    | "+<" => { read := true, write := true }
    | _ => { read := true, write := true, create := true, truncate := true }
  match ← ask (.openFile path opened 0o666) with
  | .ok descriptor =>
    attach id descriptor (mode ≠ "<") none
    return true
  | .error error =>
    noteError error
    return false

/-- A mode and a path that a text consists of. -/
def modeIn (text : String) : String × String :=
  let text := text.trimAscii.toString
  let rest (mode : String) : String × String := (mode, ((text.drop mode.length).trimAscii).toString)
  match ["+<", "+>", ">>&", ">>", ">&", "<&", ">", "<", "|"].find? fun mode => text.startsWith mode with
  | some "|" => ("|-", ((text.drop 1).trimAscii).toString)
  | some mode => rest mode
  | none => if text.endsWith "|" then ("-|", ((text.dropEnd 1).trimAscii).toString) else ("<", text)

/-- Opens a handle as a mode and what comes after it say. -/
def openAs (id : Nat) (mode : String) (operands : List Value) : PerlM Bool := do
  if (← handleAt id).isOpen then
    if id = 1 then tool ToolM.flush
    discard (drain id)
    if 2 < id then
      if let some descriptor := (← handleAt id).descriptor then discard (ask (.close descriptor))
  let mode := (mode.splitOn ":").headD ""
  let mode := mode.trimAscii.toString
  match mode, operands with
  | "-|", command => openCommand id (← command.mapM textOf) false
  | "|-", command => openCommand id (← command.mapM textOf) true
  | mode, .reference (.cell cell) :: _ =>
    if mode = "<" then
      let text ← textOf (← load cell)
      changeHandle id fun handle => { name := handle.name, bytes := Octets.toBytes text, ended := true, isOpen := true }
    else
      if mode = ">" then store cell (.string "")
      changeHandle id fun handle => { name := handle.name, cell := some cell, writes := true, isOpen := true }
    return true
  | mode, operand :: _ =>
    if mode.endsWith "&" || mode.endsWith "&=" then
      let other : Option Nat ← handleOf operand
      let source ← match other with
        | some other => do
          if other = 1 then tool ToolM.flush
          discard (drain other)
          pure ((← handleAt other).descriptor)
        | none => pure none
      let source := match operand with
        | .whole number => some number.toNat
        | .string text => if text.toList.all Char.isDigit && text ≠ "" then text.toNat? else source
        | _ => source
      match source with
      | none =>
        noteError .badDescriptor
        return false
      | some source =>
        if id ≤ 2 then
          match ← ask (.redirect source id) with
          | .ok _ =>
            attach id id (0 < id) none
            return true
          | .error error =>
            noteError error
            return false
        else
          match ← ask (.duplicate source 3) with
          | .ok descriptor =>
            attach id descriptor (mode.startsWith ">") none
            return true
          | .error error =>
            noteError error
            return false
    else
      let path ← textOf operand
      if path = "-" && id > 2 && (mode = "<" || mode = ">") then
        attach id (if mode = "<" then 0 else 1) (mode = ">") none
        return true
      if !(← openFile id mode path) then return false
      if id ≤ 2 then
        match (← handleAt id).descriptor with
        | some descriptor =>
          if descriptor ≠ id then
            discard (ask (.redirect descriptor id))
            discard (ask (.close descriptor))
            attach id id (0 < id) none
        | none => pure ()
      return true
  | _, [] => return false

/-! ## The files that are arguments -/

/-- The handle that files are read by which are arguments. -/
def argumentHandle : PerlM Nat := mainVariable .handle "ARGV"

def endChange : PerlM Unit := do
  if (← look (·.inPlace)).isSome then
    let out ← mainVariable .handle "ARGVOUT"
    if (← handleAt out).isOpen then discard (closeHandle out)
    modify fun world => { world with selected := 1 }

/-- Begins to change a file in place. What it holds is read at once. -/
def beginChange (id : Nat) (path suffix : String) : PerlM Unit := do
  fillAll id patience
  if let some descriptor := (← handleAt id).descriptor then discard (ask (.close descriptor))
  changeHandle id fun handle => { handle with descriptor := none }
  if suffix ≠ "" then
    let backup := if suffix.contains '*' then suffix.replace "*" path else path ++ suffix
    discard (ask (.rename path backup))
  let out ← mainVariable .handle "ARGVOUT"
  discard (openFile out ">" path)
  modify fun world => { world with selected := out }

def openNext : Nat → PerlM Bool
  | 0 => return false
  | fuel + 1 => do
    let id ← argumentHandle
    let lines := (← handleAt id).lines
    let arguments ← mainVariable .array "ARGV"
    let cells ← arrayAt arguments
    match cells.toList with
    | [] =>
      if (← look (·.started)) then return false
      modify fun world => { world with started := true }
      attach id 0 false none
      setSpecial "ARGV" (.string "-")
      return true
    | first :: rest =>
      modify fun world => { world with started := true }
      setArray arguments rest.toArray
      let path ← textOf (← load first)
      setSpecial "ARGV" (.string path)
      if path = "-" then
        attach id 0 false none
        changeHandle id fun handle => { handle with lines }
        return true
      if ← openFile id "<" path then
        changeHandle id fun handle => { handle with lines }
        let isPlain : Bool ← match ← ask (.inspect path true) with
          | .ok info => pure (info.sort = .plain)
          | .error _ => pure false
        match ← look (·.inPlace) with
        | none => return true
        | some suffix =>
          if isPlain then
            beginChange id path suffix
            return true
          else
            complain ("Can't do inplace edit: " ++ path ++ " is not a regular file.\n")
            discard (closeHandle id)
            openNext fuel
      else
        warn ("Can't open " ++ path ++ ": " ++ (← specialText "!"))
        openNext fuel

def argumentLine : Nat → PerlM (Option String)
  | 0 => return none
  | fuel + 1 => do
    let id ← argumentHandle
    modify fun world => { world with lastRead := some id }
    if !(← handleAt id).isOpen then
      if !(← openNext patience) then
        modify fun world => { world with started := false }
        return none
    match ← takeLine id with
    | some line => return some line
    | none =>
      let handle ← handleAt id
      if let some descriptor := handle.descriptor then
        if descriptor ≠ 0 then discard (ask (.close descriptor))
      changeHandle id fun handle => { name := handle.name, lines := handle.lines }
      endChange
      argumentLine fuel

def lineOf (id : Nat) : PerlM (Option String) := do
  if id = (← argumentHandle) then argumentLine patience
  else
    modify fun world => { world with lastRead := some id }
    if !(← handleAt id).isOpen then
      noteError .badDescriptor
      return none
    takeLine id

/-- True when there is nothing more to read from a handle. -/
def atEnd (id : Nat) : PerlM Bool := do
  let handle ← handleAt id
  if !handle.isOpen then return true
  if handle.start < handle.bytes.size then return false
  if handle.ended then return true
  fill id
  let handle ← handleAt id
  return handle.bytes.size ≤ handle.start

/-- True when there is nothing more to read from all files that are arguments. -/
def atLastEnd : Nat → PerlM Bool
  | 0 => return true
  | fuel + 1 => do
    let id ← argumentHandle
    if !(← atEnd id) then return false
    if (← arrayAt (← mainVariable .array "ARGV")).isEmpty && (← look (·.started)) then return true
    if !(← openNext patience) then return true
    atLastEnd fuel

end Shell.Machine.Perl.PerlM
