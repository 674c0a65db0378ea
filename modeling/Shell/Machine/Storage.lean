import Shell.Machine.Process

/-! # Files and directories

What happens to the files of a machine when a process opens, makes, moves or removes them, reads or writes.
-/

/-! ## Reading and writing

What happens to open files and pipes when a process reads or writes. A process may have to wait until
somebody else has written or read.
-/

namespace Shell.Machine

/-- What comes of a call. -/
inductive Attempt (α : Type) where
  | reply (value : α)
  /-- The process has to wait and to try again. -/
  | wait
  /-- The process does something else now, or nothing at all. -/
  | gone

/-- The result of a call that the machine may refuse. -/
abbrev Answer (α : Type) := Attempt (Except SystemError α)

/-- The call has done what it should. -/
def Attempt.ok {α : Type} (value : α) : Answer α := .reply (.ok value)

def Attempt.refuse {α : Type} (error : SystemError) : Answer α := .reply (.error error)

/-- The open file that a descriptor of a process stands for. -/
def opened? (number descriptor : Nat) : Action (Option (Nat × OpenFile)) := do
  match (← process? number).bind fun process => process.descriptors.lookup descriptor with
  | none => return none
  | some entry => return (← get).opened[entry.opened]?.map (entry.opened, ·)

/-- The place of a byte in bytes, from some place on, within so many. -/
def indexOf? (byte : UInt8) (bytes : ByteArray) : Nat → Nat → Option Nat
  | 0, _ => none
  | count + 1, start =>
    match bytes[start]? with
    | none => none
    | some other => if other = byte then some start else indexOf? byte bytes count (start + 1)

/-- Takes bytes that have been read out of a pipe. -/
def Pipe.take (count : Nat) (pipe : Pipe) : ByteArray × Pipe :=
  let bytes := pipe.content.extract pipe.taken (pipe.taken + count)
  let taken := pipe.taken + count
  if pipe.content.size ≤ taken then (bytes, { pipe with content := .empty, taken := 0 })
  else if Pipe.capacity < taken then
    (bytes, { pipe with content := pipe.content.extract taken pipe.content.size, taken := 0 })
  else (bytes, { pipe with taken })

def Pipe.add (bytes : ByteArray) (pipe : Pipe) : Pipe :=
  { pipe with content := pipe.content ++ bytes }

/-- How much of what there is shall be read: at most so many bytes, and none after a given one. -/
structure Portion where
  most : Nat
  last : Option UInt8 := none

/-- How many bytes of a text to read from some place on. -/
def Portion.count (portion : Portion) (bytes : ByteArray) (start : Nat) : Nat :=
  let most := min portion.most (bytes.size - start)
  match portion.last with
  | none => most
  | some last =>
    match indexOf? last bytes most start with
    | some place => place + 1 - start
    | none => most

def readPipe (id : Nat) (portion : Portion) : Action (Answer ByteArray) := do
  let some (count, writers) := (← get).pipes[id]?.map fun pipe =>
      (portion.count pipe.content pipe.taken, pipe.writers)
    | return .refuse .badDescriptor
  if count = 0 then
    return if writers = 0 || portion.most = 0 then .ok .empty else .wait
  modifyGet fun machine =>
    let bytes := (machine.pipes[id]?.map fun pipe => (pipe.take count).1).getD .empty
    let pipes := machine.pipes.modify id fun pipe => (pipe.take count).2
    (.ok bytes, { machine with pipes })

/-- The most bytes that one call reads from a device without end. -/
def maxDeviceRead : Nat := 65536

def readOpened (id : Nat) (file : OpenFile) (portion : Portion) : Action (Answer ByteArray) := do
  if !file.read then return .refuse .badDescriptor
  match file.channel with
  | .directory _ => return .refuse .isDirectory
  | .pipe pipe => readPipe pipe portion
  | .device .zero | .device .full =>
    return .ok ⟨Array.replicate (min portion.most maxDeviceRead) 0⟩
  | .device _ => return .ok .empty
  | .file node =>
    let content := (← get).files.bytes node
    let count := portion.count content file.offset
    modifyOpened id fun file => { file with offset := file.offset + count }
    return .ok (content.extract file.offset (file.offset + count))

/-- Reads from a descriptor of a process. A signal that was kept ends the wait for others. -/
def read (number descriptor : Nat) (portion : Portion) : Action (Answer ByteArray) := do
  match ← opened? number descriptor with
  | none => return .refuse .badDescriptor
  | some (id, file) =>
    match ← readOpened id file portion with
    | .wait =>
      let kept := ((← process? number).map Process.kept).getD []
      return if kept.isEmpty then .wait else .refuse .interrupted
    | answer => return answer

/-- Bytes with others written over them from some place on. -/
def overwrite (content : ByteArray) (start : Nat) (bytes : ByteArray) : ByteArray :=
  if start = content.size then content ++ bytes
  else
    let gap : ByteArray := ⟨Array.replicate (start - content.size) 0⟩
    content.extract 0 start ++ gap ++ bytes ++ content.extract (start + bytes.size) content.size

def writeFile (id : Nat) (file : OpenFile) (node : FileId) (bytes : ByteArray) : Action Unit := do
  let size := ((← get).files.bytes node).size
  let start := if file.append then size else file.offset
  modifyOpened id fun file => { file with offset := start + bytes.size }
  modify fun machine =>
    let files := machine.files.modifyBytes node machine.clock fun content =>
      overwrite content start bytes
    { machine with files }

/-- Tells a process that nobody reads what it writes. -/
def breakPipe (number : Nat) : Action (Answer Unit) := do
  deliver number Signal.pipe
  return if (← ending? number).isSome then .gone else .refuse .brokenPipe

def write (number descriptor : Nat) (bytes : ByteArray) : Action (Answer Unit) := do
  match ← opened? number descriptor with
  | none => return .refuse .badDescriptor
  | some (id, file) =>
    if !file.write then return .refuse .badDescriptor
    match file.channel with
    | .directory _ => return .refuse .badDescriptor
    | .device .full => return .refuse .noSpace
    | .device _ => return .ok ()
    | .file node =>
      writeFile id file node bytes
      return .ok ()
    | .pipe pipe =>
      let some (readers, full) := (← get).pipes[pipe]?.map fun pipe =>
          (pipe.readers, pipe.bounded && Pipe.capacity ≤ pipe.size)
        | return .refuse .badDescriptor
      if readers = 0 then breakPipe number
      else if full then return .wait
      else
        modifyPipe pipe (Pipe.add bytes)
        return .ok ()

end Shell.Machine

/-! ## Files -/

namespace Shell.Machine

def directoryOf (number : Nat) : Action FileId := do
  return ((← process? number).map Process.directory).getD FileTree.root

/-- Where a path leads for a process. -/
def locate (number : Nat) (path : String) (follow : Bool) :
    Action (Except SystemError FileTree.Place) := do
  let directory ← directoryOf number
  return (← get).files.locate directory path follow

/-- The file that a path leads to for a process. -/
def find (number : Nat) (path : String) (follow : Bool) : Action (Except SystemError FileId) := do
  let directory ← directoryOf number
  return (← get).files.find directory path follow

def modifyFiles (change : FileTree → FileTree) : Action Unit :=
  modify fun machine => { machine with files := change machine.files }

def changeFiles (change : FileTree → FileTree) : Action (Answer Unit) := do
  modifyFiles change
  return .ok ()

/-- Tries something and, if that goes well, goes on with its result. -/
def andThen {α β : Type} (attempt : Action (Except SystemError α)) (next : α → Action (Answer β)) :
    Action (Answer β) := do
  match ← attempt with
  | .error error => return .refuse error
  | .ok value => next value

/-! ## Descriptors -/

/-- The first number, not below another, that no descriptor has; `count` are tried. -/
def freeNumber (descriptors : List (Nat × Descriptor)) (least : Nat) : Nat → Nat
  | 0 => least
  | count + 1 =>
    if (descriptors.lookup least).isSome then freeNumber descriptors (least + 1) count else least

/-- Gives a process a descriptor, not below `least`, for an open file. -/
def addDescriptor (number least : Nat) (descriptor : Descriptor) : Action Nat := do
  let descriptors := ((← process? number).map Process.descriptors).getD []
  let free := freeNumber descriptors least (descriptors.length + 1)
  modifyProcess number fun process =>
    { process with descriptors := process.descriptors ++ [(free, descriptor)] }
  return free

def close (number descriptor : Nat) : Action (Answer Unit) := do
  match (← process? number).bind fun process => process.descriptors.lookup descriptor with
  | none => return .refuse .badDescriptor
  | some entry =>
    modifyProcess number fun process =>
      { process with descriptors := process.descriptors.filter fun (other, _) => other ≠ descriptor }
    release entry.opened
    return .ok ()

def duplicate (number descriptor least : Nat) : Action (Answer Nat) := do
  match (← process? number).bind fun process => process.descriptors.lookup descriptor with
  | none => return .refuse .badDescriptor
  | some entry =>
    retain entry.opened
    return .ok (← addDescriptor number least { opened := entry.opened, closes := true })

/-- Makes a descriptor stand for what another one stands for. -/
def redirect (number descriptor target : Nat) : Action (Answer Unit) := do
  match (← process? number).bind fun process => process.descriptors.lookup descriptor with
  | none => return .refuse .badDescriptor
  | some entry =>
    if descriptor ≠ target then
      retain entry.opened
      discard (close number target)
      modifyProcess number fun process =>
        { process with
          descriptors := process.descriptors ++ [(target, { opened := entry.opened })] }
    return .ok ()

/-! ## Looking at files -/

def infoOf (files : FileTree) (id : FileId) : FileInfo :=
  let named := files.nodes.foldl
    (fun count node =>
      match node.kind with
      | .directory _ entries => count + (entries.filter fun entry => entry.2 = id).length
      | _ => count)
    0
  match files.node? id with
  | none => { id, sort := .plain, mode := 0, size := 0, modified := 0 }
  | some node =>
    let info : FileInfo :=
      { id, sort := .plain, mode := node.mode, size := 0, modified := node.modified, names := named }
    match node.kind with
    | .plain bytes => { info with size := bytes.size }
    | .directory _ entries =>
      let inner := (entries.filter fun entry => files.isDirectory entry.2).length
      { info with sort := .directory, size := 4096, names := inner + 2 }
    | .link target => { info with sort := .link, size := target.length }
    | .device _ => { info with sort := .device }

/-- What is told of the file that a descriptor stands for. -/
def inspectOpen (number descriptor : Nat) : Action (Answer FileInfo) := do
  match ← opened? number descriptor with
  | none => return .refuse .badDescriptor
  | some (_, file) =>
    let files := (← get).files
    match file.channel with
    | .file id | .directory id => return .ok (infoOf files id)
    | .pipe id => return .ok { id, sort := .pipe, mode := 0o600, size := 0, modified := 0 }
    | .device _ => return .ok { id := 0, sort := .device, mode := 0o666, size := 0, modified := 0 }

/-- What is told of the file that a path leads to. -/
def inspect (number : Nat) (path : String) (follow : Bool) : Action (Answer FileInfo) :=
  andThen (find number path follow) fun id => do
    let files := (← get).files
    match (files.node? id).map FileNode.kind with
    | some (.device (.descriptor descriptor)) =>
      match ← inspectOpen number descriptor with
      | .reply (.ok info) => return .ok info
      | _ => return .refuse .missing
    | _ => return .ok (infoOf files id)

/-- The names in the directory that a path leads to. -/
def list (number : Nat) (path : String) : Action (Answer (List String)) :=
  andThen (find number path true) fun id => do
    let files := (← get).files
    if files.isDirectory id then return .ok ((files.entries id).map (·.1))
    else return .refuse .notADirectory

/-- Makes the directory that a path leads to the one a process stands in. -/
def changeDirectory (number : Nat) (path : String) : Action (Answer Unit) :=
  andThen (find number path true) fun id => do
    if (← get).files.isDirectory id then
      modifyProcess number fun process => { process with directory := id }
      return .ok ()
    else return .refuse .notADirectory

/-! ## Opening -/

/-- Opens what a descriptor of a process stands for once more. -/
def reopen (number descriptor : Nat) (mode : OpenMode) : Action (Answer Nat) := do
  match ← opened? number descriptor with
  | none => return .refuse .missing
  | some (_, file) =>
    match file.channel with
    | .pipe id =>
      modifyPipe id fun pipe =>
        { pipe with
          readers := pipe.readers + mode.read.toNat
          writers := pipe.writers + mode.write.toNat }
    | _ => pure ()
    let opened ← addOpened {
      channel := file.channel, read := mode.read, write := mode.write, append := mode.append }
    return .ok (← addDescriptor number 0 { opened })

def openExisting (number : Nat) (id : FileId) (mode : OpenMode) : Action (Answer Nat) := do
  let add (channel : Channel) : Action (Answer Nat) := do
    let opened ← addOpened {
      channel, read := mode.read, write := mode.write, append := mode.append }
    return .ok (← addDescriptor number 0 { opened })
  match ((← get).files.node? id).map FileNode.kind with
  | none => return .refuse .missing
  | some (.directory _ _) =>
    if mode.write then return .refuse .isDirectory else add (.directory id)
  | some (.link _) => return .refuse .tooManyLinks
  | some (.device .terminal) => return .refuse .noDevice
  | some (.device (.descriptor descriptor)) => reopen number descriptor mode
  | some (.device device) => add (.device device)
  | some (.plain _) =>
    if mode.truncate then
      let now := (← get).clock
      modifyFiles fun files => files.modifyBytes id now fun _ => .empty
    add (.file id)

/-- The permissions of a new file. -/
def permissionsFor (number permissions : Nat) : Action Nat := do
  let mask := ((← process? number).map Process.mask).getD 0
  return permissions &&& (0o7777 - mask)

def openFile (number : Nat) (path : String) (mode : OpenMode) (permissions : Nat) :
    Action (Answer Nat) :=
  andThen (locate number path true) fun place => do
    match place.file with
    | some id =>
      if mode.create && mode.fresh then return .refuse .alreadyExists
      else if place.closed && !(← get).files.isDirectory id then return .refuse .notADirectory
      else openExisting number id mode
    | none =>
      if !mode.create then return .refuse .missing
      else if place.closed then return .refuse .isDirectory
      else
        let permissions ← permissionsFor number permissions
        let machine ← get
        let (id, files) := machine.files.add place
          { kind := .plain .empty, mode := permissions, modified := machine.clock }
        set { machine with files }
        openExisting number id mode

/-! ## Making and removing -/

/-- Makes something where a path leads, if there is nothing. -/
def makeAt (number : Nat) (path : String)
    (make : FileTree.Place → FileTree → FileTree) : Action (Answer Unit) :=
  andThen (locate number path false) fun place => do
    if place.file.isSome then return .refuse .alreadyExists
    changeFiles (make place)

def makeDirectory (number : Nat) (path : String) (mode : Nat) : Action (Answer Unit) := do
  let mode ← permissionsFor number mode
  let now := (← get).clock
  makeAt number path fun place files => (files.addDirectory place mode now).2

def makeLink (number : Nat) (target path : String) : Action (Answer Unit) := do
  if target.isEmpty then return .refuse .missing
  let now := (← get).clock
  makeAt number path fun place files =>
    (files.add place { kind := .link target, mode := 0o777, modified := now }).2

/-- Gives a file another name. -/
def linkFile (number : Nat) (path target : String) : Action (Answer Unit) :=
  andThen (find number path false) fun id => do
    if (← get).files.isDirectory id then return .refuse .notPermitted
    makeAt number target fun place files => files.bind place.directory place.name id

/-- Removes an empty directory. -/
def removeDirectory (number : Nat) (path : String) : Action (Answer Unit) :=
  andThen (locate number path false) fun place => do
    let files := (← get).files
    match place.file with
    | none => return .refuse .missing
    | some id =>
      if !files.isDirectory id then return .refuse .notADirectory
      else if place.name = "." then return .refuse .invalid
      else if !(files.entries id).isEmpty then return .refuse .notEmpty
      else changeFiles fun files => files.unbind place.directory place.name

/-- Takes its name from a file that is not a directory. -/
def remove (number : Nat) (path : String) : Action (Answer Unit) :=
  andThen (locate number path false) fun place => do
    match place.file with
    | none => return .refuse .missing
    | some id =>
      if (← get).files.isDirectory id then return .refuse .isDirectory
      else if place.closed then return .refuse .notADirectory
      else changeFiles fun files => files.unbind place.directory place.name

/-- Gives a file another name instead of its own. -/
def rename (number : Nat) (path target : String) : Action (Answer Unit) :=
  andThen (locate number path false) fun source =>
    andThen (locate number target false) fun place => do
      let files := (← get).files
      match source.file with
      | none => return .refuse .missing
      | some id =>
        let isDirectory := files.isDirectory id
        let move : FileTree → FileTree := fun files =>
          let files := files.unbind source.directory source.name
          let files := files.bind place.directory place.name id
          if isDirectory then files.setParent id place.directory else files
        if isDirectory && files.within id (files.nodes.size + 1) place.directory then
          return .refuse .invalid
        match place.file with
        | none =>
          if place.closed && !isDirectory then return .refuse .notADirectory
          else changeFiles move
        | some other =>
          if other = id then return .ok ()
          else if files.isDirectory other then
            if !isDirectory then return .refuse .isDirectory
            else if !(files.entries other).isEmpty then return .refuse .notEmpty
            else changeFiles move
          else if isDirectory then return .refuse .notADirectory
          else changeFiles move

def readLink (number : Nat) (path : String) : Action (Answer String) :=
  andThen (find number path false) fun id => do
    match ((← get).files.node? id).map FileNode.kind with
    | some (.link target) => return .ok target
    | _ => return .refuse .invalid

/-- Changes the permissions of a file. -/
def changeMode (number : Nat) (path : String) (mode : Nat) : Action (Answer Unit) :=
  andThen (find number path true) fun id =>
    changeFiles fun files => files.modify id fun node => { node with mode }

/-- Sets the time at which a file was changed. -/
def stamp (number : Nat) (path : String) (time : Option Nat) : Action (Answer Unit) := do
  let now := (← get).clock
  andThen (find number path true) fun id =>
    changeFiles fun files => files.modify id fun node => { node with modified := time.getD now }

/-- Makes a file so long, by cutting it off or by adding zero bytes. -/
def truncate (number : Nat) (path : String) (size : Nat) : Action (Answer Unit) := do
  let now := (← get).clock
  andThen (find number path true) fun id => do
    if (← get).files.isDirectory id then return .refuse .isDirectory
    changeFiles fun files => files.modifyBytes id now fun bytes =>
      if size ≤ bytes.size then bytes.extract 0 size
      else bytes ++ ⟨Array.replicate (size - bytes.size) 0⟩

end Shell.Machine
