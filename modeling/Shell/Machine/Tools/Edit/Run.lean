import Shell.Machine.Tools.Edit.Read
import Shell.Machine.Tools.Lines

/-! # Editing lines

How a script is carried out: once for each line of the input, which is kept in the pattern space while commands change
it, and is then written.
-/

namespace Shell.Machine

namespace Edit

/-- A line of the input. -/
structure Line where
  text : String
  /-- Whether the line has an end. -/
  ended : Bool
  /-- The file that the line is in. -/
  path : String
  isFirst : Bool

/-- Where a range of lines stands. -/
inductive RangeState where
  | inactive
  /-- Up to a line with a number, if that is known. -/
  | active (last : Option Nat)
deriving Repr, DecidableEq, Inhabited

/-- Something to be written after a line. -/
inductive Appended where
  | text (text : String)
  | file (path : String)

/-- A file that is written to. -/
structure Output where
  path : String
  descriptor : Nat
  /-- Whether the end of the last line is missing. -/
  unended : Bool := false

/-- An editor at work. -/
structure Editor where
  commands : Array Command
  quiet : Bool
  separate : Bool
  /-- What is added to the names of files that are changed in place, if they are. -/
  backup : Option String
  last : Char
  width : Nat
  paths : List String
  /-- The file that is being read. -/
  reading : Option (String × Nat) := none
  beginsFile : Bool := true
  ahead : Option Line := none
  space : String := ""
  ended : Bool := true
  held : String := ""
  number : Nat := 0
  path : String := "-"
  ranges : List (Nat × RangeState) := []
  appended : List Appended := []
  replaced : Bool := false
  recent : Option Regex := none
  /-- What has been written for a file that is changed in place. -/
  written : String := ""
  unended : Bool := false
  outputs : List Output := []
  /-- Files that are read line by line. -/
  sources : List (String × Nat) := []

/-- What editors do. -/
abbrev EditM := StateT Editor ToolM

/-- How to go on after a command. -/
inductive Flow where
  | next
  | goto (place : Nat)
  /-- To the end of the script. -/
  | finish
  /-- To the next line, without writing this one. -/
  | drop
  /-- To the start of the script, with what is left of the line. -/
  | again
  | quit (code : Nat) (prints : Bool)
deriving Repr, Inhabited

/-! ## Writing -/

/-- Writes a text to where the lines go. -/
def emitRaw (text : String) : EditM Unit := do
  if (← get).backup.isSome then modify fun editor => { editor with written := editor.written ++ text }
  else ToolM.print text

/-- Writes a text after what is there. -/
def emit (text : String) : EditM Unit := do
  if (← get).unended then
    emitRaw (String.singleton (← get).last)
    modify fun editor => { editor with unended := false }
  emitRaw text

/-- Writes a line, which has an end if the line of the input has one. -/
def emitLine (text : String) : EditM Unit := do
  let editor ← get
  if editor.ended then emit (text ++ String.singleton editor.last)
  else
    emit text
    modify fun editor => { editor with unended := true }

/-- Writes a line to a file that was opened for it. -/
def emitTo (path : String) (text : String) : EditM Unit := do
  let editor ← get
  let final := if editor.ended then String.singleton editor.last else ""
  match editor.outputs.find? fun output => output.path = path with
  | none =>
    -- The standard output.
    if editor.backup.isSome then ToolM.print (text ++ final) else emitLine text
  | some output =>
    let start := if output.unended then String.singleton editor.last else ""
    discard (ToolM.ask (.write output.descriptor (Octets.toBytes (start ++ text ++ final))))
    modify fun editor =>
      { editor with
        outputs := editor.outputs.map fun output =>
          if output.path = path then { output with unended := !editor.ended } else output }

/-- Opens the files that a script writes to. -/
def openOutputs : EditM Unit := do
  let paths := (← get).commands.toList.filterMap fun command =>
    match command.verb with
    | .write path | .writeFirst path => some path
    | .substitute { file := some path, .. } => some path
    | _ => none
  for path in paths.eraseDups do
    if path = "/dev/stdout" then continue
    let descriptor ←
      if path = "/dev/stderr" then pure 2
      else
        match ← ToolM.ask (.openFile path { write := true, create := true, truncate := true } 0o666) with
        | .ok descriptor => pure descriptor
        | .error error => ToolM.fail 4 ("couldn't open file " ++ path ++ ": " ++ error.text)
    modify fun editor => { editor with outputs := ⟨path, descriptor, false⟩ :: editor.outputs }

/-- Writes back a file that is changed in place. -/
def writeBack : EditM Unit := do
  let editor ← get
  match editor.backup with
  | none => return
  | some suffix =>
    if editor.number = 0 then return
    if !suffix.isEmpty then
      let target :=
        if suffix.contains '*' then suffix.replace "*" editor.path else editor.path ++ suffix
      match ← ToolM.openInput editor.path with
      | .error _ => pure ()
      | .ok descriptor =>
        let (text, _) ← ToolM.readAll descriptor
        ToolM.closeInput descriptor
        match ← ToolM.ask (.openFile target { write := true, create := true, truncate := true } 0o666) with
        | .error _ => pure ()
        | .ok descriptor =>
          discard (ToolM.ask (.write descriptor (Octets.toBytes text)))
          discard (ToolM.ask (.close descriptor))
    match ← ToolM.ask (.openFile editor.path { write := true, truncate := true } 0) with
    | .error error => ToolM.fail 4 ("couldn't open file " ++ editor.path ++ ": " ++ error.text)
    | .ok descriptor =>
      discard (ToolM.ask (.write descriptor (Octets.toBytes editor.written)))
      discard (ToolM.ask (.close descriptor))
      modify fun editor => { editor with written := "", unended := false }

/-! ## Reading -/

/-- Sees to it that the next line is known, if there is one. -/
def lookAhead : Nat → EditM Unit
  | 0 => return
  | fuel + 1 => do
    let editor ← get
    if editor.ahead.isSome then return
    match editor.reading, editor.paths with
    | some (path, descriptor), _ =>
      match ← ToolM.readLine descriptor (UInt8.ofNat editor.last.toNat) ToolM.patience .empty with
      | .error error =>
        ToolM.fail 4 ("read error on " ++ path ++ ": " ++ error.text)
      | .ok bytes =>
        if bytes.isEmpty then
          ToolM.closeInput descriptor
          modify fun editor => { editor with reading := none }
          lookAhead fuel
        else
          let text := Octets.ofBytes bytes
          let line : Line := {
            text := withoutEnd editor.last text, ended := text.endsWith editor.last
            path, isFirst := editor.beginsFile }
          modify fun editor => { editor with ahead := some line, beginsFile := false }
    | none, [] => return
    | none, path :: rest =>
      modify fun editor => { editor with paths := rest, beginsFile := true }
      match ← ToolM.openInput path with
      | .error error =>
        ToolM.report ("can't read " ++ path ++ ": " ++ error.text)
        modifyThe Tool fun tool => { tool with status := 2 }
        lookAhead fuel
      | .ok descriptor =>
        let isDirectory ← match ← ToolM.ask (.inspectOpen descriptor) with
          | .ok { sort := .directory, .. } => pure true
          | _ => pure false
        if isDirectory && editor.backup.isSome then
          ToolM.closeInput descriptor
          ToolM.report ("couldn't edit " ++ path ++ ": not a regular file")
          modifyThe Tool fun tool => { tool with status := 4 }
          lookAhead fuel
        else
          modify fun editor => { editor with reading := some (path, descriptor) }
          lookAhead fuel

/-- Sees to it that the next line is known. -/
def peekLine : EditM (Option Line) := do
  lookAhead ((← get).paths.length * 2 + 4)
  return (← get).ahead

/-- True when the line is the last one. -/
def isLastLine : EditM Bool := do
  match ← peekLine with
  | none => return true
  | some line => return (← get).separate && line.isFirst

/-- Writes what is to come after the line. -/
def writeAppended : EditM Unit := do
  let appended := (← get).appended
  modify fun editor => { editor with appended := [] }
  for item in appended do
    match item with
    | .text text => emit text
    | .file path =>
      let descriptor ← if path = "/dev/stdin" then pure (.ok 0) else ToolM.ask (.openFile path { read := true } 0)
      match descriptor with
      | .error _ => pure ()
      | .ok descriptor =>
        let (text, _) ← ToolM.readAll descriptor
        ToolM.closeInput descriptor
        if !text.isEmpty then emit text

/-- Reads the next line. False when there is none. -/
def readNext (join : Bool) : EditM Bool := do
  writeAppended
  match ← peekLine with
  | none => return false
  | some line =>
    if line.isFirst && (← get).separate then
      writeBack
      modify fun editor => { editor with number := 0, ranges := [] }
    modify fun editor =>
      { editor with
        space := if join then editor.space ++ String.singleton editor.last ++ line.text else line.text
        ended := line.ended
        number := editor.number + 1
        path := line.path
        ahead := none
        replaced := false }
    return true

/-! ## Addresses -/

/-- The regular expression to look for, which is the last one if none is given. -/
def regexOf (search : Search) : EditM Regex := do
  match search.regex with
  | some regex =>
    modify fun editor => { editor with recent := some regex }
    return regex
  | none =>
    match (← get).recent with
    | some regex => return regex
    | none => ToolM.fail 1 "-e expression #1, char 0: no previous regular expression"

/-- The text to search, with the way to do that. -/
def subjectOf (search : Search) (text : String) : Regex.Subject :=
  { text := text.toList.toArray, foldsCase := search.foldsCase, hasLines := search.hasLines }

/-- True when an address means the line. -/
def isAddressed (address : Address) : EditM Bool := do
  match address with
  | .line number => return (← get).number = number
  | .step first step =>
    let number := (← get).number
    return first ≤ number && (number - first) % step = 0
  | .last => isLastLine
  | .found search =>
    let regex ← regexOf search
    return (Regex.find? (subjectOf search (← get).space) [regex] 0).isSome

def setRange (place : Nat) (state : RangeState) : EditM Unit :=
  modify fun editor =>
    { editor with ranges := (place, state) :: editor.ranges.filter fun entry => entry.1 ≠ place }

def rangeOf (place : Nat) (selector : Selector) : EditM RangeState := do
  match (← get).ranges.lookup place, selector.first with
  | some state, _ => return state
  | none, some (.line 0) => return .active none
  | none, _ => return .inactive

def beginRange (place : Nat) (stop : RangeEnd) : EditM Unit := do
  let number := (← get).number
  match stop with
  | .address (.line last) => if number < last then setRange place (.active (some last))
  | .address _ => setRange place (.active none)
  | .later count => if 0 < count then setRange place (.active (some (number + count)))
  | .multiple multiple =>
    if multiple ≠ 0 && number % multiple ≠ 0 then
      setRange place (.active (some ((number / multiple + 1) * multiple)))

/-- True when a command is for the line, before it is asked whether the others are meant. -/
def isInRange (place : Nat) (selector : Selector) : EditM Bool := do
  match selector.first, selector.stop with
  | none, _ => return true
  | some first, none => isAddressed first
  | some first, some stop =>
    match ← rangeOf place selector with
    | .inactive =>
      if ← isAddressed first then
        beginRange place stop
        return true
      else return false
    | .active (some last) =>
      let number := (← get).number
      if last ≤ number then setRange place .inactive
      return number ≤ last
    | .active none =>
      match stop with
      | .address address => if ← isAddressed address then setRange place .inactive
      | _ => setRange place .inactive
      return true

/-- True when a command is for the line. -/
def isSelected (place : Nat) (selector : Selector) : EditM Bool := do
  return (← isInRange place selector) != selector.inverted

/-! ## Changing -/

/-- What is done to letters that are written. -/
structure Letters where
  casing : Casing := .keep
  once : Casing := .keep

/-- Does to a letter what is to be done. -/
def Casing.apply : Casing → Char → Char
  | keep, c => c
  | upper, c => c.toUpper
  | lower, c => c.toLower

/-- Does to a text what is to be done to its letters. -/
def Letters.apply (letters : Letters) (text : List Char) : List Char × Letters :=
  match text with
  | [] => ([], letters)
  | c :: rest =>
    let first := if letters.once = .keep then letters.casing else letters.once
    (first.apply c :: rest.map letters.casing.apply, { letters with once := .keep })

/-- The text that takes the place of a match. -/
def expand (subject : Regex.Subject) (found : Regex.Match) : Letters → List Replacement → List Char
  | _, [] => []
  | letters, part :: rest =>
    let written (text : List Char) : List Char :=
      let (text, letters) := letters.apply text
      text ++ expand subject found letters rest
    match part with
    | .text text => written text.toList
    | .group number =>
      let span := if number = 0 then some found.span else found.groups.lookup number
      written ((span.map fun span => (subject.text.extract span.start span.stop).toList).getD [])
    | .casing casing => expand subject found { casing } rest
    | .once casing => expand subject found { letters with once := casing } rest

/-- Replaces matches from a place on. `before` is where the last match has ended, and the number
    says how many there were. The result is the new text and whether something was replaced. -/
def substituteFrom (subject : Regex.Subject) (regex : Regex) (substitution : Substitution) :
    Nat → Nat → Option Nat → Nat → List Char × Bool
  | 0, place, _, _ => ((subject.text.extract place subject.text.size).toList, false)
  | fuel + 1, place, before, count =>
    let between (start stop : Nat) : List Char := (subject.text.extract start stop).toList
    let rest (start : Nat) : List Char := between start subject.text.size
    if subject.text.size < place then ([], false)
    else
      match Regex.find? subject [regex] place with
      | none => (rest place, false)
      | some found =>
        let start := found.span.start
        let stop := found.span.stop
        let isEmpty := start = stop
        -- After an empty match one character is passed.
        let resume := if isEmpty then stop + 1 else stop
        let passed := if isEmpty then between stop (stop + 1) else []
        if isEmpty && before = some start then
          let (text, done) := substituteFrom subject regex substitution fuel resume none count
          (between place start ++ passed ++ text, done)
        else if count + 1 < substitution.first then
          let (text, done) := substituteFrom subject regex substitution fuel resume (some stop) (count + 1)
          (between place stop ++ passed ++ text, done)
        else
          let new := expand subject found {} substitution.parts
          if substitution.all then
            let (text, _) := substituteFrom subject regex substitution fuel resume (some stop) (count + 1)
            (between place start ++ new ++ passed ++ text, true)
          else (between place start ++ new ++ rest stop, true)

def substitute (substitution : Substitution) : EditM Unit := do
  let regex ← regexOf substitution.search
  let subject := subjectOf substitution.search (← get).space
  let (text, done) := substituteFrom subject regex substitution (subject.text.size + 2) 0 none 0
  if done then
    modify fun editor => { editor with space := String.ofList text, replaced := true }
    if substitution.prints then emitLine (← get).space
    match substitution.file with
    | some path => emitTo path (← get).space
    | none => pure ()

/-- A character as it is shown without doubt. -/
def shownChar (c : Char) : String :=
  match c with
  | '\\' => "\\\\"
  | '\x07' => "\\a"
  | '\x08' => "\\b"
  | '\x0c' => "\\f"
  | '\n' => "\\n"
  | '\r' => "\\r"
  | '\t' => "\\t"
  | '\x0b' => "\\v"
  | c =>
    if ' ' ≤ c && c ≤ '~' then String.singleton c
    else "\\" ++ Numeral.padLeft 3 '0' (Numeral.inBase 8 c.toNat)

/-- A text as it is shown without doubt, in lines of a width. -/
def shownText (width : Nat) : Nat → List Char → String
  | _, [] => "$\n"
  | column, c :: rest =>
    let text := shownChar c
    if 1 < width && width - 1 < column + text.length then
      "\\\n" ++ text ++ shownText width text.length rest
    else text ++ shownText width (column + text.length) rest

/-- The text before the first line break, and what comes after it if there is one. -/
def splitFirst (text : String) : String × Option String :=
  let (first, rest) := text.toList.span (· ≠ '\n')
  (String.ofList first, if rest.isEmpty then none else some (String.ofList (rest.drop 1)))

/-- The next line of a file that is read line by line. -/
def nextOf (path : String) : EditM (Option String) := do
  let descriptor ← match (← get).sources.lookup path with
    | some descriptor => pure (some descriptor)
    | none =>
      match ← ToolM.openInput path with
      | .error _ => pure none
      | .ok descriptor => do
        modify fun editor => { editor with sources := (path, descriptor) :: editor.sources }
        pure (some descriptor)
  match descriptor with
  | none => return none
  | some descriptor =>
    match ← ToolM.readLine descriptor ToolM.newline ToolM.patience .empty with
    | .error _ => return none
    | .ok bytes => return if bytes.isEmpty then none else some (withoutEnd '\n' (Octets.ofBytes bytes))

/-! ## Carrying out -/

/-- The place behind the block that begins before a place. So many commands are looked at. -/
def afterBlock (commands : Array Command) : Nat → Nat → Nat → Nat
  | 0, place, _ => place
  | fuel + 1, place, depth =>
    match commands[place]?.map Command.verb with
    | none => place
    | some .opening => afterBlock commands fuel (place + 1) (depth + 1)
    | some .closing =>
      if depth = 0 then place + 1 else afterBlock commands fuel (place + 1) (depth - 1)
    | some _ => afterBlock commands fuel (place + 1) depth

/-- The place that a label names. -/
def placeOf (commands : Array Command) (target : String) : Flow :=
  if target.isEmpty then .finish
  else
    let place := commands.findIdx? fun command =>
      match command.verb with
      | .label name => name = target
      | _ => false
    .goto (place.getD commands.size)

def setSpace (change : Editor → String) : EditM Flow := do
  modify fun editor => { editor with space := change editor }
  return .next

def perform (place : Nat) (command : Command) : EditM Flow := do
  let editor ← get
  let unconditional (flow : Flow) : EditM Flow := do
    discard (ToolM.ask .rest)
    return flow
  match command.verb with
  | .opening | .closing | .label _ | .nothing => return .next
  | .jump .always target => unconditional (placeOf editor.commands target)
  | .jump .ifReplaced target =>
    modify fun editor => { editor with replaced := false }
    if editor.replaced then unconditional (placeOf editor.commands target) else return .next
  | .jump .unlessReplaced target =>
    modify fun editor => { editor with replaced := false }
    if editor.replaced then return .next else unconditional (placeOf editor.commands target)
  | .append text =>
    modify fun editor => { editor with appended := editor.appended ++ [.text text] }
    return .next
  | .insert text => do
    emit text
    return .next
  | .change text => do
    let goesOn ← if command.selector.stop.isNone then pure false else do
      match ← rangeOf place command.selector with
      | .active _ => pure true
      | .inactive => pure false
    if !goesOn then emit text
    return .drop
  | .delete => return .drop
  | .deleteFirst =>
    match splitFirst editor.space with
    | (_, none) => return .drop
    | (_, some rest) =>
      modify fun editor => { editor with space := rest }
      return .again
  | .get => setSpace Editor.held
  | .getMore => setSpace fun editor => editor.space ++ String.singleton editor.last ++ editor.held
  | .hold => do
    modify fun editor => { editor with held := editor.space }
    return .next
  | .holdMore => do
    modify fun editor =>
      { editor with held := editor.held ++ String.singleton editor.last ++ editor.space }
    return .next
  | .exchange => do
    modify fun editor => { editor with space := editor.held, held := editor.space }
    return .next
  | .show width => do
    emit (shownText (width.getD editor.width) 0 editor.space.toList)
    return .next
  | .next => do
    if (← peekLine).isNone then return .quit 0 true
    if !editor.quiet then emitLine editor.space
    discard (readNext false)
    return .next
  | .nextMore => do
    if (← peekLine).isNone then return .quit 0 true
    discard (readNext true)
    return .next
  | .print => do
    emitLine editor.space
    return .next
  | .printFirst => do
    match splitFirst editor.space with
    | (_, none) => emitLine editor.space
    | (first, some _) => emit (first ++ String.singleton editor.last)
    return .next
  | .quit code prints => return .quit code prints
  | .readFile path => do
    modify fun editor => { editor with appended := editor.appended ++ [.file path] }
    return .next
  | .readLine path => do
    match ← nextOf path with
    | none => pure ()
    | some line =>
      modify fun editor => { editor with appended := editor.appended ++ [.text (line ++ "\n")] }
    return .next
  | .write path => do
    emitTo path editor.space
    return .next
  | .writeFirst path => do
    emitTo path (splitFirst editor.space).1
    return .next
  | .substitute substitution => do
    substitute substitution
    return .next
  | .exchangeChars pairs =>
    setSpace fun editor => String.ofList (editor.space.toList.map fun c => (pairs.lookup c).getD c)
  | .number => do
    emit (toString editor.number ++ "\n")
    return .next
  | .name => do
    emit (editor.path ++ "\n")
    return .next
  | .clear => setSpace fun _ => ""

/-- Carries out the commands from a place on. -/
def runFrom : Nat → Nat → EditM Flow
  | 0, _ => return .quit 1 false
  | fuel + 1, place => do
    let commands := (← get).commands
    match commands[place]? with
    | none => return .finish
    | some command =>
      if ← isSelected place command.selector then
        match ← perform place command with
        | .next => runFrom fuel (place + 1)
        | .goto target => runFrom fuel target
        | flow => return flow
      else
        match command.verb with
        | .opening => runFrom fuel (afterBlock commands commands.size (place + 1) 0)
        | _ => runFrom fuel (place + 1)

/-- Carries out the script for the line that is there and then for those that follow. -/
def runLines : Nat → EditM Nat
  | 0 => return 0
  | fuel + 1 => do
    match ← runFrom ToolM.patience 0 with
    | .again =>
      writeAppended
      runLines fuel
    | .drop => if ← readNext false then runLines fuel else return 0
    | .quit code prints =>
      if prints then
        if !(← get).quiet then emitLine (← get).space
        writeAppended
      return code
    | _ =>
      if !(← get).quiet then emitLine (← get).space
      if ← readNext false then runLines fuel else return 0

/-- Carries out a script for all lines of the input. -/
def run : EditM Nat := do
  openOutputs
  let code ← if ← readNext false then runLines ToolM.patience else pure 0
  writeBack
  return code

end Edit

namespace ToolM

/-- The parts that a script was given in, and where each came from. -/
structure ScriptPart where
  text : String
  /-- The file that the part is from. -/
  path : Option String

/-- Where in a script something is, as it is told. -/
def scriptPlace : Nat → Nat → List ScriptPart → String
  | _, _, [] => ""
  | expression, offset, part :: rest =>
    if part.text.length < offset && !rest.isEmpty then
      scriptPlace (expression + (if part.path.isNone then 1 else 0)) (offset - part.text.length - 1) rest
    else
      match part.path with
      | none => "-e expression #" ++ toString expression ++ ", char " ++ toString offset ++ ": "
      | some path =>
        let lines := ((part.text.toList.take (offset - 1)).filter (· = '\n')).length + 1
        "file " ++ path ++ " line " ++ toString lines ++ ": "

/-- The part of a script that is in a file. -/
def scriptFile (path : String) : ToolM ScriptPart := do
  match ← openInput path with
  | .error error => fail 1 ("couldn't open file " ++ path ++ ": " ++ error.text)
  | .ok descriptor =>
    let (text, _) ← readAll descriptor
    closeInput descriptor
    return { text := withoutEnd '\n' text, path := some path }

/-- Edits lines. -/
def sed : ToolM Unit := do
  let arguments ← readArguments 1 false
    ["n,quiet", ",silent", "e,expression,:", "f,file,:", "E,", "r,regexp-extended", "i,in-place,?",
      "l,line-length,:", "s,separate", "u,unbuffered", "z,null-data", ",posix", ",debug", ",sandbox",
      ",follow-symlinks"]
  let given := arguments.options.filter fun option => option.name = "e" || option.name = "f"
  let parts ← given.mapM fun option =>
    if option.name = "e" then return { text := option.value, path := none } else scriptFile option.value
  let (parts, operands) ←
    if !parts.isEmpty then pure (parts, arguments.operands)
    else
      match arguments.operands with
      | [] => misuse 1 "no script"
      | script :: operands => pure ([({ text := script, path := none } : ScriptPart)], operands)
  let text := "\n".intercalate (parts.map ScriptPart.text)
  let silences := text = "#n" || text.startsWith "#n\n"
  let dialect : Regex.Dialect :=
    { extended := arguments.has "E" || arguments.has "r", strict := true }
  let commands ← match Edit.read dialect text with
    | .ok commands => pure commands
    | .error (.found left message) => fail 1 (scriptPlace 1 (text.length - left) parts ++ message)
    | .error (.whole message) => fail 1 (scriptPlace 1 0 parts ++ message)
    | .error (.plain code message) => fail code message
  let inPlace := arguments.value? "i"
  let editor : Edit.Editor := {
    commands := commands.toArray
    quiet := arguments.has "n" || arguments.has "silent" || silences
    separate := arguments.has "s" || inPlace.isSome
    backup := inPlace
    last := if arguments.has "z" then '\x00' else '\n'
    width := ((arguments.value? "l").bind String.toNat?).getD 70
    paths := if operands.isEmpty then ["-"] else operands }
  let (code, _) ← Edit.run.run editor
  if code ≠ 0 then quit code

end ToolM

end Shell.Machine
