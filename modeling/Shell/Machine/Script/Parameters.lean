import Shell.Machine.Process
import Shell.Machine.Script.Fields
import Shell.Machine.Script.Jobs
import Shell.Machine.Script.Values

/-! # Parameters

What takes the place of parameters, of commands whose output is substituted or that are at the other end of a pipe, and
of tildes.
-/

namespace Shell.Machine.Script

/-- Runs a command that is a part of a word in a process of its own and arrives at its status. -/
abbrev Runner := Command → ScriptM Nat

namespace ScriptM

/-! ## Output of commands -/

/-- Reads a descriptor to its end, at most so often. -/
def readAll (descriptor : Nat) : Nat → ByteArray → ScriptM ByteArray
  | 0, sofar => return sofar
  | fuel + 1, sofar => do
    match ← ask (.read descriptor Pipe.capacity) with
    | .ok bytes => if bytes.isEmpty then return sofar else readAll descriptor fuel (sofar ++ bytes)
    | .error .interrupted => readAll descriptor fuel sofar
    | .error _ => return sofar

/-- The output of a command, without the line breaks at its end. -/
def outputOf (run : Runner) (command : Command) : ScriptM String := do
  let (input, output) ← ask .makePipe
  let child ← fork do
    discard (ask (.close input))
    if output ≠ 1 then
      discard (ask (.redirect output 1))
      discard (ask (.close output))
    enterSubshell
    modify fun state =>
      if state.dialect = .plain then state
      else
        let keeps := state.switches.contains "inherit_errexit"
        { state with
          options := if keeps then state.options else state.options.filter (· ≠ 'e')
          traceDepth := state.traceDepth + 1 }
    run command
  discard (ask (.close output))
  let bytes ← readAll input patience .empty
  discard (ask (.close input))
  let substituted ← awaitProcesses [child]
  modify fun state => { state with substituted }
  let text := (Octets.ofBytes bytes).toList.filter (· ≠ '\x00')
  return String.ofList (text.reverse.dropWhile (· = '\n')).reverse

/-- The greatest number of a descriptor for the path of a pipe. -/
def lastPipe : Nat := 63

/-- Starts a command whose input or output is a pipe, and makes a path for the other end of it. -/
def openPipe (run : Runner) (reads : Bool) (command : Command) : ScriptM String := do
  let ends : Nat × Nat ← ask .makePipe
  let (kept, given) := if reads then (ends.1, ends.2) else (ends.2, ends.1)
  let target := if reads then 1 else 0
  discard (fork do
    discard (ask (.close kept))
    if given ≠ target then
      discard (ask (.redirect given target))
      discard (ask (.close given))
    enterSubshell
    run command)
  discard (ask (.close given))
  let descriptor := lastPipe - (← get).openPipes.length
  discard (ask (.redirect kept descriptor))
  discard (ask (.close kept))
  modify fun state => { state with openPipes := descriptor :: state.openPipes }
  return "/dev/fd/" ++ toString descriptor

/-- Closes the pipes that have got paths since there were so many. -/
def closePipes (count : Nat) : ScriptM Unit := do
  let open_ := (← get).openPipes
  let added := open_.take (open_.length - count)
  added.forM fun descriptor => discard (ask (.close descriptor))
  modify fun state => { state with openPipes := open_.drop (open_.length - count) }

/-! ## Parameters -/

/-- The letters of options, in the order in which they are shown. -/
def optionOrder : Dialect → List Char
  | .plain => "pubaCEVvxsnmiIfe".toList
  | .extended => "abefhikmnprtuvxBCEHPTcs".toList

/-- The value of a parameter that is one text, if it has any. -/
def parameter? (name : String) : ScriptM (Option String) := do
  let state ← get
  match name with
  | "?" => return some (toString state.status)
  | "#" => return some (toString state.parameters.length)
  | "$" => return some (toString state.processNumber)
  | "!" => return state.lastBackground.map toString
  | "-" => return some (String.ofList ((optionOrder state.dialect).filter fun letter => state.hasOption letter))
  | "0" => return some state.name
  | _ =>
    match name.toNat? with
    | some position =>
      return if position = 0 then some state.name else state.parameters[position - 1]?
    | none => if state.dialect = .plain then return state.value? name else madeOrKept name
where
  /-- The value of a variable of the extended dialect. -/
  madeOrKept (name : String) : ScriptM (Option String) := do
    match name with
    | "RANDOM" =>
      let (value, state) := (← get).draw 4
      set state
      return some (toString value)
    | "SRANDOM" =>
      let now : Nat ← ask .clock
      return some (toString ((now * 2654435761) % 4294967296))
    | "BASHPID" =>
      let own : Nat ← ask .ownNumber
      return some (toString own)
    | _ =>
      noteTime name
      return (← seen name).value

/-- Texts with something between each two. -/
def interleave {α : Type} (between : α) : List α → List α
  | [] => []
  | [item] => [item]
  | item :: rest => item :: between :: interleave between rest

/-- The first separator, which goes between parameters that are joined. -/
def joiner (state : State) : String :=
  match state.value? "IFS" with
  | none => " "
  | some separators => (separators.take 1).toString

/-- The parameters of the script, each as a field of its own or joined. -/
def allParameters (name : String) (quoted divides : Bool) : ScriptM (List Item) := do
  let state ← get
  let runs := state.parameters.map fun text => Item.run text quoted true
  if !quoted && divides then return interleave .cut runs
  else if quoted && name = "@" && divides then return interleave .cut runs
  else
    let between := if quoted && name = "@" then " " else joiner state
    if state.parameters.isEmpty then return (if quoted then [.run "" true false] else [])
    return [.run (between.intercalate state.parameters) quoted true]

/-- The items that the value of a parameter amounts to. -/
def valueItems (name : String) (quoted divides : Bool) : ScriptM (Option (List Item)) := do
  if name = "@" || name = "*" then
    if (← get).parameters.isEmpty then
      return if quoted && name = "*" then some [.run "" true false] else none
    else return some (← allParameters name quoted divides)
  else return (← parameter? name).map fun text => [.run text quoted true]

/-- Refuses a parameter that has to be set. -/
def refuseUnset {α : Type} (name : String) : ScriptM α := do
  if ← isExtended then
    endWith ((if name.all Char.isDigit || name = "!" then "$" else "") ++ name ++ ": unbound variable")
  else fail (name ++ ": parameter not set")

/-- The items of a parameter that is used as it is. -/
def plainValue (name : String) (quoted divides : Bool) : ScriptM (List Item) := do
  match ← valueItems name quoted divides with
  | some items => return items
  | none =>
    if (← get).hasOption 'u' && name ≠ "@" && name ≠ "*" then refuseUnset name
    return if quoted && name ≠ "@" then [.run "" true false] else []

/-! ## Home directories -/

/-- The home directory of a user. -/
def homeOf? : String → Option String
  | "root" => some "/root"
  | "nobody" => some "/nonexistent"
  | "daemon" => some "/usr/sbin"
  | "bin" => some "/bin"
  | "sys" => some "/dev"
  | _ => none

/-- Replaces a tilde at the start of a text. `stop` says where the name of the user ends. -/
def expandTilde (stop : Char → Bool) (isLast : Bool) (text : List Char) : ScriptM (List Item) := do
  let plain := [Item.run (String.ofList text) false false]
  match text with
  | '~' :: rest =>
    let (user, rest) := rest.span fun c => !stop c
    if rest.isEmpty && !isLast then return plain
    let home ← if user.isEmpty then value? "HOME" else pure (homeOf? (String.ofList user))
    match home with
    | none => return plain
    | some home =>
      return [.run home true false] ++
        if rest.isEmpty then [] else [.run (String.ofList rest) false false]
  | _ => return plain

/-- Where tildes count in a word. -/
inductive Tildes where
  | nowhere
  | atStart
  /-- At the start and after each colon. -/
  | inAssignment
deriving Repr, DecidableEq, Inhabited

/-- Text between colons, with the tildes replaced. -/
def expandTildes (isLast : Bool) : Bool → List (List Char) → ScriptM (List Item)
  | _, [] => return []
  | active, [text] =>
    if active then expandTilde (fun c => c = '/' || c = ':') isLast text
    else return [.run (String.ofList text) false false]
  | active, text :: rest => do
    let first ←
      if active then expandTilde (fun c => c = '/' || c = ':') true text
      else pure [.run (String.ofList text) false false]
    return first ++ .run ":" false false :: (← expandTildes isLast true rest)

/-- Text that is not quoted. -/
def plainText (tildes : Tildes) (first isLast : Bool) (text : String) : ScriptM (List Item) :=
  match tildes with
  | .nowhere => return [.run text false false]
  | .atStart =>
    if first then expandTilde (· = '/') isLast text.toList
    else return [.run text false false]
  | .inAssignment => expandTildes isLast first ((text.splitOn ":").map String.toList)

end ScriptM

end Shell.Machine.Script
