import Shell.Machine.Script.Builtin.Handling
import Shell.Machine.Script.Builtin.Output
import Shell.Machine.Script.Builtin.Reading
import Shell.Machine.Script.Builtin.Directory
import Shell.Machine.Script.Builtin.Switches
import Shell.Machine.Script.Check
import Shell.Machine.Script.Redirection

/-! # Finding commands

What the name of a command stands for, and how a script becomes another program.
-/

namespace Shell.Machine.Script

/-- Builtins that need nothing but their arguments. -/
def plainBuiltin? : String → Option (List String → ScriptM Nat)
  | ":" | "true" => some fun _ => return 0
  | "false" => some fun _ => return 1
  | "echo" => some ScriptM.echo
  | "printf" => some ScriptM.printf
  | "test" => some ScriptM.test
  | "[" => some ScriptM.bracket
  | "cd" | "chdir" => some ScriptM.cd
  | "pwd" => some ScriptM.pwd
  | "umask" => some ScriptM.umask
  | "ulimit" => some ScriptM.ulimit
  | "times" => some fun _ => ScriptM.emit ScriptM.timesText
  | "export" => some (ScriptM.mark true false)
  | "readonly" => some (ScriptM.mark false true)
  | "local" => some ScriptM.localVariables
  | "unset" => some fun arguments => do
    let (options, names) ← ScriptM.readOptions "vf" arguments
    ScriptM.unsetAll ((options.getLast?.map (·.1)) = some 'f') names
  | "set" => some ScriptM.set_
  | "shift" => some ScriptM.shift
  | "getopts" => some ScriptM.getopts
  | "read" => some ScriptM.read
  | "alias" => some ScriptM.keepAliases
  | "unalias" => some ScriptM.dropAliases
  | "kill" => some ScriptM.kill
  | "trap" => some ScriptM.trap
  | "wait" => some ScriptM.wait
  | "jobs" => some ScriptM.listJobs
  | "fg" | "bg" => some ScriptM.resumeJob
  | _ => none

/-- Builtins of the extended dialect that need nothing but their arguments. -/
def extendedBuiltin? : String → Option (List String → ScriptM Nat)
  | ":" | "true" => some fun _ => return 0
  | "false" => some fun _ => return 1
  | "echo" => some ScriptM.echoExtended
  | "printf" => some ScriptM.printfExtended
  | "test" => some ScriptM.inquire
  | "[" => some ScriptM.inquireBracketed
  | "cd" => some ScriptM.cdExtended
  | "pwd" => some ScriptM.pwd
  | "pushd" => some ScriptM.pushd
  | "popd" => some ScriptM.popd
  | "dirs" => some ScriptM.dirs
  | "umask" => some ScriptM.umaskExtended
  | "ulimit" => some ScriptM.ulimitExtended
  | "times" => some fun _ => ScriptM.emit ScriptM.timesExtended
  | "export" => some ScriptM.declareExported
  | "readonly" => some ScriptM.declareReadOnly
  | "local" => some ScriptM.declareLocal
  | "declare" | "typeset" => some ScriptM.declare
  | "unset" => some ScriptM.unsetDeclared
  | "set" => some ScriptM.setExtended
  | "shopt" => some ScriptM.shopt
  | "shift" => some ScriptM.shiftExtended
  | "let" => some ScriptM.letFormulas
  | "getopts" => some ScriptM.getoptsExtended
  | "read" => some ScriptM.readExtended
  | "mapfile" | "readarray" => some ScriptM.mapLines
  | "alias" => some ScriptM.aliasExtended
  | "unalias" => some ScriptM.unaliasExtended
  | "kill" => some ScriptM.killExtended
  | "trap" => some ScriptM.trapExtended
  | "wait" => some ScriptM.waitExtended
  | "jobs" => some ScriptM.jobsExtended
  | "disown" => some ScriptM.disown
  | "fg" | "bg" => some fun _ => ScriptM.refuseControl
  | "bind" | "complete" | "compopt" | "enable" | "fc" | "history" | "suspend" => some fun _ => return 0
  | _ => none

/-- Builtins of a dialect that need nothing but their arguments. -/
def Dialect.builtin? : Dialect → String → Option (List String → ScriptM Nat)
  | .plain => plainBuiltin?
  | .extended => extendedBuiltin?

/-- Builtins that run commands, leave them or look for them. -/
def Dialect.controlBuiltins : Dialect → List String
  | .plain => [".", "break", "command", "continue", "eval", "exec", "exit", "hash", "return", "type"]
  | .extended =>
    [".", "break", "builtin", "caller", "command", "continue", "eval", "exec", "exit", "hash", "logout", "return",
      "source", "type"]

/-- Builtins whose failure ends a script, and whose assignments last. -/
def Dialect.isSpecialBuiltin : Dialect → String → Bool
  | .plain, name => Reader.specialBuiltins.contains name || name = "local"
  | .extended, _ => false

/-- Builtins whose arguments may be assignments. -/
def Dialect.takesAssignments : Dialect → String → Bool
  | .plain, name => ["alias", "export", "local", "readonly"].contains name
  | .extended, name => ["alias", "declare", "export", "local", "readonly", "typeset"].contains name

def Dialect.isBuiltin (dialect : Dialect) (name : String) : Bool :=
  (dialect.builtin? name).isSome || dialect.controlBuiltins.contains name

namespace ScriptM

/-- The directories in which programs are looked for. -/
def searchPlaces (path : Option String) : ScriptM (List String) := do
  let path ← match path with
    | some path => pure path
    | none => pure (((← get).value? "PATH").getD "")
  return path.splitOn ":"

/-- What comes of looking for a file in directories. -/
inductive Lookup where
  | found (path : String)
  /-- There is something of the name that is no program. -/
  | unusable
  | nowhere
deriving Repr, DecidableEq, Inhabited

/-- Looks for a regular file with a name in some directories. -/
def findFile (executable : Bool) (name : String) (sofar : Lookup) : List String → ScriptM Lookup
  | [] => return sofar
  | place :: rest => do
    let path := inPlace place name
    match ← ask (.inspect path true) with
    | .ok info =>
      if info.sort = .plain && (!executable || info.mode &&& 0o111 ≠ 0) then return .found path
      else findFile executable name .unusable rest
    | .error _ => findFile executable name sofar rest

/-! ## Programs that are known -/

def noteProgram (name path : String) : ScriptM Unit :=
  modify fun state =>
    let others := state.known.filter fun known => known.name ≠ name
    if others.length = state.known.length then { state with known := state.known ++ [{ name, path }] }
    else
      { state with
        known := state.known.map fun known => if known.name = name then { name, path } else known }

def forgetProgram (name : String) : ScriptM Unit :=
  modify fun state => { state with known := state.known.filter fun known => known.name ≠ name }

/-- The drawer of a cabinet that a name is kept in. -/
def drawerOf (name : String) : Nat :=
  let chars := name.toList
  let start := ((chars.head?.map Char.toNat).getD 0) * 16
  ((chars.foldl (fun sum c => sum + c.toNat) start) % 32768) % 31

/-- The programs that are known, in the order in which they are shown. -/
def knownPrograms (state : State) : List KnownProgram :=
  (List.range 31).flatMap fun drawer => state.known.filter fun known => drawerOf known.name = drawer

/-- Looks for the program that a name without a slash stands for, and notes where it is. -/
def lookUp (path : Option String) (name : String) : ScriptM Lookup := do
  let result ← findFile true name .nowhere (← searchPlaces path)
  match result, path with
  | .found place, none => noteProgram name place
  | _, _ => pure ()
  return result

/-- Where the program that a name stands for is, if it is anywhere. -/
def findProgram (path : Option String) (name : String) : ScriptM (Option String) := do
  if name.contains '/' then
    match ← ask (.inspect name true) with
    | .ok _ => return some name
    | .error _ => return none
  else
    match ← lookUp path name with
    | .found place => return some place
    | _ => return none

/-- What is said of a name under which there is no program. -/
def lookupReport : Lookup → String
  | .unusable => SystemError.denied.text
  | _ => "not found"

/-! ## Becoming a program -/

/-- What is said of a program that cannot be executed. -/
def executeReport (error : SystemError) : String :=
  if error = .missing || error = .notADirectory then "not found" else error.text

/-- The status of a script that could not become another program. -/
def executeStatus (error : SystemError) : Nat :=
  if [.missing, .notADirectory, .nameTooLong, .tooManyLinks].contains error then 127 else 126

/-- The path of the program that runs files that are no programs. -/
def interpreterPath : Dialect → String
  | .plain => "/bin/sh"
  | .extended => "/bin/bash"

/-- What a program at a path sees of the variables. In the extended dialect it sees its own path too. -/
def environmentFor (state : State) (path : String) : List String :=
  match state.dialect with
  | .plain => state.environment
  | .extended => (state.environment.filter fun entry => !entry.startsWith "_=") ++ ["_=" ++ path]

/-- Becomes the program at a path. A file that holds no program counts as a script. -/
def becomeAt (path : String) (arguments : List String) : ScriptM SystemError := do
  let state ← get
  let environment := environmentFor state path
  match ← ask (.execute path arguments environment) with
  | .notAProgram =>
    let interpreter := interpreterPath state.dialect
    ask (.execute interpreter (interpreter :: path :: arguments.drop 1) environment)
  | error => return error

/-- Becomes the first program that can be executed in some directories. -/
def becomeIn (arguments : List String) : SystemError → List String → ScriptM SystemError
  | error, [] => return error
  | error, place :: rest => do
    let found ← becomeAt (inPlace place (arguments.headD "")) arguments
    becomeIn arguments (if found = .missing || found = .notADirectory then error else found) rest

/-- Becomes another program. If that fails, the script ends. -/
def become {α : Type} (path : Option String) (arguments : List String) : ScriptM α := do
  let name := arguments.headD ""
  let error ←
    if name.contains '/' then becomeAt name arguments
    else becomeIn arguments .missing (← searchPlaces path)
  if ← isExtended then
    let isDirectory ← isDirectory name
    warn (name ++ ": " ++ (if isDirectory then SystemError.isDirectory.text else error.text))
  else warn (name ++ ": " ++ executeReport error)
  modify fun state => { state with status := executeStatus error }
  jump .exit

/-! ## Describing commands -/

/-- Says what a name stands for, at length or only so that it could be used. False if it stands for nothing. -/
def describe (atLength : Bool) (path : Option String) (name : String) : ScriptM (Option String) := do
  let state ← get
  let long (text : String) : Option String :=
    some (if atLength then name ++ " is " ++ text ++ "\n" else name ++ "\n")
  if reservedWords.contains name then return long "a shell keyword"
  match state.aliases.lookup name with
  | some value =>
    return some (if atLength then name ++ " is an alias for " ++ value ++ "\n"
      else "alias " ++ name ++ "=" ++ quoteText value ++ "\n")
  | none =>
    if (state.functions.lookup name).isSome then return long "a shell function"
    else if Reader.specialBuiltins.contains name || name = "local" then
      return long "a special shell builtin"
    else if Dialect.plain.isBuiltin name then return long "a shell builtin"
    else
      match state.known.find? fun known => known.name = name with
      | some known =>
        return some (if atLength then name ++ " is a tracked alias for " ++ known.path ++ "\n"
          else known.path ++ "\n")
      | none =>
        match ← findProgram path name with
        | some found => return some (if atLength then name ++ " is " ++ found ++ "\n" else found ++ "\n")
        | none => return if atLength then some (name ++ ": not found\n") else none

def isCommand (path : Option String) (name : String) : ScriptM Bool := do
  let state ← get
  if reservedWords.contains name || (state.aliases.lookup name).isSome ||
      (state.functions.lookup name).isSome || Dialect.plain.isBuiltin name then
    return true
  else return (← findProgram path name).isSome

/-- Says of each name what it stands for. -/
def describeAll : Nat → List String → ScriptM Nat
  | status, [] => return status
  | status, name :: rest => do
    discard (write 1 ((← describe true none name).getD ""))
    let found ← isCommand none name
    describeAll (if found then status else 127) rest

/-- Shows the programs that are known, forgets them, or looks for others. -/
def hash (arguments : List String) : ScriptM Nat := do
  let (options, names) ← readOptions "r" arguments
  if !options.isEmpty then
    modify fun state => { state with known := [] }
    return 0
  if names.isEmpty then
    let lines := (knownPrograms (← get)).map fun known =>
      known.path ++ (if known.outdated then "*" else "") ++ "\n"
    return ← emit (String.join lines)
  let mut status := 0
  for name in names do
    forgetProgram name
    if !Dialect.plain.isBuiltin name && !name.contains '/' then
      match ← lookUp none name with
      | .found _ => pure ()
      | result =>
        warn (name ++ ": " ++ lookupReport result)
        status := 1
  return status

/-! ## Describing commands in the extended dialect -/

/-- What a name stands for. -/
inductive Meaning where
  | shorthand (value : String)
  | keyword
  | function
  | builtin
  /-- A program, and whether its place was known. -/
  | program (path : String) (known : Bool)
deriving Repr, DecidableEq, Inhabited

namespace Meaning

def word : Meaning → String
  | shorthand _ => "alias"
  | keyword => "keyword"
  | function => "function"
  | builtin => "builtin"
  | program _ _ => "file"

/-- A line that says what a name stands for. -/
def sentence (name : String) : Meaning → String
  | shorthand value => name ++ " is aliased to \x60" ++ value ++ "'\n"
  | keyword => name ++ " is a shell keyword\n"
  | function => name ++ " is a function\n"
  | builtin => name ++ " is a shell builtin\n"
  | program path known => name ++ " is " ++ (if known then "hashed (" ++ path ++ ")" else path) ++ "\n"

/-- A line from which a script could use what a name stands for. -/
def usable (name : String) : Meaning → String
  | shorthand value => "alias " ++ name ++ "=" ++ ScriptQuote.single value ++ "\n"
  | program path _ => path ++ "\n"
  | _ => name ++ "\n"

end Meaning

def programsNamed (name : String) : List String → ScriptM (List String)
  | [] => return []
  | place :: rest => do
    let path := inPlace place name
    let here ← match ← ask (.inspect path true) with
      | .ok info => pure (if info.sort = .plain && info.mode &&& 0o111 ≠ 0 then [path] else [])
      | .error _ => pure []
    return here ++ (← programsNamed name rest)

/-- The words that are reserved in the extended dialect. -/
def isKeyword (name : String) : Bool :=
  (Dialect.reservedWords .extended).contains name

/-- The programs that a name stands for, wherever they are. -/
def programMeanings (name : String) (path : Option String) : ScriptM (List Meaning) := do
  if name.contains '/' then
    match ← ask (.inspect name true) with
    | .ok info =>
      return if info.sort = .plain && info.mode &&& 0o111 ≠ 0 then [.program name false] else []
    | .error _ => return []
  else return (← programsNamed name (← searchPlaces path)).map fun found => .program found false

/-- All that a name stands for, what counts most first. -/
def meaningsOf (name : String) (path : Option String) (withFunctions : Bool) : ScriptM (List Meaning) := do
  let state ← get
  let aliases : List Meaning := match state.aliases.lookup name with
    | some value => if state.switches.contains "expand_aliases" then [.shorthand value] else []
    | none => []
  let keywords : List Meaning := if isKeyword name then [.keyword] else []
  let functions : List Meaning :=
    if withFunctions && (state.functions.lookup name).isSome then [.function] else []
  let builtins : List Meaning := if Dialect.extended.isBuiltin name then [.builtin] else []
  let known : List Meaning := match state.known.find? fun known => known.name = name with
    | some known => [.program known.path true]
    | none => []
  let programs ← programMeanings name path
  return aliases ++ keywords ++ functions ++ builtins ++ (if programs.isEmpty then [] else known) ++ programs

/-- How `type` shows what names stand for. -/
structure TypeStyle where
  /-- The letters of the options. -/
  letters : List Char

def typeNames (style : TypeStyle) : Nat → List String → ScriptM Nat
  | status, [] => return status
  | status, name :: rest => do
    let has (letter : Char) : Bool := style.letters.contains letter
    let all ← if has 'P' then programMeanings name none else meaningsOf name none (!has 'f')
    let all := if has 'a' then all.filter fun meaning => !(meaning matches .program _ true) else all.take 1
    let texts := all.map fun meaning =>
      if has 't' then meaning.word ++ "\n"
      else if has 'p' || has 'P' then
        match meaning with
        | .program path _ => path ++ "\n"
        | _ => ""
      else meaning.sentence name
    discard (emit (String.join texts))
    if all.isEmpty then
      if !has 't' && !has 'p' && !has 'P' then warn (name ++ ": not found")
      typeNames style 1 rest
    else typeNames style status rest

/-- Says what names stand for. -/
def typeExtended (arguments : List String) : ScriptM Nat := do
  let (options, names) ← readOptions "afptP" arguments
  typeNames { letters := options.map (·.1) } 0 names

/-- Says what the names after `command -v` or `command -V` stand for. -/
def describeNames (long : Bool) (path : Option String) : Bool → List String → ScriptM Nat
  | found, [] => return if found then 0 else 1
  | found, name :: rest => do
    match (← meaningsOf name path true).head? with
    | some meaning =>
      discard (emit (if long then meaning.sentence name else meaning.usable name))
      describeNames long path true rest
    | none =>
      if long then warn (name ++ ": not found")
      describeNames long path found rest

/-- Shows the programs that are known, forgets them, or looks for others. -/
def hashExtended (arguments : List String) : ScriptM Nat := do
  let (options, names) ← readOptions "dlp:rt" arguments
  let has (letter : Char) : Bool := options.any fun option => option.1 = letter
  if has 'r' then modify fun state => { state with known := [] }
  if names.isEmpty then
    if has 'r' then return 0
    let known := (← get).known
    if known.isEmpty then return ← emit "hash: hash table empty\n"
    let place (name : String) : Nat := State.drawer name % 256
    let lines := (known.mergeSort fun left right => place left.name ≤ place right.name).map fun entry =>
      Numeral.padLeft 4 ' ' (toString entry.uses) ++ "\t" ++ entry.path ++ "\n"
    return ← emit (String.join ("hits\tcommand\n" :: lines))
  let mut status := 0
  for name in names do
    if has 't' then
      match (← get).known.find? fun known => known.name = name with
      | some known => discard (emit ((if 1 < names.length then name ++ "\t" else "") ++ known.path ++ "\n"))
      | none =>
        warn (name ++ ": not found")
        status := 1
    else
      forgetProgram name
      if !has 'd' && !Dialect.extended.isBuiltin name && !name.contains '/' then
        match ← lookUp none name with
        | .found _ => pure ()
        | _ =>
          warn (name ++ ": not found")
          status := 1
  return status

/-- Shows from where a function was called. -/
def caller (arguments : List String) : ScriptM Nat := do
  let state ← get
  match arguments with
  | [] =>
    match state.frames with
    | [] => return 1
    | frame :: rest =>
      let file := (rest.head?.map Frame.file).getD (if state.isArgument then "NULL" else state.name)
      emit (toString frame.line ++ " " ++ file ++ "\n")
  | text :: _ =>
    match text.toNat? with
    | none =>
      warn (text ++ ": invalid number")
      advise
    | some depth =>
      match state.frames.drop depth with
      | [] => return 1
      | frame :: rest =>
        let name := (rest.head?.map Frame.function).getD "main"
        let file := (rest.head?.map Frame.file).getD state.name
        emit (toString frame.line ++ " " ++ name ++ " " ++ file ++ "\n")

end ScriptM

end Shell.Machine.Script
