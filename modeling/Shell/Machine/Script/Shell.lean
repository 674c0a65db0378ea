import Shell.Machine.Script.Run

/-! # The programs that run scripts

How the machine's own `sh` and `bash` begin: what they take over from their environment, what their arguments say, and
where their script comes from.
-/

namespace Shell.Machine.Script

/-- The variables that every script has. -/
def initialBindings : List (String × String) := [
  ("IFS", " \t\n"), ("OPTIND", "1"), ("PATH", ScriptM.defaultPath), ("PS1", "# "), ("PS2", "> "),
  ("PS4", "+ ")]

/-- The variables that are taken over from the environment. What is no name is left out. -/
def inheritedBindings (environment : List String) : List (String × String) :=
  environment.filterMap fun entry =>
    match ScriptM.splitAssignment entry with
    | (name, some value) => if Name.isValid name.toList then some (name, value) else none
    | _ => none

/-- The state of a script that begins. -/
def initialState (name : String) (environment : List String) : State :=
  let start : State := { name }
  let state := initialBindings.foldl
    (fun (state : State) entry => state.assign entry.1 entry.2 false) start
  let state := (inheritedBindings environment).foldl
    (fun (state : State) entry => state.assign entry.1 entry.2 true) state
  let state := state.assign "IFS" " \t\n" false
  state.assign "OPTIND" "1" false

namespace ScriptM

/-- Finds out what directory the script is in. What the environment says counts if it is right. -/
def findDirectoryName : ScriptM Unit := do
  let actual : String ← ask .workingDirectory
  let claimed := ((← get).value? "PWD").getD ""
  let isRight ←
    if !claimed.startsWith "/" then pure false
    else
      match ← ask (.inspect claimed true), ← ask (.inspect "." true) with
      | .ok one, .ok other => pure (one.id = other.id)
      | _, _ => pure false
  let directory := if isRight then claimed else actual
  modify fun state => { state with directory }.assign "PWD" directory true

/-- Finds out the numbers of the process and of its parent. -/
def findNumbers : ScriptM Unit := do
  let own : Nat ← ask .ownNumber
  let parent : Nat ← ask .parentNumber
  modify fun state =>
    { state with processNumber := own, parentNumber := parent }.assign "PPID" (toString parent) false

def runWhole (final shown : Bool) (text : String) : ScriptM Unit := do
  let status ← runText patience { final, shown, lowers := final } 1 text
  setStatus status

def runArguments (arguments : List String) : ScriptM Unit := do
  modify fun state => { state with line := 0 }
  findNumbers
  findDirectoryName
  let result ← setOptions true (arguments.length + 1) arguments false
  let begin_ (parameters : List String) : ScriptM Unit :=
    modify fun state => { state with parameters, line := 1 }
  if result.hasCommand then
    match result.rest with
    | [] => fail "-c requires an argument"
    | [text] =>
      begin_ []
      runWhole true false text
    | text :: name :: parameters =>
      begin_ parameters
      modify fun state => { state with name }
      runWhole true false text
  else
    let readsInput := result.rest.isEmpty || (← get).hasOption 's'
    if readsInput then
      begin_ result.rest
      setOption 's' true
      let bytes ← readAll 0 patience .empty
      runWhole false true (Octets.ofBytes bytes)
    else
      let file := result.rest.headD ""
      let text ← readScript file
      modify fun state => { state with name := file }
      begin_ (result.rest.drop 1)
      runWhole false true text

end ScriptM

def behaviourFrom (state : State) (begin_ : ScriptM Unit) : Behaviour :=
  let whole : ScriptM Nat := do
    discard (ScriptM.attempt begin_)
    ScriptM.finishScript ScriptM.patience
  (ExceptT.run whole).run state fun (result, state) =>
    match result with
    | .ok status => .exit status
    | .error _ => .exit state.status

/-- The behaviour of `sh`. The first argument is the name that it was called by. -/
def shell (arguments environment : List String) : Behaviour :=
  behaviourFrom (initialState (arguments.headD "sh") environment) (ScriptM.runArguments (arguments.drop 1))

end Shell.Machine.Script

/-! ## The program for the extended dialect -/

namespace Shell.Machine.Script

/-- The version of the extended dialect, in parts. -/
def versionParts : List String := ["5", "2", "15", "1", "release", "x86_64-pc-linux-gnu"]

/-- The version of the extended dialect. -/
def versionText : String := "5.2.15(1)-release"

/-- The variables of the extended dialect that every script has. -/
def extendedBindings : List (String × String) := [
  ("BASH", "/usr/bin/bash"), ("BASH_VERSION", versionText), ("HOSTNAME", "localhost"), ("HOSTTYPE", "x86_64"),
  ("IFS", " \t\n"), ("MACHTYPE", "x86_64-pc-linux-gnu"), ("OPTERR", "1"), ("OPTIND", "1"), ("OSTYPE", "linux-gnu"),
  ("PATH", ScriptM.defaultPath), ("PS4", "+ "), ("SHELL", "/bin/bash"), ("TERM", "dumb")]

/-- The numbers of the extended dialect that may only be read. -/
def identityBindings (parent : Nat) : List Variable :=
  let number (name : String) (value : Nat) : Variable :=
    { name, value := some (toString value), readOnly := true, isNumber := true }
  [number "EUID" 0, number "UID" 0, number "PPID" parent]

/-- One more script around what is run. -/
def nextLevel (text : Option String) : Nat :=
  ((text.bind String.toInt?).map fun level => (level + 1).toNat).getD 1

/-- The state of a script of the extended dialect that begins. -/
def initialExtended (name : String) (environment : List String) : State :=
  let start : State := {
    name, dialect := .extended, options := ['h', 'B'], switches := initialSwitches, statuses := [0] }
  let state := extendedBindings.foldl
    (fun (state : State) entry => state.assign entry.1 entry.2 false) start
  let state := (inheritedBindings environment).foldl
    (fun (state : State) entry => if entry.1 = "_" then state else state.assign entry.1 entry.2 true) state
  let state := state.assign "IFS" " \t\n" false
  let state := state.assign "OPTIND" "1" false
  let state := state.assign "SHLVL" (toString (nextLevel (state.value? "SHLVL"))) true
  let version : Variable := { name := "BASH_VERSINFO", value := none, readOnly := true }
  state.putVariable (version.withElements (numberedFrom 0 versionParts))

namespace ScriptM

/-- What is said about a call that cannot be understood. -/
def extendedUsage : String :=
  "Usage:\tbash [GNU long option] [option] ...\n\tbash [GNU long option] [option] script-file ...\n" ++
  "GNU long options:\n" ++
  String.join (["debug", "debugger", "dump-po-strings", "dump-strings", "help", "init-file", "login", "noediting",
    "noprofile", "norc", "posix", "pretty-print", "rcfile", "restricted", "verbose", "version"].map fun name =>
      "\t--" ++ name ++ "\n") ++
  "Shell options:\n\t-ilrsD or -c command or -O shopt_option\t\t(invocation only)\n" ++
  "\t-abefhkmnptuvxBCEHPT or -o option\n"

/-- What the program says about itself. -/
def versionNotice : String :=
  "GNU bash, version " ++ versionText ++ " (x86_64-pc-linux-gnu)\n"

/-- What the arguments of the program say. -/
structure Invocation where
  rest : List String := []
  hasCommand : Bool := false
  readsInput : Bool := false

def endSaying {α : Type} (descriptor status : Nat) (text : String) : ScriptM α := do
  discard (write descriptor text)
  setStatus status
  jump .exit

def refuseInvocation {α : Type} (option : String) : ScriptM α := do
  endSaying 2 2 ((← get).name ++ ": " ++ option ++ ": invalid option\n" ++ extendedUsage)

def readLongOptions : List String → ScriptM (List String)
  | [] => return []
  | argument :: rest => do
    match argument with
    | "--version" => endSaying 1 0 versionNotice
    | "--posix" =>
      turnSwitch "posix" true
      readLongOptions rest
    | "--verbose" =>
      turnLetter 'v' true
      readLongOptions rest
    | "--norc" | "--noprofile" | "--login" | "--noediting" | "--restricted" | "--debugger" => readLongOptions rest
    | "--rcfile" | "--init-file" => readLongOptions (rest.drop 1)
    | _ =>
      if argument.startsWith "--" && argument ≠ "--" then refuseInvocation argument
      else return argument :: rest
termination_by arguments => arguments.length
decreasing_by
  all_goals
    simp only [List.length_cons, List.length_drop]
    omega

/-- Sets what the letters of an argument say. -/
def readInvocationLetters (value : Bool) (whole : String) :
    List Char → List String → Invocation → ScriptM (List String × Invocation)
  | [], rest, invocation => return (rest, invocation)
  | letter :: letters, rest, invocation => do
    let go (rest : List String) (invocation : Invocation) : ScriptM (List String × Invocation) :=
      readInvocationLetters value whole letters rest invocation
    let refuseName (report : String) : ScriptM Unit := do
      endSaying 2 2 ((← get).name ++ ": line 0: " ++ report ++ "\n")
    match letter with
    | 'c' => go rest { invocation with hasCommand := true }
    | 's' => go rest { invocation with readsInput := true }
    | 'i' | 'l' | 'r' | 'D' => go rest invocation
    | 'o' =>
      let name := rest.headD ""
      if rest.isEmpty then endSaying 1 0 (listNamed value ("set -o", "set +o") (optionStates (← get)))
      if !(← turnNamed name value) then refuseName ((← get).name ++ ": " ++ name ++ ": invalid option name")
      go (rest.drop 1) invocation
    | 'O' =>
      let name := rest.headD ""
      let state ← get
      if rest.isEmpty then
        let all := shoptNames.map fun name => (name, state.switches.contains name)
        endSaying 1 0 (listNamed value ("shopt -s", "shopt -u") all)
      if !shoptNames.contains name then refuseName (name ++ ": invalid shell option name")
      turnSwitch name value
      go (rest.drop 1) invocation
    | _ =>
      if State.letterOptions.any fun entry => entry.2 = letter then turnLetter letter value
      else refuseInvocation whole
      go rest invocation

/-- Reads the options of the program, of which there are at most so many. -/
def readInvocation : Nat → List String → Invocation → ScriptM Invocation
  | 0, rest, invocation => return { invocation with rest }
  | _, [], invocation => return { invocation with rest := [] }
  | fuel + 1, argument :: rest, invocation => do
    match argument.toList with
    | ['-'] | ['-', '-'] => return { invocation with rest }
    | '-' :: letters =>
      let (rest, invocation) ← readInvocationLetters true argument letters rest invocation
      readInvocation fuel rest invocation
    | '+' :: letters =>
      let (rest, invocation) ← readInvocationLetters false argument letters rest invocation
      readInvocation fuel rest invocation
    | _ => return { invocation with rest := argument :: rest }

/-- The text of the script that an argument names. -/
def readScriptFile (path : String) : ScriptM String := do
  let name := (← get).name
  let found : Except SystemError Nat ← ask (.openFile path { read := true } 0)
  match found with
  | .error error =>
    if error = .missing && !path.contains '/' then
      match ← findFile false path .nowhere (← searchPlaces none) with
      | .found place =>
        match ← ask (.openFile place { read := true } 0) with
        | .ok descriptor => readOpen descriptor
        | .error error => endSaying 2 126 (name ++ ": " ++ place ++ ": " ++ error.text ++ "\n")
      | _ => endSaying 2 127 (name ++ ": " ++ path ++ ": " ++ error.text ++ "\n")
    else
      endSaying 2 (if error = .missing || error = .notADirectory then 127 else 126)
        (name ++ ": " ++ path ++ ": " ++ error.text ++ "\n")
  | .ok descriptor =>
    if ← isDirectory path then endSaying 2 126 (path ++ ": " ++ path ++ ": " ++ SystemError.isDirectory.text ++ "\n")
    readOpen descriptor
where
  /-- Reads a descriptor to its end and closes it. -/
  readOpen (descriptor : Nat) : ScriptM String := do
    let bytes ← readAll descriptor patience .empty
    discard (ask (.close descriptor))
    return Octets.ofBytes bytes

/-- Runs the script of the extended dialect that arguments name. -/
def runInvocation (arguments : List String) : ScriptM Unit := do
  let now : Nat ← ask .clock
  let own : Nat ← ask .ownNumber
  let parent : Nat ← ask .parentNumber
  modify fun state =>
    let state := (identityBindings parent).foldl (fun state entry => state.putVariable entry) state
    { state with startTime := now, now, processNumber := own, parentNumber := parent, chance := now + own }
  findDirectoryName
  if ((← get).value? "OLDPWD").isNone then
    modify fun state => state.putVariable { name := "OLDPWD", value := none, exported := true }
  let invocation ← readInvocation (arguments.length + 1) (← readLongOptions arguments) {}
  let begin_ (parameters : List String) : ScriptM Unit :=
    modify fun state => { state with parameters, line := 1 }
  if invocation.hasCommand then
    turnLetter 'c' true
    modify fun state => { state with isArgument := true, reading := "-c: " }
    match invocation.rest with
    | [] => endSaying 2 2 ((← get).name ++ ": -c: option requires an argument\n")
    | [text] =>
      begin_ []
      runWhole true false text
    | text :: name :: parameters =>
      begin_ parameters
      modify fun state => { state with name }
      runWhole true false text
  else if invocation.readsInput || invocation.rest.isEmpty then
    begin_ invocation.rest
    turnLetter 's' true
    let bytes ← readAll 0 patience .empty
    runWhole false true (Octets.ofBytes bytes)
  else
    let file := invocation.rest.headD ""
    let text ← readScriptFile file
    modify fun state => { state with name := file }
    begin_ (invocation.rest.drop 1)
    runWhole false true text

end ScriptM

/-- The behaviour of `bash`. The first argument is the name that it was called by. -/
def extendedShell (arguments environment : List String) : Behaviour :=
  behaviourFrom (initialExtended (arguments.headD "bash") environment) (ScriptM.runInvocation (arguments.drop 1))

end Shell.Machine.Script
