import Shell.Machine.Script.Builtin.Options

/-! # Switches

The options of scripts in the extended dialect, which are set by letters or by name.
-/

namespace Shell.Machine.Script

/-- The switches that `shopt` knows, in the order in which it lists them. -/
def shoptNames : List String := [
  "autocd", "assoc_expand_once", "cdable_vars", "cdspell", "checkhash", "checkjobs", "checkwinsize", "cmdhist",
  "compat31", "compat32", "compat40", "compat41", "compat42", "compat43", "compat44", "complete_fullquote",
  "direxpand", "dirspell", "dotglob", "execfail", "expand_aliases", "extdebug", "extglob", "extquote",
  "failglob", "force_fignore", "globasciiranges", "globskipdots", "globstar", "gnu_errfmt", "histappend",
  "histreedit", "histverify", "hostcomplete", "huponexit", "inherit_errexit", "interactive_comments",
  "lastpipe", "lithist", "localvar_inherit", "localvar_unset", "login_shell", "mailwarn",
  "no_empty_cmd_completion", "nocaseglob", "nocasematch", "noexpand_translation", "nullglob",
  "patsub_replacement", "progcomp", "progcomp_alias", "promptvars", "restricted_shell", "shift_verbose",
  "sourcepath", "varredir_close", "xpg_echo"]

/-- The switches that are on when a script begins. -/
def initialSwitches : List String := "interactive-comments" :: [
  "checkwinsize", "cmdhist", "complete_fullquote", "extquote", "force_fignore", "globasciiranges",
  "globskipdots", "hostcomplete", "interactive_comments", "patsub_replacement", "progcomp", "promptvars",
  "sourcepath"]

namespace ScriptM

/-- Whether an option is set that `set` knows by name; nothing if there is no such option. -/
def namedOption? (state : State) (name : String) : Option Bool :=
  match State.letterOptions.lookup name with
  | some letter => some (state.hasOption letter)
  | none => if State.wordOptions.contains name then some (state.switches.contains name) else none

/-- Sets an option by its letter or takes it away. -/
def turnLetter (letter : Char) (value : Bool) : ScriptM Unit :=
  modify fun state =>
    let others := state.options.filter (· ≠ letter)
    { state with options := if value then letter :: others else others }

/-- Turns a switch on or off. -/
def turnSwitch (name : String) (value : Bool) : ScriptM Unit :=
  modify fun state =>
    let others := state.switches.filter (· ≠ name)
    { state with switches := if value then name :: others else others }

/-- Sets an option that `set` knows by name, or takes it away. False if there is no such option. -/
def turnNamed (name : String) (value : Bool) : ScriptM Bool := do
  match State.letterOptions.lookup name with
  | some letter =>
    turnLetter letter value
    return true
  | none =>
    if State.wordOptions.contains name then
      turnSwitch name value
      return true
    else return false

/-- The names of the options that `set` knows, in order. -/
def knownOptions : List String :=
  (State.letterOptions.map (·.1) ++ State.wordOptions).mergeSort fun left right => left ≤ right

/-- Lists options, readably or as commands that set them. -/
def listNamed (readable : Bool) (command : String × String) (entries : List (String × Bool)) : String :=
  String.join <| entries.map fun (name, isOn) =>
    if readable then Numeral.padRight 15 name ++ "\t" ++ (if isOn then "on" else "off") ++ "\n"
    else (if isOn then command.1 else command.2) ++ " " ++ name ++ "\n"

/-- The options that `set` knows, with whether they are set. -/
def optionStates (state : State) : List (String × Bool) :=
  knownOptions.map fun name => (name, (namedOption? state name).getD false)

/-- Sets the options that letters stand for. What follows the arguments may name one. -/
def turnLetters (value : Bool) : List Char → List String → ScriptM (List String)
  | [], rest => return rest
  | 'o' :: letters, rest => do
    match rest with
    | [] =>
      discard (emit (listNamed value ("set -o", "set +o") (optionStates (← get))))
      turnLetters value letters []
    | name :: rest =>
      if !(← turnNamed name value) then
        warn (name ++ ": invalid option name")
        modify fun state => { state with status := 2 }
        jump .error
      turnLetters value letters rest
  | letter :: letters, rest => do
    if State.letterOptions.any fun entry => entry.2 = letter then turnLetter letter value
    else
      warn ((if value then "-" else "+") ++ String.singleton letter ++ ": invalid option")
      advise
    turnLetters value letters rest

/-- Sets options up to the first argument that is none. The result are the parameters, if they are to be replaced. -/
def turnOptions : Nat → List String → ScriptM (Option (List String))
  | 0, _ => return none
  | _, [] => return none
  | fuel + 1, argument :: rest => do
    match argument.toList with
    | ['-', '-'] => return some rest
    | ['-'] =>
      turnLetter 'x' false
      turnLetter 'v' false
      return if rest.isEmpty then none else some rest
    | '-' :: letters => turnOptions fuel (← turnLetters true letters rest)
    | '+' :: letter :: letters => turnOptions fuel (← turnLetters false (letter :: letters) rest)
    | _ => return some (argument :: rest)

/-- Sets options and parameters, or lists the variables. -/
def setExtended (arguments : List String) : ScriptM Nat := do
  if arguments.isEmpty then
    let entries := sortByName ((← get).bindings.filter fun entry => entry.value.isSome || entry.isSet)
    emit (String.join (entries.map fun entry => Quoting.setting entry ++ "\n"))
  else
    match ← turnOptions (arguments.length + 1) arguments with
    | none => return 0
    | some parameters =>
      modify fun state => { state with parameters, optionIndex := 1, optionOffset := 0 }
      return 0

/-- Shows the switches that names name. The status says whether all of them are on. -/
def showSwitches (readable quiet inSet : Bool) : Nat → List String → ScriptM Nat
  | status, [] => return status
  | status, name :: rest => do
    let state ← get
    let found := if inSet then namedOption? state name
      else if shoptNames.contains name then some (state.switches.contains name) else none
    match found with
    | none =>
      warn (name ++ ": invalid " ++ (if inSet then "" else "shell ") ++ "option name")
      showSwitches readable quiet inSet 1 rest
    | some isOn =>
      let command := if inSet then ("set -o", "set +o") else ("shopt -s", "shopt -u")
      if !quiet then discard (emit (listNamed readable command [(name, isOn)]))
      showSwitches readable quiet inSet (if isOn then status else 1) rest

/-- Turns switches on or off. -/
def turnSwitches (inSet value : Bool) : Nat → List String → ScriptM Nat
  | status, [] => return status
  | status, name :: rest => do
    let isKnown ←
      if inSet then turnNamed name value
      else
        if shoptNames.contains name then
          turnSwitch name value
          pure true
        else pure false
    if isKnown then turnSwitches inSet value status rest
    else
      warn (name ++ ": invalid " ++ (if inSet then "" else "shell ") ++ "option name")
      turnSwitches inSet value 1 rest

/-- Shows switches, or turns them on or off. -/
def shopt (arguments : List String) : ScriptM Nat := do
  let (options, names) ← readOptions "psuqo" arguments
  let has (letter : Char) : Bool := options.any fun option => option.1 = letter
  if has 's' && has 'u' then
    warn "cannot set and unset shell options simultaneously"
    return 1
  let state ← get
  if names.isEmpty then
    let all := if has 'o' then optionStates state
      else shoptNames.map fun name => (name, state.switches.contains name)
    let shown := if has 's' then all.filter (·.2) else if has 'u' then all.filter fun entry => !entry.2 else all
    let command := if has 'o' then ("set -o", "set +o") else ("shopt -s", "shopt -u")
    if has 'q' then return 0 else emit (listNamed (!has 'p') command shown)
  else if has 's' || has 'u' then turnSwitches (has 'o') (has 's') 0 names
  else showSwitches (!has 'p') (has 'q') (has 'o') 0 names

end ScriptM

end Shell.Machine.Script
