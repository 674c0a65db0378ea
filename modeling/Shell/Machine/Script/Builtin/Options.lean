import Shell.Machine.Script.Jobs
import Shell.Machine.Script.Values
import Shell.Machine.Utility.Numeral

/-! # Arguments of builtins

How builtins read their options and numbers, and how they write.
-/

/-! ## Usage

The lines that the builtins of the extended dialect show when they are called in a wrong way.
-/

namespace Shell.Machine.Script

/-- How a builtin is called. -/
def usages : List (String × String) := [
  (".", ". filename [arguments]"),
  ("alias", "alias [-p] [name[=value] ... ]"),
  ("bg", "bg [job_spec ...]"),
  ("break", "break [n]"),
  ("builtin", "builtin [shell-builtin [arg ...]]"),
  ("caller", "caller [expr]"),
  ("cd", "cd [-L|[-P [-e]] [-@]] [dir]"),
  ("command", "command [-pVv] command [arg ...]"),
  ("continue", "continue [n]"),
  ("declare", "declare [-aAfFgiIlnrtux] [name[=value] ...] or declare -p [-aAfFilnrtux] [name ...]"),
  ("dirs", "dirs [-clpv] [+N] [-N]"),
  ("disown", "disown [-h] [-ar] [jobspec ... | pid ...]"),
  ("echo", "echo [-neE] [arg ...]"),
  ("enable", "enable [-a] [-dnps] [-f filename] [name ...]"),
  ("eval", "eval [arg ...]"),
  ("exec", "exec [-cl] [-a name] [command [argument ...]] [redirection ...]"),
  ("exit", "exit [n]"),
  ("export", "export [-fn] [name[=value] ...] or export -p"),
  ("fg", "fg [job_spec]"),
  ("getopts", "getopts optstring name [arg ...]"),
  ("hash", "hash [-lr] [-p pathname] [-dt] [name ...]"),
  ("help", "help [-dms] [pattern ...]"),
  ("jobs", "jobs [-lnprs] [jobspec ...] or jobs -x command [args]"),
  ("kill", "kill [-s sigspec | -n signum | -sigspec] pid | jobspec ... or kill -l [sigspec]"),
  ("let", "let arg [arg ...]"),
  ("local", "local [option] name[=value] ..."),
  ("mapfile", "mapfile [-d delim] [-n count] [-O origin] [-s count] [-t] [-u fd] [-C callback] [-c quantum] [array]"),
  ("popd", "popd [-n] [+N | -N]"),
  ("printf", "printf [-v var] format [arguments]"),
  ("pushd", "pushd [-n] [+N | -N | dir]"),
  ("pwd", "pwd [-LP]"),
  ("read",
    "read [-ers] [-a array] [-d delim] [-i text] [-n nchars] [-N nchars] [-p prompt] [-t timeout] " ++
    "[-u fd] [name ...]"),
  ("readarray",
    "readarray [-d delim] [-n count] [-O origin] [-s count] [-t] [-u fd] [-C callback] [-c quantum] " ++
    "[array]"),
  ("readonly", "readonly [-aAf] [name[=value] ...] or readonly -p"),
  ("return", "return [n]"),
  ("set", "set [-abefhkmnptuvxBCEHPT] [-o option-name] [--] [-] [arg ...]"),
  ("shift", "shift [n]"),
  ("shopt", "shopt [-pqsu] [-o] [optname ...]"),
  ("source", "source filename [arguments]"),
  ("times", "times"),
  ("trap", "trap [-lp] [[arg] signal_spec ...]"),
  ("type", "type [-afptP] name [name ...]"),
  ("typeset", "typeset [-aAfFgiIlnrtux] name[=value] ... or typeset -p [-aAfFilnrtux] [name ...]"),
  ("ulimit", "ulimit [-SHabcdefiklmnpqrstuvxPRT] [limit]"),
  ("umask", "umask [-p] [-S] [mode]"),
  ("unalias", "unalias [-a] name [name ...]"),
  ("unset", "unset [-f] [-v] [-n] [name ...]"),
  ("wait", "wait [-fn] [-p var] [id ...]")]

/-- The line that shows how a builtin is called. -/
def usageOf (name : String) : String :=
  (usages.lookup name).getD name

end Shell.Machine.Script

/-! ## Options and numbers -/

namespace Shell.Machine.Script.ScriptM

/-- The options that a script may set, by name and letter. -/
def optionTable : List (String × Option Char) := [
  ("errexit", 'e'), ("noglob", 'f'), ("ignoreeof", 'I'), ("interactive", 'i'), ("monitor", 'm'),
  ("noexec", 'n'), ("stdin", 's'), ("xtrace", 'x'), ("verbose", 'v'), ("vi", 'V'), ("emacs", 'E'),
  ("noclobber", 'C'), ("allexport", 'a'), ("notify", 'b'), ("nounset", 'u'), ("privileged", 'p'),
  ("nolog", none), ("debug", none)]

/-- Writes what a builtin has to say. The status is 0 if that was possible. -/
def emit (text : String) : ScriptM Nat := do
  if text.isEmpty then return 0
  match ← ask (.write 1 (Octets.toBytes text)) with
  | .ok _ => return 0
  | .error error =>
    if ← isExtended then warn ("write error: " ++ error.text)
    else warn (((← get).builtin.getD "") ++ ": I/O error")
    return 1

/-- Shows how a builtin is called, and leaves it. -/
def advise {α : Type} : ScriptM α := do
  let name := ((← get).builtin).getD ""
  discard (write 2 (name ++ ": usage: " ++ usageOf name ++ "\n"))
  modify fun state => { state with status := 2 }
  jump .error

def number (text : String) : ScriptM Nat := do
  match Numeral.natural? text with
  | some value => if value < 2147483648 then return value else fail ("Illegal number: " ++ text)
  | none => fail ("Illegal number: " ++ text)

/-- Whether an option has a value; nothing if there is no such option. -/
def takesValue? (letter : Char) : List Char → Option Bool
  | [] => none
  | c :: ':' :: rest => if c = letter then some true else takesValue? letter rest
  | c :: rest => if c = letter then some false else takesValue? letter rest

def readLetters (known : String) :
    List Char → List String → List (Char × String) →
      ScriptM (List String × List (Char × String))
  | [], rest, sofar => return (rest, sofar)
  | letter :: letters, rest, sofar => do
    match takesValue? letter known.toList with
    | none =>
      if ← isExtended then
        warn ("-" ++ String.singleton letter ++ ": invalid option")
        advise
      else fail ("Illegal option -" ++ String.singleton letter)
    | some false => readLetters known letters rest ((letter, "") :: sofar)
    | some true =>
      if !letters.isEmpty then return (rest, (letter, String.ofList letters) :: sofar)
      else
        match rest with
        | value :: rest => return (rest, (letter, value) :: sofar)
        | [] =>
          if ← isExtended then
            warn ("-" ++ String.singleton letter ++ ": option requires an argument")
            advise
          else fail ("No arg for -" ++ String.singleton letter ++ " option")

/-- Reads the options at the start of arguments, of which there are at most so many. -/
def readOptionsFrom (known : String) :
    Nat → List String → List (Char × String) → ScriptM (List (Char × String) × List String)
  | 0, arguments, sofar => return (sofar.reverse, arguments)
  | _, [], sofar => return (sofar.reverse, [])
  | fuel + 1, argument :: rest, sofar => do
    match argument.toList with
    | ['-', '-'] => return (sofar.reverse, rest)
    | '-' :: letter :: letters =>
      let (rest, sofar) ← readLetters known (letter :: letters) rest sofar
      readOptionsFrom known fuel rest sofar
    | _ => return (sofar.reverse, argument :: rest)

/-- Reads the options at the start of arguments. `known` holds their letters, each with a `:` after
    it if the option has a value. -/
def readOptions (known : String) (arguments : List String) :
    ScriptM (List (Char × String) × List String) :=
  readOptionsFrom known (arguments.length + 1) arguments []

/-! ## Options of the script -/

/-- Sets an option or takes it away. Without a terminal there is no control over jobs. -/
def setOption (letter : Char) (value : Bool) : ScriptM Unit := do
  if value && (letter = 'i' || letter = 'm') then warn "can't access tty; job control turned off"
  if value && letter = 'm' then return
  if optionTable.any fun entry => entry.2 = some letter then
    modify fun state =>
      let others := state.options.filter (· ≠ letter)
      { state with options := if value then letter :: others else others }
  else fail ("Illegal option -" ++ String.singleton letter)

/-- Lists the options, readably or as commands that set them. -/
def listOptions (readable : Bool) : ScriptM String := do
  let state ← get
  let lines := optionTable.map fun (name, letter) =>
    let isOn := letter.any state.hasOption
    if readable then Numeral.padRight 15 name ++ " " ++ (if isOn then "on" else "off") ++ "\n"
    else "set " ++ (if isOn then "-o " else "+o ") ++ name ++ "\n"
  return (if readable then "Current option settings\n" else "") ++ String.join lines

def setNamedOption (name : Option String) (value : Bool) : ScriptM Unit := do
  match name with
  | none => discard (write 1 (← listOptions value))
  | some name =>
    match optionTable.lookup name with
    | some (some letter) => setOption letter value
    | some none => return
    | none => fail ("Illegal option -o " ++ name)

/-- What reading options of the script comes to. -/
structure SettingResult where
  rest : List String
  /-- Whether the parameters are to be replaced, even if nothing is left. -/
  replaces : Bool := false
  /-- Whether a command is given after the options. -/
  hasCommand : Bool := false

/-- Sets the options that letters stand for. What follows the arguments may name one. -/
def setLetters (atStart value : Bool) :
    List Char → List String → Bool → ScriptM (List String × Bool)
  | [], rest, hasCommand => return (rest, hasCommand)
  | letter :: letters, rest, hasCommand => do
    if letter = 'c' && atStart then setLetters atStart value letters rest true
    else if letter = 'l' && atStart then setLetters atStart value letters rest hasCommand
    else if letter = 'o' then
      setNamedOption rest.head? value
      setLetters atStart value letters (rest.drop 1) hasCommand
    else
      setOption letter value
      setLetters atStart value letters rest hasCommand

/-- Sets the options at the start of arguments, of which there are at most so many. -/
def setOptions (atStart : Bool) : Nat → List String → Bool → ScriptM SettingResult
  | 0, rest, hasCommand => return { rest, hasCommand }
  | _, [], hasCommand => return { rest := [], hasCommand }
  | fuel + 1, argument :: rest, hasCommand => do
    match argument.toList with
    | ['-'] =>
      if !atStart then
        modify fun state =>
          { state with options := state.options.filter fun letter => letter ≠ 'x' && letter ≠ 'v' }
      return { rest, hasCommand }
    | ['-', '-'] => return { rest, replaces := true, hasCommand }
    | '-' :: letters =>
      let (rest, hasCommand) ← setLetters atStart true letters rest hasCommand
      setOptions atStart fuel rest hasCommand
    | '+' :: letters =>
      let (rest, hasCommand) ← setLetters atStart false letters rest hasCommand
      setOptions atStart fuel rest hasCommand
    | _ => return { rest := argument :: rest, hasCommand }

end Shell.Machine.Script.ScriptM
