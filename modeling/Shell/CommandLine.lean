import Shell.CommandLine.Failure
import Shell.Eval.Evaluate
import Shell.System

/-! # The command line

What the program can be asked to do: list the tokens of a script, evaluate an expression, or run one command.
It does so on any system.
-/

namespace Shell

/-- Where a script is. -/
inductive Source where
  | input
  | text (script : String)
  | file (path : String)
deriving Repr, DecidableEq, Inhabited

/-- What the program is asked to do. -/
inductive CommandLine where
  | help
  | version
  | tokens (source : Source)
  /-- Evaluates an expression with variables bound, and shows those afterwards. -/
  | arithmetic (expr : String) (bindings : List Assignment)
  | exec (command : Command)
  | unknown (name : String)
deriving Inhabited

namespace CommandLine

/-! ## Reading -/

/-- The source that the arguments of `tokens` name. -/
def readSource : List String → Except Failure Source
  | [] => .ok .input
  | ["-c", script] => .ok (.text script)
  | ["-c"] => .error .noScript
  | [path] => .ok (.file path)
  | _ => .error .manyScripts

def readBinding (text : String) : Except Failure Assignment :=
  match Assignment.ofText? text with
  | some binding => .ok binding
  | none => .error (.notABinding text)

/-- The expression and the bindings for `arith`. -/
def readArithmetic : List String → Except Failure CommandLine
  | [] => .error .noExpression
  | expr :: bindings => do return .arithmetic expr (← bindings.mapM readBinding)

/-- Divides arguments into bindings and the words after them. -/
def divide : List String → List Assignment × List String
  | [] => ([], [])
  | argument :: rest =>
    match Assignment.ofText? argument with
    | none => ([], argument :: rest)
    | some binding =>
      let (bindings, words) := divide rest
      (binding :: bindings, words)

/-- The command that the arguments of `exec` stand for. -/
def readCommand (arguments : List String) : Except Failure Command := do
  let (bindings, words) := divide arguments
  if words.isEmpty then throw .noCommand
  let assignments ← (bindings.mapM Argument.readBinding).mapError Failure.argument
  let words ← (words.mapM Argument.read).mapError Failure.argument
  return { assignments, words }

/-- What the program is asked to do by its arguments. -/
def ofArguments : List String → Except Failure CommandLine
  | [] => .ok .help
  | "--help" :: _ => .ok .help
  | "-h" :: _ => .ok .help
  | "--version" :: _ => .ok .version
  | "-V" :: _ => .ok .version
  | "tokens" :: rest => do return .tokens (← readSource rest)
  | "arith" :: rest => readArithmetic rest
  | "exec" :: rest => do return .exec (← readCommand rest)
  | name :: _ => .ok (.unknown name)

/-! ## Texts -/

def versionText : String := "0.1.0"

/-- What the program says about itself. -/
def helpText : String :=
  "tern v" ++ versionText ++ "

Usage:
  tern tokens [-c TEXT | FILE]         Print the token stream of a script
  tern arith EXPR [NAME=VALUE ...]     Evaluate an arithmetic expression
  tern exec [NAME=VALUE ...] WORD ...  Run one command and exit with its status

Options:
  -h, --help                           Show this help
  -V, --version                        Show version

Without -c or FILE, `tokens` reads the script from stdin.
Configuration is read from the platform config directory (tern/config.toml).

Examples:
  tern tokens -c 'if true; then echo \"$HOME\"; fi'
  tern arith 'y = x += 2' x=4 y=0
  tern exec GREETING=hi sh -c 'echo \\$GREETING is $HOME'
"

def tokenLine (item : Item) : String :=
  let head := toString item.start.line ++ ":" ++ toString item.start.offset ++ " " ++ item.token.name
  let value := if item.value.isEmpty then "" else " " ++ Text.bare item.value
  let subs := item.subs.map fun sub => " [" ++ sub.render ++ "]"
  head ++ value ++ String.join subs

/-! ## Running -/

section

variable {σ : Type} (system : System σ)

/-- A part of a run, which may fail after it has printed something. -/
abbrev Run (σ : Type) := ExceptT Failure (StateM σ)

def printLine (line : String) : StateM σ Unit :=
  system.print (line ++ "\n")

/-- The configuration that the system keeps. A file that is not there stands for the defaults. -/
def config : Run σ Config := do
  match system.configPath (← get) with
  | none => throw .noConfigDirectory
  | some path =>
    if system.pathExists (← get) path then
      match Config.ofContent system.readToml path (← system.readText path) with
      | .ok config => return config
      | .error cause => throw (.config cause)
    else return {}

def readScript : Source → Run σ String
  | .input => do
    match ← system.readInput with
    | .ok script => return script
    | .error cause => throw (.input cause)
  | .text script => return script
  | .file path => do
    match ← system.readText path with
    | .ok script => return script
    | .error cause => throw (.script path cause)

/-- Prints tokens up to the first error. -/
def printTokens : List (Except ScanError Item) → Run σ Unit
  | [] => return
  | .error cause :: _ => throw (.scan cause)
  | .ok item :: rest => do
    printLine system (tokenLine item)
    printTokens rest

/-- Prints the value of an expression and then its variables. -/
def runArithmetic (expr : String) (bindings : List Assignment) : Run σ Int := do
  let scope := bindings.foldl
    (fun scope binding => scope.set binding.name binding.value.raw) Scope.empty
  let (outcome, scope) := Arith.perform expr scope
  match outcome with
  | .error cause => throw (.arithmetic expr cause)
  | .ok value =>
    printLine system (Arith.Numeral.render value)
    for binding in bindings do
      printLine system (binding.name ++ "=" ++ (scope.get? binding.name).getD "")
    return if value = 0 then 1 else 0

/-- The world of a command that is run on a system. Nothing in it runs scripts. -/
def world : World (Launcher σ) Unit where
  spawner := Launcher.spawner system.toHost
  substituter := none
  processId := system.processId

def runCommand (command : Command) : Run σ Int := do
  let settings := (← config system).spawn
  let host ← get
  let session : Session (Launcher σ) Unit :=
    { scope := Scope.ofVariables (system.environment host)
      spawner := { settings, host }, substituter := () }
  let (answer, session) := ((EvalM.evaluate (world system) 0 (.command command)).run).run session
  set session.spawner.host
  match answer with
  | .ok status => return max 0 (min status.code 255)
  | .error fault => throw (.evaluation fault)

/-- Does what the program is asked to do. The answer is the status it ends with. -/
def run : CommandLine → Run σ Int
  | help => do
    printLine system helpText
    return 0
  | version => do
    printLine system ("tern " ++ versionText)
    return 0
  | tokens source => do
    let script ← readScript system source
    printTokens system (tokenize script (← config system).stream)
    return 0
  | arithmetic expr bindings => runArithmetic system expr bindings
  | exec command => runCommand system command
  | unknown name => do
    system.printError ("Unknown command: " ++ name ++ "\nRun 'tern --help' for usage.\n")
    return 1

/-- Runs the program with arguments, reports what fails and returns the status it ends with. -/
def runArguments (arguments : List String) : StateM σ Int := do
  let attempt : Run σ Int := do
    match ofArguments arguments with
    | .ok commandLine => run system commandLine
    | .error failure => throw failure
  match ← attempt.run with
  | .ok code => return code
  | .error failure =>
    system.printError failure.report
    return 1

end

end CommandLine

end Shell
