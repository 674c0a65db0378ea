import Shell.Machine.Octets
import Shell.Machine.Storage
import Shell.Text.Space

/-! # Programs in files

What there is to execute in a file. A file begins with a mark and the name of a program, or with `#!` and the
path of the program that it is for.
-/

namespace Shell.Machine

/-- The programs of a machine: what each does with its arguments, the first of which is its name. -/
abbrev Programs := String → List String → List String → Behaviour

/-- What the file of a program begins with. -/
def programMark : String := "\x7fELF"

/-- What a file contains for a machine that is to execute it. -/
inductive Executable where
  | program (name : String)
  /-- A script with the path of its interpreter and an argument for that. -/
  | script (interpreter : String) (argument : Option String)
  | unknown
deriving Repr, DecidableEq, Inhabited

/-- True for what separates an interpreter from its argument. -/
def isLineBlank (c : Char) : Bool :=
  c = ' ' || c = '\t'

/-- The first line of a script is only looked at so far. -/
def maxFirstLine : Nat := 254

def executable (content : ByteArray) : Executable :=
  let text := (Octets.ofBytes (content.extract 0 (maxFirstLine + 2))).toList
  match Text.after? programMark.toList text, text with
  | some name, _ => .program (String.ofList name)
  | none, '#' :: '!' :: rest =>
    let line := (rest.takeWhile (· ≠ '\n')).dropWhile isLineBlank
    let (interpreter, argument) := line.span (!isLineBlank ·)
    let argument := (argument.dropWhile isLineBlank).reverse.dropWhile isLineBlank |>.reverse
    if interpreter.isEmpty then .unknown
    else
      .script (String.ofList interpreter)
        (if argument.isEmpty then none else some (String.ofList argument))
  | none, _ => .unknown

/-- The program that a path stands for, with its arguments. Scripts may be nested so deep. -/
def load (files : FileTree) (directory : FileId) (path : String) (arguments : List String) :
    Nat → Except SystemError (String × List String)
  | 0 => .error .tooManyLinks
  | depth + 1 => do
    let id ← files.find directory path true
    match files.node? id with
    | some { kind := .plain content, mode, .. } =>
      if mode &&& 0o111 = 0 then throw .denied
      match executable content with
      | .program name => return (name, arguments)
      | .script interpreter argument =>
        load files directory interpreter
          (interpreter :: argument.toList ++ path :: arguments.drop 1) depth
      | .unknown => throw .notAProgram
    | _ => throw .denied

/-- A script may have an interpreter that is a script, and so on, so often. -/
def maxInterpreters : Nat := 6

/-- An argument is shorter than this. -/
def maxArgument : Nat := 131072

/-- What all arguments together may take up. -/
def maxArguments : Nat := 2097152

/-- True when arguments are not too long for a program. -/
def fits (texts : List String) : Bool :=
  texts.all (fun text => text.length < maxArgument) &&
    texts.foldl (fun sum text => sum + text.length + 9) 0 ≤ maxArguments

/-- The behaviour of the program that a path stands for. -/
def behaviourOf (programs : Programs) (machine : Machine) (directory : FileId) (path : String)
    (arguments environment : List String) : Except SystemError Behaviour := do
  let (name, arguments') ← load machine.files directory path arguments maxInterpreters
  if !fits (arguments ++ environment) then throw .argumentsTooLong
  return programs name arguments' environment

/-- Makes a process become another program. -/
def execute (programs : Programs) (number : Nat) (path : String)
    (arguments environment : List String) : Action (Attempt SystemError) := do
  let directory ← directoryOf number
  match behaviourOf programs (← get) directory path arguments environment with
  | .error error => return .reply error
  | .ok behaviour =>
    let descriptors := ((← process? number).map Process.descriptors).getD []
    for (descriptor, entry) in descriptors do
      if entry.closes then discard (close number descriptor)
    modifyProcess number fun process =>
      { process with
        behaviour
        arranged := process.arranged.filter fun entry => entry.2 = .ignored
        kept := [] }
    return .gone

end Shell.Machine
