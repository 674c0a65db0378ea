import Shell.CommandLine
import Shell.Machine.Host
import Shell.Machine.Octets
import Shell.Machine.Process
import Shell.Machine.Toml

/-! # Machines as systems

One system that the program can run on: its input and its outputs are the first pipes of a machine, and its files
and environment are those of the machine. Nothing of the program depends on machines; they stand for what it
finds around it, so that it can be run whole.
-/

namespace Shell

namespace Machine

/-! ## Reading and writing -/

/-- Writes a text to one of the outputs of the shell. -/
def print (pipe : Nat) (text : String) : Action Unit :=
  modifyPipe pipe fun pipe => { pipe with content := pipe.content ++ text.toUTF8 }

/-- All that has been written to one of the outputs. What is no text counts as `U+FFFD`. -/
def printed (pipe : Nat) (machine : Machine) : String :=
  match machine.pipes[pipe]? with
  | some pipe => Octets.render (pipe.content.extract pipe.taken pipe.content.size)
  | none => ""

def readInput : Action ByteArray :=
  modifyGet fun machine =>
    match machine.pipes[0]? with
    | some pipe =>
      (pipe.content.extract pipe.taken pipe.content.size,
        { machine with pipes := machine.pipes.modify 0 fun pipe => { pipe with content := .empty, taken := 0 } })
    | none => (.empty, machine)

/-- Reads the bytes of the file that a path leads to. -/
def readBytes (path : String) : Action (Except ReadError ByteArray) := do
  if path.contains '\x00' then return .error .badName
  let machine ← get
  match machine.files.find machine.directory (Octets.ofString path) true with
  | .error error => return .error (.system error)
  | .ok id =>
    match (machine.files.node? id).map FileNode.kind with
    | some (.plain bytes) => return .ok bytes
    | some (.directory _ _) => return .error (.system .isDirectory)
    | some (.device .terminal) => return .error (.system .noDevice)
    | some (.device (.descriptor 0)) => return .ok (← readInput)
    | _ => return .ok .empty

/-- Reads the text in the file that a path leads to. -/
def readText (path : String) : Action (Except ReadError String) := do
  match ← readBytes path with
  | .error error => return .error error
  | .ok bytes =>
    match String.fromUTF8? bytes with
    | some text => return .ok text
    | none => return .error .notText

/-- Puts a text into a file in the place of what is there. A file that is not there is made. -/
def writeText (path text : String) : Action Unit :=
  modify fun machine =>
    match machine.files.locate machine.directory (Octets.ofString path) true with
    | .error _ => machine
    | .ok { file := some id, .. } =>
      { machine with files := machine.files.modifyBytes id machine.clock fun _ => text.toUTF8 }
    | .ok place =>
      let node : FileNode := { kind := .plain text.toUTF8, mode := 0o644, modified := machine.clock }
      { machine with files := (machine.files.add place node).2 }

/-! ## The system -/

/-- The directory of a user whose environment does not name it. -/
def defaultHome : String := "/root"

/-- Where the configuration of the user of a machine is. -/
def configPath (machine : Machine) : String :=
  let home :=
    match machine.environment.get? "HOME" with
    | some path => if path.isEmpty then defaultHome else path
    | none => defaultHome
  let base :=
    match machine.environment.get? "XDG_CONFIG_HOME" with
    | some path => if path.startsWith "/" then path else Search.join home ".config"
    | none => Search.join home ".config"
  Search.join base "tern/config.toml"

/-- Reads all the input that is left as a text. -/
def readInputText : Action (Except ReadError String) := do
  match String.fromUTF8? (← readInput) with
  | some text => return .ok text
  | none => return .error .notText

def system : System Machine where
  toHost := host
  print := print 1
  printError := print 2
  readInput := readInputText
  readText := readText
  environment machine := machine.environment.toList
  configPath machine := some machine.configPath
  readToml := Toml.read?
  processId := toString shellNumber

end Machine

/-- The configuration in a file of a machine, given what there is to read in it. -/
def Config.ofFile : String → Except ReadError String → Except ConfigError Config :=
  Config.ofContent Machine.Toml.read?

/-- Runs the program on a machine. What was started and not waited for comes to its end as well. -/
def CommandLine.execute (arguments : List String) : Machine.Action Int := do
  let code ← CommandLine.runArguments Machine.system arguments
  Machine.settle Machine.patience
  return code

end Shell
