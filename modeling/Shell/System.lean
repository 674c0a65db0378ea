import Shell.Config
import Shell.Process.Host

/-! # Systems

What the program needs besides a host for its commands: a place to read from and two to write to, texts in
files, an environment, and a reader of TOML documents. It is the same program on every system.
-/

namespace Shell

/-- A system that the program runs on; `σ` is the state that it is in. -/
structure System (σ : Type) extends Host σ where
  print : String → StateM σ Unit
  printError : String → StateM σ Unit
  /-- Reads all that is left of the input. -/
  readInput : StateM σ (Except ReadError String)
  /-- Reads the text in the file that a path leads to. -/
  readText : String → StateM σ (Except ReadError String)
  /-- What the program finds in its environment, in the order of the names. -/
  environment : σ → List (String × String)
  /-- Where the configuration is kept, if there is a place for it. -/
  configPath : σ → Option String
  readToml : Toml.Parser
  /-- The number of the process that the program runs in. -/
  processId : String

end Shell
