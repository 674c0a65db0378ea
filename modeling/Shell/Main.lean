import Shell.Machine.Fresh

/-! # The program

Runs the command line on a machine that holds the files it names.
-/

open Shell

/-- Copies a file of the real system, if it can be read. -/
def copyFile (machine : Machine) (path : String) : IO Machine := do
  try
    let content ← IO.FS.readBinFile path
    return machine.addEntry path (.file 0o644 content)
  catch _ => return machine

/-- The names of the variables that matter to the program itself. -/
def ownVariables : List String := ["HOME", "PATH", "XDG_CONFIG_HOME"]

/-- The variables among some names that are set. -/
def readEnvironment (names : List String) : IO (List (String × String)) := do
  let values ← names.mapM fun name => do return (name, ← IO.getEnv name)
  return values.filterMap fun (name, value) => value.map (name, ·)

/-- Runs the program with its arguments. -/
def main (arguments : List String) : IO UInt32 := do
  let environment ← readEnvironment ownVariables
  let directory := (← IO.currentDir).toString
  let input ←
    if arguments = ["tokens"] then (← IO.getStdin).readToEnd else pure ""
  let machine := Machine.fresh directory environment input
  let paths := machine.configPath :: arguments.drop 1
  let machine ← paths.foldlM copyFile machine
  let (code, machine) := (CommandLine.execute arguments).run machine
  (← IO.getStdout).putStr (machine.printed 1)
  (← IO.getStderr).putStr (machine.printed 2)
  return code.toNat.toUInt32
