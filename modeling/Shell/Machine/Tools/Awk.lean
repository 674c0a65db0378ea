import Shell.Machine.Tools.Awk.Run
import Shell.Machine.Tools.Plain

/-! # A program for records

`awk` reads records and does with each of them what a program says.
-/

namespace Shell.Machine.ToolM

/-- What `awk` was called with. -/
structure RecordCall where
  /-- The files that hold the program. -/
  files : List String := []
  separator : Option String := none
  /-- The variables that are set before the program starts. -/
  settings : List String := []
  operands : List String := []
  /-- What is asked for instead of running a program. -/
  request : Option String := none

/-- Reads the arguments of `awk`. -/
def readRecordCall : Nat → RecordCall → List String → ToolM RecordCall
  | 0, found, _ => return found
  | _, found, [] => return found
  | fuel + 1, found, first :: rest => do
    if first = "--" then return { found with operands := rest }
    if first = "--version" || first = "--help" then return { found with request := some (first.drop 2).toString }
    match first.toList with
    | '-' :: letter :: attached =>
      if !(['f', 'F', 'v', 'W'].contains letter) then fail 2 ("not an option: " ++ first)
      let (value, rest) ← match attached, rest with
        | [], value :: rest => pure (value, rest)
        | [], [] => fail 2 ("option -" ++ String.singleton letter ++ " lacks argument")
        | attached, rest => pure (String.ofList attached, rest)
      let found : RecordCall := match letter with
        | 'f' => { found with files := found.files ++ [value] }
        | 'F' => { found with separator := some value }
        | 'v' => { found with settings := found.settings ++ [value] }
        | _ => if value.startsWith "v" then { found with request := some "version" }
          else if value.startsWith "h" || value.startsWith "u" then { found with request := some "help" }
          else found
      readRecordCall fuel found rest
    | _ => return { found with operands := first :: rest }

/-- How `awk` is called. -/
def recordUsage : String :=
  "\n".intercalate ["Usage: mawk [Options] [Program] [file ...]", "", "Program:",
    "    The -f option value is the name of a file containing program text.",
    "    If no -f option is given, a \"--\" ends option processing; the following",
    "    parameters are the program text.", "", "Options:",
    "    -f program-file  Program  text is read from file instead of from the",
    "                     command-line.  Multiple -f options are accepted.",
    "    -F value         sets the field separator, FS, to value.",
    "    -v var=value     assigns value to program variable var.",
    "    --               unambiguous end of options.", "",
    "    Implementation-specific options are prefixed with \"-W\".  They can be", "    abbreviated:", "",
    "    -W version       show version information and exit.",
    "    -W dump          show assembler-like listing of program and exit.",
    "    -W help          show this message and exit.",
    "    -W interactive   set unbuffered output, line-buffered input.",
    "    -W exec file     use file as program as well as last option.",
    "    -W random=number set initial random seed.",
    "    -W sprintf=number adjust size of sprintf buffer.",
    "    -W posix_space   do not consider \"\\n\" a space.",
    "    -W usage         show this message and exit.", ""]

/-- The version of `awk`. -/
def recordVersion : String :=
  "\n".intercalate ["mawk 1.3.4 20200120", "", "random-funcs:       srandom/random",
    "regex-funcs:        internal", "compiled limits:", "sprintf buffer      8192",
    "maximum-integer     2147483647", ""]

/-- The text of a program in files. -/
def readPrograms : List String → ToolM String
  | [] => return ""
  | path :: rest => do
    match ← openInput path with
    | .error error => fail 2 ("cannot open \"" ++ path ++ "\" (" ++ error.text ++ ")")
    | .ok descriptor =>
      let (text, _) ← readAll descriptor
      closeInput descriptor
      let text := if text.endsWith "\n" then text else text ++ "\n"
      return text ++ (← readPrograms rest)

/-- The variables that a program has from the beginning. -/
def recordVariables (name : String) (operands environment : List String) (settings : List (String × String)) :
    Awk.AwkM Unit := do
  let set (name : String) (value : Awk.Value) : Awk.AwkM Unit := Awk.AwkM.setGlobal name (.value value)
  for (name, text) in [("FS", " "), ("OFS", " "), ("ORS", "\n"), ("RS", "\n"), ("SUBSEP", "\x1c"),
      ("CONVFMT", "%.6g"), ("OFMT", "%.6g"), ("FILENAME", "")] do
    set name (.text text)
  for name in ["NR", "FNR", "RSTART"] do
    set name (.number 0)
  set "RLENGTH" (.number (-1))
  set "ARGC" (.number (Float.ofNat (operands.length + 1)))
  let arguments ← Awk.AwkM.arrayOf (.global "ARGV")
  for (text, place) in (name :: operands).zipIdx do
    Awk.AwkM.withArray arguments fun table => ((), table.put (.number place) (Awk.AwkM.ofInput text))
  let settingsOf ← Awk.AwkM.arrayOf (.global "ENVIRON")
  for entry in environment do
    let name := nameOf entry
    let value := Awk.AwkM.ofInput (entry.drop (name.length + 1)).toString
    Awk.AwkM.withArray settingsOf fun table => ((), table.put (.text name) value)
  for (name, text) in settings do
    Awk.AwkM.assignText name text
  let now ← Awk.AwkM.seconds
  discard (Awk.AwkM.reseed (.number (Float.ofInt now)))

/-- Does with records what a program says. -/
def awk : ToolM Unit := do
  modify fun tool => { tool with name := lastName tool.name }
  let tool ← get
  let call ← readRecordCall (tool.arguments.length + 1) {} tool.arguments
  match call.request with
  | some "version" =>
    print recordVersion
    quit 0
  | some _ =>
    discard (ask (.write 2 (Octets.toBytes recordUsage)))
    quit 0
  | none => pure ()
  let settings ← call.settings.mapM fun text => do
    match Awk.AwkM.assignment? text with
    | some setting => return setting
    | none => fail 2 ("improper assignment: -v " ++ text)
  let (text, operands) ← match call.files, call.operands with
    | [], [] => do
      discard (ask (.write 2 (Octets.toBytes recordUsage)))
      quit 2
    | [], text :: operands => pure (text, operands)
    | files, operands => do pure (← readPrograms files, operands)
  match Awk.Program.read text with
  | .error fault =>
    for text in fault.reports do
      report text
    quit 2
  | .ok program =>
    let separator := call.separator.toList.map fun text => ("FS", text)
    let whole : Awk.AwkM Unit := do
      recordVariables tool.name operands tool.environment (separator ++ settings)
      Awk.AwkM.runProgram program
    let world : Awk.World := { functions := program.functions }
    discard ((whole.run).run world)

end Shell.Machine.ToolM
