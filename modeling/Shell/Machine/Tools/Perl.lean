import Shell.Machine.Tools.Perl.Run
import Shell.Machine.Tools.Environment

/-! # A program for general programs

`perl` runs a program that is given as an argument, as a file, or as its input. Letters say that the program is done
for each line of its input.
-/

namespace Shell.Machine.ToolM

/-- What `perl` was called with. -/
structure ProgramCall where
  /-- The lines of the program. -/
  lines : Option (List String) := none
  /-- The modules that are asked for before the program starts. -/
  modules : List String := []
  loops : Bool := false
  prints : Bool := false
  divides : Bool := false
  separator : Option String := none
  /-- Whether the ends of lines are taken away. -/
  shortens : Bool := false
  /-- What ends the lines of the input; nothing ends them if there is no text. -/
  inputEnd : Option String := some "\n"
  outputEnd : Option String := none
  inPlace : Option String := none
  newer : Bool := false
  checks : Bool := false
  /-- Whether the first operands set variables. -/
  sets : Bool := false
  /-- Whether the program begins after other lines. -/
  skips : Bool := false
  places : List String := []
  shown : Option String := none
  operands : List String := []

/-- The status of a complaint about an argument, which tells what the input is like. -/
def misuseStatus : ToolM Nat := do
  match ← ask (.inspectOpen 0) with
  | .ok info => return if info.sort = .pipe then 29 else 25
  | .error _ => return 25

/-- Ends with a complaint. -/
def stop {α : Type} (code : Nat) (text : String) : ToolM α := do
  flush
  discard (ask (.write 2 (Octets.toBytes text)))
  quit code

def lineEnd (digits : List Char) : Option String :=
  let (value, _, _) := match digits with
    | 'x' :: rest => Numeral.digits 16 rest.length 0 0 rest
    | 'X' :: rest => Numeral.digits 16 rest.length 0 0 rest
    | digits => Numeral.digits 8 digits.length 0 0 digits
  if digits.isEmpty then some "\x00"
  else if value = 0 then some ""
  else if 0o400 ≤ value && digits.head? ≠ some 'x' then none
  else some (String.singleton (Char.ofNat (value % 256)))

def moduleLine (silent : Bool) (text : String) : String :=
  let (word, text) := if text.startsWith "-" then ("no ", (text.drop 1).toString) else ("use ", text)
  match text.splitOn "=" with
  | [name] => word ++ name ++ (if silent then " ();" else ";")
  | name :: names => word ++ name ++ " qw(" ++ ("=".intercalate names).replace "," " " ++ ");"
  | [] => ""

/-- Goes through the letters of an argument. The result says whether the next argument has been used. -/
def readLetters : Nat → ProgramCall → List Char → List String → ToolM (ProgramCall × Bool)
  | 0, found, _, _ => return (found, false)
  | _, found, [], _ => return (found, false)
  | fuel + 1, found, letter :: rest, others => do
    let goOn (found : ProgramCall) (rest : List Char) : ToolM (ProgramCall × Bool) :=
      readLetters fuel found rest others
    let valued (missing : String) (change : String → ProgramCall) : ToolM (ProgramCall × Bool) := do
      match rest, others with
      | [], value :: _ => return (change value, true)
      | [], [] => stop (← misuseStatus) missing
      | rest, _ => return (change (String.ofList rest), false)
    match letter with
    | 'e' | 'E' =>
      valued ("No code specified for -" ++ String.singleton letter ++ ".\n") fun text =>
        { found with lines := some (found.lines.getD [] ++ [text]), newer := found.newer || letter = 'E' }
    | 'n' => goOn { found with loops := true } rest
    | 'p' => goOn { found with loops := true, prints := true } rest
    | 'a' => goOn { found with loops := true, divides := true } rest
    | 'c' => goOn { found with checks := true } rest
    | 's' => goOn { found with sets := true } rest
    | 'x' => return ({ found with skips := true }, false)
    | 'w' | 'W' | 'X' | 't' | 'T' | 'u' | 'U' | 'S' | 'f' => goOn found rest
    | 'l' =>
      let digits := rest.takeWhile Char.isDigit
      let ending := if digits.isEmpty then found.inputEnd else lineEnd digits
      goOn { found with shortens := true, outputEnd := ending } (rest.drop digits.length)
    | '0' =>
      let isHex := rest.head?.any fun c => c = 'x' || c = 'X'
      let digits := if isHex then 'x' :: (rest.drop 1).takeWhile fun c => (Numeral.digit? 16 c).isSome
        else rest.takeWhile Char.isDigit
      goOn { found with inputEnd := lineEnd digits } (rest.drop digits.length)
    | 'i' => return ({ found with inPlace := some (String.ofList rest) }, false)
    | 'F' => return ({ found with loops := true, divides := true, separator := some (String.ofList rest) }, false)
    | 'I' => valued "No directory specified for -I\n" fun text => { found with places := found.places ++ [text] }
    | 'M' | 'm' =>
      if rest.isEmpty then stop (← misuseStatus) ("Missing argument to -" ++ String.singleton letter ++ "\n")
      let line := moduleLine (letter = 'm') (String.ofList rest)
      return ({ found with modules := found.modules ++ [line] }, false)
    | 'C' | 'D' | 'd' => return (found, false)
    | 'v' => return ({ found with shown := some "version" }, false)
    | '-' => if rest.isEmpty then return (found, false) else goOn found rest
    | ' ' | '\t' | '\r' => goOn found (if rest.head? = some '-' then rest.drop 1 else rest)
    | letter =>
      stop (← misuseStatus)
        ("Unrecognized switch: -" ++ String.ofList (letter :: rest) ++ "  (-h will show valid options).\n")

/-- Reads the arguments of `perl`. -/
def readProgramCall : Nat → ProgramCall → List String → ToolM ProgramCall
  | 0, found, _ => return found
  | _, found, [] => return found
  | fuel + 1, found, first :: rest => do
    match first.toList with
    | ['-', '-'] => return { found with operands := rest }
    | '-' :: letter :: letters => do
      let (found, used) ← readLetters (first.length + 1) found (letter :: letters) rest
      readProgramCall fuel found (if used then rest.drop 1 else rest)
    | _ => return { found with operands := first :: rest }

/-- The version of `perl`. -/
def programVersion : String :=
  "\nThis is perl 5, version 36, subversion 0 (v5.36.0) built for x86_64-linux-gnu-thread-multi\n"

/-- The lines of a script from one on that names `perl`. -/
def scriptLines (text : String) : String :=
  "\n".intercalate ((text.splitOn "\n").dropWhile fun line =>
    !(line.startsWith "#!" && 1 < (line.splitOn "perl").length))

/-- What comes before a program and after it, so that it is done for each line. -/
def surrounded (call : ProgramCall) (text : String) : String :=
  let divide := match call.separator with
    | none => "our @F=split(' ');"
    | some separator =>
      if separator.startsWith "/" || separator.startsWith "\"" || separator.startsWith "'" then
        "our @F=split(" ++ separator ++ ");"
      else "our @F=split(q\x01" ++ separator ++ "\x01);"
  let before := String.join call.modules ++
    (if call.loops then
      "LINE: while (<>) \x7b" ++ (if call.shortens then "chomp;" else "") ++ (if call.divides then divide else "")
    else "")
  let after := if !call.loops then ""
    else if call.prints then ";\x7d continue \x7b die \"-p destination: $!\\n\" unless print $_; \x7d"
    else ";\x7d"
  before ++ "\n" ++ text ++ after

/-- The text of a program, and what it is called. -/
def programText (call : ProgramCall) : ToolM (String × String × ProgramCall) := do
  match call.lines with
  | some lines => return (String.join (lines.map (· ++ "\n")), "-e", call)
  | none =>
    let (path, operands) := match call.operands with
      | [] => ("-", [])
      | path :: operands => (path, operands)
    let (text, path) : String × String ←
      if path = "-" then do
        pure ((← readAll 0).1, "-")
      else do
        match ← openInput path with
        | .error error => stop 2 ("Can't open perl script \"" ++ path ++ "\": " ++ error.text ++ "\n")
        | .ok descriptor => do
          let (text, failure) ← readAll descriptor
          if let some error := failure then
            stop 25 ("Can't open perl script \"" ++ path ++ "\": " ++ error.text ++ "\n")
          closeInput descriptor
          pure (text, path)
    let text := if call.skips then scriptLines text else text
    let first := (text.splitOn "\n").headD ""
    let call := { call with operands }
    match first.splitOn "perl" with
    | start :: _ :: _ =>
      if start.startsWith "#!" then
        let words := ((first.splitOn " ").drop 1).filter fun word => word.startsWith "-"
        let call ← readProgramCall (words.length + 1) { call with operands := [] } words
        return (text, path, { call with operands })
      else return (text, path, call)
    | _ => return (text, path, call)

def programVariables (call : ProgramCall) (file : String) (environment : List String) : Perl.PerlM Unit := do
  for (name, place) in ["STDIN", "STDOUT", "STDERR"].zipIdx do
    discard (Perl.PerlM.makeHandle { name, descriptor := some place, writes := 0 < place, isOpen := true })
    Perl.PerlM.bindGlobal ⟨.handle, name⟩ place
  let now : Nat ← Perl.PerlM.ask .clock
  let text (text : String) : Perl.Value := .string text
  let ending (ending : Option String) : Perl.Value := (ending.map text).getD .undefined
  for (name, value) in [("/", ending call.inputEnd), ("\\", ending call.outputEnd), ("\"", text " "),
      (";", text "\x1c"), ("0", text file), ("@", text ""), ("!", .dual 0 ""), ("?", .whole 0), ("^W", .whole 0),
      ("^O", text "linux"), ("]", text "5.036000"), ("^V", text "v5.36.0"), ("^X", text "/usr/bin/perl"),
      ("^T", .whole (now / 1000000 : Nat)), ("|", .whole 0)] do
    Perl.PerlM.setSpecial name value
  let fill (name : String) (texts : List String) : Perl.PerlM Unit := do
    Perl.PerlM.setArray (← Perl.PerlM.mainVariable .array name) (← Perl.PerlM.makeCells (texts.map text).toArray)
  fill "INC" (call.places ++ Perl.PerlM.modulePlaces)
  let pairs := environment.flatMap fun entry =>
    [text (nameOf entry), text (entry.drop ((nameOf entry).length + 1)).toString]
  Perl.PerlM.fillHash (← Perl.PerlM.mainVariable .hash "ENV") pairs
  let isSetting (operand : String) : Bool := call.sets && operand.startsWith "-" && operand ≠ "-" && operand ≠ "--"
  let settings := call.operands.takeWhile isSetting
  for setting in settings do
    let name := nameOf (setting.drop 1).toString
    let value : Perl.Value := if setting.contains '=' then text (setting.drop (name.length + 2)).toString else .whole 1
    Perl.PerlM.setSpecial name value
  let rest := call.operands.drop settings.length
  fill "ARGV" (if call.sets && rest.head? = some "--" then rest.drop 1 else rest)

/-- Runs a general program. -/
def perl : ToolM Unit := do
  let tool ← get
  let call ← readProgramCall (tool.arguments.length + 1) {} tool.arguments
  if call.shown.isSome then
    print programVersion
    quit 0
  let (text, file, call) ← programText call
  let source : Perl.Source := { input := (surrounded call text).toList, file, line := 0, newer := call.newer }
  match Perl.Program.read source with
  | .error fault => stop 255 (String.join fault.reports)
  | .ok program =>
    if call.checks then stop 0 (file ++ " syntax OK\n")
    let whole : Perl.PerlM Nat := do
      programVariables call file tool.environment
      Perl.PerlM.runProgram program
    let world : Perl.World := { file, inPlace := call.inPlace }
    let (result, _) ← (whole.run).run world
    match result with
    | .ok code => quit code
    | .error _ => quit 255

end Shell.Machine.ToolM
