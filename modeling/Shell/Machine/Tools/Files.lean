import Shell.Machine.Tools.Plain
import Shell.Machine.Utility.Calendar
import Shell.Machine.Utility.Permissions

/-! # Programs for files

Programs that list, make, move and remove files.
-/

namespace Shell.Machine.ToolM

/-- The file that a path leads to, if it leads to one. -/
def inspect? (path : String) (follow : Bool) : ToolM (Option FileInfo) := do
  match ← ask (.inspect path follow) with
  | .ok info => return some info
  | .error _ => return none

def isDirectory (path : String) : ToolM Bool := do
  return (← inspect? path true).any fun info => info.sort = .directory

def inside (directory name : String) : String :=
  if directory.endsWith "/" then directory ++ name else directory ++ "/" ++ name

/-- The names in a directory, in order. -/
def namesIn (path : String) : ToolM (Except SystemError (List String)) := do
  match ← ask (.list path) with
  | .ok names => return .ok names.mergeSort
  | .error error => return .error error

/-- How deep directories are nested at most. -/
def maxDepth : Nat := 4096

/-! ## Removing -/

/-- Asks a question, which is answered by a line of the input. -/
def confirm (question : String) : ToolM Bool := do
  flush
  discard (ask (.write 2 (Octets.toBytes ((← get).name ++ ": " ++ question ++ "? "))))
  match ← readLine 0 newline patience .empty with
  | .ok answer => return (Octets.ofBytes answer).toList.head?.any fun c => c = 'y' || c = 'Y'
  | .error _ => return false

/-- Removes a file, or a directory with all that is in it. -/
def removeTree (arguments : Arguments) : Nat → String → ToolM Unit
  | 0, _ => return
  | depth + 1, path => do
    let refuse (error : SystemError) : ToolM Unit :=
      complain ("cannot remove " ++ Quote.always path ++ ": " ++ error.text)
    let mayDo (question : String) : ToolM Bool :=
      if arguments.has "i" then confirm (question ++ " " ++ Quote.always path) else pure true
    match ← ask (.inspect path false) with
    | .error error => if !(arguments.has "f" && (error = .missing || error = .notADirectory)) then refuse error
    | .ok info =>
      if info.sort = .directory then
        if arguments.has "r" then
          match ← namesIn path with
          | .error error => refuse error
          | .ok names =>
            if !names.isEmpty then
              if !(← mayDo "descend into directory") then return
            for name in names do
              removeTree arguments depth (inside path name)
            if !(← mayDo "remove directory") then return
            match ← ask (.removeDirectory path) with
            | .ok _ =>
              if arguments.has "v" then print ("removed directory " ++ Quote.always path ++ "\n")
            | .error error => refuse error
        else if arguments.has "d" then
          if !(← mayDo "remove directory") then return
          match ← ask (.removeDirectory path) with
          | .ok _ => if arguments.has "v" then print ("removed directory " ++ Quote.always path ++ "\n")
          | .error error => refuse error
        else refuse .isDirectory
      else
        let kind := match info.sort with
          | .link => "symbolic link"
          | .device => "character special file"
          | .pipe => "fifo"
          | _ => if info.size = 0 then "regular empty file" else "regular file"
        if !(← mayDo ("remove " ++ kind)) then return
        match ← ask (.remove path) with
        | .ok _ => if arguments.has "v" then print ("removed " ++ Quote.always path ++ "\n")
        | .error error => refuse error

/-- Removes files. -/
def rm : ToolM Unit := do
  let arguments ← readArguments 1 false
    ["f,force", "r,recursive", "R,", "d,dir", "v,verbose", "i,", "I,", ",no-preserve-root",
      ",preserve-root,?", ",interactive,?", ",one-file-system"]
  let asks : Option String := (arguments.options.reverse.findSome? fun option =>
    match option.name, option.value with
    | "f", _ | "interactive", "never" | "interactive", "no" | "interactive", "none" => some ""
    | "i", _ | "interactive", "always" | "interactive", "yes" | "interactive", "" => some "i"
    | "I", _ | "interactive", "once" => some "I"
    | _, _ => none)
  let options := (arguments.options.filter fun option => option.name ≠ "i").map fun option =>
    if option.name = "R" then ⟨"r", ""⟩ else option
  let options := if asks = some "i" then ⟨"i", ""⟩ :: options else options
  let arguments := { arguments with options }
  let count := arguments.operands.length
  if asks = some "I" && (arguments.has "r" || 3 < count) then
    let question := "remove " ++ toString count ++ (if count == 1 then " argument" else " arguments") ++
      (if arguments.has "r" then " recursively" else "")
    if !(← confirm question) then return
  if arguments.operands.isEmpty && !arguments.has "f" then missingOperand
  for path in arguments.operands do
    if ["/", ".", ".."].contains (trimSlashes path) || path.endsWith "/." || path.endsWith "/.." then
      complain ("refusing to remove '.' or '..' directory: skipping " ++ Quote.always path)
    else removeTree arguments maxDepth path

/-- Removes empty directories. -/
def rmdir : ToolM Unit := do
  let arguments ← readArguments 1 false
    ["p,parents", "v,verbose", ",ignore-fail-on-non-empty"]
  if arguments.operands.isEmpty then missingOperand
  for path in arguments.operands do
    let parents := if arguments.has "p" then chain path.length (trimSlashes path) else [path]
    removeAll arguments parents
where
  /-- A path and those of the directories that it leads through. -/
  chain : Nat → String → List String
    | 0, path => [path]
    | fuel + 1, path =>
      let parent := directoryName path
      if parent = "." || parent = "/" then [path] else path :: chain fuel parent
  /-- Removes directories up to the first that stays. -/
  removeAll (arguments : Arguments) : List String → ToolM Unit
    | [] => return
    | path :: rest => do
      if arguments.has "v" then print ("rmdir: removing directory, " ++ Quote.always path ++ "\n")
      match ← ask (.removeDirectory path) with
      | .ok _ => removeAll arguments rest
      | .error error =>
        if !(arguments.has "ignore-fail-on-non-empty" && error = .notEmpty) then
          complain ("failed to remove " ++ Quote.always path ++ ": " ++ error.text)

/-! ## Permissions -/

/-- Changes the permissions of a file, or of a directory with all that is in it. -/
def changeTree (arguments : Arguments) (mode : String) (mask : Nat) : Nat → String → ToolM Unit
  | 0, _ => return
  | depth + 1, path => do
    match ← ask (.inspect path true) with
    | .error error =>
      if !arguments.has "f" then complain ("cannot access " ++ Quote.always path ++ ": " ++ error.text)
      else modify fun tool => { tool with status := 1 }
    | .ok info =>
      match Permissions.changed? mode info.mode (info.sort = .directory) mask with
      | none => misuse 1 ("invalid mode: " ++ Quote.text mode)
      | some changed =>
        discard (ask (.changeMode path changed))
        let modeShown (mode : Nat) : String :=
          Numeral.padLeft 4 '0' (Numeral.inBase 8 mode) ++ " (" ++ Permissions.shown mode ++ ")"
        if info.mode ≠ changed then
          if arguments.has "v" || arguments.has "c" then
            print ("mode of " ++ Quote.always path ++ " changed from " ++ modeShown info.mode ++ " to " ++
              modeShown changed ++ "\n")
        else if arguments.has "v" then
          print ("mode of " ++ Quote.always path ++ " retained as " ++ modeShown changed ++ "\n")
      if arguments.has "R" && info.sort = .directory then
        match ← namesIn path with
        | .ok names =>
          for name in names do
            changeTree arguments mode mask depth (inside path name)
        | .error _ => return

/-- Changes the permissions of files. -/
def chmod : ToolM Unit := do
  modify fun tool =>
    let isMode (text : String) : Bool :=
      text.startsWith "-" && ((text.drop 1).toString.toList.head?.any fun c => "rwxXst".contains c)
    if tool.arguments.any isMode && !tool.arguments.contains "--" then
      let (options, operands) := tool.arguments.span fun text => !isMode text
      { tool with arguments := options ++ "--" :: operands }
    else tool
  let arguments ← readArguments 1 false
    ["R,recursive", "v,verbose", "f,silent", "c,changes", ",quiet", ",reference,:"]
  match arguments.operands with
  | [] => missingOperand
  | [mode] => misuse 1 ("missing operand after " ++ Quote.text mode)
  | mode :: paths =>
    if (Permissions.changed? mode 0 false 0).isNone then misuse 1 ("invalid mode: " ++ Quote.text mode)
    let mask : Nat ← ask (.mask none)
    for path in paths do
      changeTree arguments mode mask maxDepth path

/-! ## Making -/

/-- Makes a directory and those that lead to it. False if that failed. -/
def makePath (path : String) : ToolM Bool := do
  let names := path.splitOn "/"
  let places := (List.range names.length).map fun count =>
    "/".intercalate (names.take (count + 1))
  let mut made := true
  for place in places do
    if made && !place.isEmpty then
      match ← ask (.makeDirectory place 0o777) with
      | .ok _ => pure ()
      | .error error =>
        if !(error = .alreadyExists && (← isDirectory place)) then
          complain ("cannot create directory " ++ Quote.always place ++ ": " ++ error.text)
          made := false
  return made

/-- Makes directories. -/
def mkdir : ToolM Unit := do
  let arguments ← readArguments 1 false ["p,parents", "m,mode,:", "v,verbose"]
  if arguments.operands.isEmpty then missingOperand
  for path in arguments.operands do
    let made ←
      if arguments.has "p" then makePath path
      else
        match ← ask (.makeDirectory path 0o777) with
        | .ok _ => pure true
        | .error error => do
          complain ("cannot create directory " ++ Quote.always path ++ ": " ++ error.text)
          pure false
    if made then
      match (arguments.value? "m").bind fun mode => Permissions.changed? mode 0o777 true 0 with
      | some mode => discard (ask (.changeMode path mode))
      | none => pure ()
      if arguments.has "v" then
        print ((← get).name ++ ": created directory " ++ Quote.always path ++ "\n")

/-- The moment of a count of microseconds. -/
def momentOf (time : Nat) : Calendar.Moment :=
  { seconds := (time / 1000000 : Nat), nanos := time % 1000000 * 1000 }

/-- The microseconds of a moment. What lies before 1970 counts as its beginning. -/
def microseconds (moment : Calendar.Moment) : Nat :=
  (moment.seconds * 1000000 + moment.nanos / 1000).toNat

/-- The time that options of a program name, if they name one. -/
def givenTime (arguments : Arguments) : ToolM (Option Nat) := do
  let now : Nat ← ask .clock
  let reference : Option Nat ← match arguments.value? "r" with
    | none => pure none
    | some path =>
      match ← ask (.inspect path true) with
      | .ok info => pure (some info.modified)
      | .error error => fail 1 ("failed to get attributes of " ++ Quote.always path ++ ": " ++ error.text)
  let refuse (text : String) : ToolM (Option Nat) := fail 1 ("invalid date format " ++ Quote.text text)
  match arguments.value? "d", arguments.value? "t" with
  | some text, _ =>
    match Calendar.read? (momentOf (reference.getD now)) text with
    | some moment => return some (microseconds moment)
    | none => refuse text
  | none, some text =>
    match Calendar.ofStamp? (momentOf now) text with
    | some moment => return some (microseconds moment)
    | none => refuse text
  | none, none => return reference

/-- Makes empty files, or says of those that are there that they were changed. -/
def touch : ToolM Unit := do
  let arguments ← readArguments 1 false
    ["a,", "c,no-create", "d,date,:", "f,", "h,no-dereference", "m,", "r,reference,:", "t,,:", ",time,:"]
  let time ← givenTime arguments
  if arguments.operands.isEmpty then misuse 1 "missing file operand"
  for path in arguments.operands do
    let mode : OpenMode := { write := true, create := !arguments.has "c" }
    match ← ask (.openFile path mode 0o666) with
    | .ok descriptor =>
      discard (ask (.close descriptor))
      discard (ask (.stamp path time))
    | .error .isDirectory =>
      if ← isDirectory path then discard (ask (.stamp path time))
      else complain ("setting times of " ++ Quote.always path ++ ": " ++ SystemError.missing.text)
    | .error error =>
      if !arguments.has "c" then
        complain ("cannot touch " ++ Quote.always path ++ ": " ++ error.text)

/-! ## Paths -/

/-- A path without links in it, as far as there are files. `strict` says whether all of it has to be there. -/
def realPath (strict lenient : Bool) : Nat → String → List String → ToolM (Option String)
  | 0, _, _ => return none
  | _, reached, [] => return some (if reached.isEmpty then "/" else reached)
  | fuel + 1, reached, name :: rest => do
    if name.isEmpty || name = "." then realPath strict lenient fuel reached rest
    else if name = ".." then
      let above := ((reached.dropEndWhile (· ≠ '/')).toString.dropEndWhile (· = '/')).toString
      realPath strict lenient fuel above rest
    else
      let path := reached ++ "/" ++ name
      match ← ask (.readLink path) with
      | .ok target =>
        let start := if target.startsWith "/" then "" else reached
        realPath strict lenient fuel start (target.splitOn "/" ++ rest)
      | .error _ =>
        match ← inspect? path false with
        | some info =>
          if !(rest.all String.isEmpty) && info.sort ≠ .directory && !lenient then return none
          realPath strict lenient fuel path rest
        | none =>
          if strict || (!lenient && !(rest.all String.isEmpty)) then return none
          realPath strict lenient fuel path rest

/-- The real path of a file, seen from the directory that the program is in. -/
def realPathFrom (strict lenient : Bool) (path : String) : ToolM (Option String) := do
  if path.isEmpty then return none
  let directory : String ← ask .workingDirectory
  let start := if path.startsWith "/" then "" else directory
  realPath strict lenient maxDepth (if start = "/" then "" else start) (path.splitOn "/")

/-- Writes what links lead to. -/
def readlink : ToolM Unit := do
  let arguments ← readArguments 1 false
    ["f,canonicalize", "e,canonicalize-existing", "m,canonicalize-missing", "n,no-newline",
      "q,quiet", "s,silent", "v,verbose", "z,zero"]
  if arguments.operands.isEmpty then missingOperand
  let last := if arguments.has "n" && arguments.operands.length = 1 then ""
    else if arguments.has "z" then "\x00" else "\n"
  for path in arguments.operands do
    let found ←
      if arguments.has "f" || arguments.has "e" || arguments.has "m" then
        realPathFrom (arguments.has "e") (arguments.has "m") path
      else
        match ← ask (.readLink path) with
        | .ok target => pure (some target)
        | .error _ => pure none
    match found with
    | some target => print (target ++ last)
    | none => modify fun tool => { tool with status := 1 }

/-- Writes the real paths of files. -/
def realpath : ToolM Unit := do
  let arguments ← readArguments 1 false
    ["e,canonicalize-existing", "m,canonicalize-missing", "L,logical", "P,physical", "q,quiet",
      "s,strip", "z,zero"]
  if arguments.operands.isEmpty then missingOperand
  for path in arguments.operands do
    match ← realPathFrom (arguments.has "e") (arguments.has "m") path with
    | some found => print (found ++ (if arguments.has "z" then "\x00" else "\n"))
    | none =>
      if arguments.has "q" then modify fun tool => { tool with status := 1 }
      else complain (Quote.ifNeeded path ++ ": " ++ SystemError.missing.text)

end Shell.Machine.ToolM

/-! ## The date

The program that writes moments.
-/

namespace Shell.Machine.ToolM

/-- The formats of the standard for dates, by how exact they are. -/
def standardFormats : List (String × String) := [
  ("hours", "%Y-%m-%dT%H%:z"), ("minutes", "%Y-%m-%dT%H:%M%:z"), ("date", "%Y-%m-%d"),
  ("seconds", "%Y-%m-%dT%H:%M:%S%:z"), ("ns", "%Y-%m-%dT%H:%M:%S,%N%:z")]

/-- The formats with a blank between date and time, by how exact they are. -/
def spacedFormats : List (String × String) := [
  ("date", "%Y-%m-%d"), ("seconds", "%Y-%m-%d %H:%M:%S%:z"), ("ns", "%Y-%m-%d %H:%M:%S.%N%:z")]

def namedFormat (option word : String) (formats : List (String × String)) : ToolM String := do
  match formats.filter fun entry => entry.1.startsWith word with
  | [] =>
    report ("invalid argument " ++ Quote.text word ++ " for " ++ Quote.text ("--" ++ option))
    explainChoices (formats.map (·.1))
    advise 1
  | (_, format) :: _ => return format

/-- Writes moments: that of now, or others that are named. -/
def date : ToolM Unit := do
  let arguments ← readArguments 1 false
    ["d,date,:", "f,file,:", "I,iso-8601,?", "r,reference,:", "R,rfc-email", ",rfc-822", ",rfc-2822", ",rfc-3339,:",
      "s,set,:", "u,utc", ",universal", ",debug", ",resolution"]
  let sources := ["d", "f", "r"].filter arguments.has
  if 1 < sources.length then
    misuse 1 "the options to specify dates for printing are mutually exclusive"
  let mut formats : List String := []
  for option in arguments.options do
    match option.name with
    | "I" =>
      let wanted := if option.value.isEmpty then "date" else option.value
      formats := formats ++ [← namedFormat "iso-8601" wanted standardFormats]
    | "R" | "rfc-822" | "rfc-2822" => formats := formats ++ ["%a, %d %b %Y %H:%M:%S %z"]
    | "rfc-3339" => formats := formats ++ [← namedFormat "rfc-3339" option.value spacedFormats]
    | _ => pure ()
  let given ← match arguments.operands with
    | [] => pure []
    | [one] =>
      if one.startsWith "+" then pure [(one.drop 1).toString]
      else if sources.isEmpty && !arguments.has "s" then
        fail 1 ("invalid date " ++ Quote.text one)
      else
        misuse 1 ("the argument " ++ Quote.text one ++ " lacks a leading '+';\n" ++
          "when using an option to specify date(s), any non-option\n" ++
          "argument must be a format string beginning with '+'")
    | _ :: extra :: _ => extraOperand extra
  if 1 < (formats ++ given).length then fail 1 "multiple output formats specified"
  let format := (formats ++ given).headD "%a %b %e %H:%M:%S %Z %Y"
  let clock : Nat ← ask .clock
  let now := momentOf clock
  let show_ (moment : Calendar.Moment) : ToolM Unit := print (Calendar.format format moment ++ "\n")
  let read (text : String) : ToolM Unit := do
    match Calendar.read? now text with
    | some moment => show_ moment
    | none => complain ("invalid date " ++ Quote.text text)
  match arguments.value? "d", arguments.value? "f", arguments.value? "r" with
  | some text, _, _ => read text
  | none, some path, _ =>
    match ← openInput path with
    | .error error => fail 1 (Quote.ifNeeded path ++ ": " ++ error.text)
    | .ok descriptor =>
      let (text, _) ← readAll descriptor
      closeInput descriptor
      (linesOf text).forM read
  | none, none, some path =>
    match ← ask (.inspect path true) with
    | .ok info => show_ (momentOf info.modified)
    | .error error => fail 1 (Quote.ifNeeded path ++ ": " ++ error.text)
  | none, none, none =>
    match arguments.value? "s" with
    | none => show_ now
    | some text =>
      match Calendar.read? now text with
      | none => fail 1 ("invalid date " ++ Quote.text text)
      | some moment =>
        complain ("cannot set date: " ++ SystemError.notPermitted.text)
        show_ moment

end Shell.Machine.ToolM
