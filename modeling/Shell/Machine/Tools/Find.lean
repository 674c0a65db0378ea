import Shell.Machine.Tools.Batch
import Shell.Machine.Tools.Describe
import Shell.Machine.Tools.Find.Expression
import Shell.Machine.Script.Pattern

/-! # Looking for files

`find` visits all files in directories and does with each what an expression says.
-/

namespace Shell.Machine

namespace Find

/-- A file on the way. -/
structure Place where
  path : String
  /-- The path that was given. -/
  start : String
  depth : Nat
  info : FileInfo
  now : Nat

/-- The name of a file, without the directory that it is in. -/
def Place.name (place : Place) : String :=
  if place.depth = 0 then
    if place.path.all (· = '/') then "/" else
      let trimmed := ToolM.trimSlashes place.path
      ToolM.lastName trimmed
  else ToolM.lastName place.path

/-- The path from the one that was given. -/
def Place.below (place : Place) : String :=
  String.ofList ((place.path.toList.drop place.start.length).dropWhile (· = '/'))

/-- The directory that a file is in, as its path says. -/
def Place.directory (place : Place) : String :=
  let chars := place.path.toList
  let chars := if place.depth = 0 && chars.any (· ≠ '/') then (chars.reverse.dropWhile (· = '/')).reverse else chars
  match (chars.reverse.dropWhile (· ≠ '/')).reverse with
  | [] => "."
  | before => String.ofList (before.dropLast)

def kindLetter (info : FileInfo) : Char :=
  match info.sort with
  | .plain => 'f'
  | .directory => 'd'
  | .link => 'l'
  | .device => 'c'
  | .pipe => 'p'

/-- What has come of a search so far. -/
structure Progress where
  /-- The files that commands for many files are to get, by the numbers of the actions. -/
  collected : List (Nat × List String) := []
  /-- Whether what is in a directory is left out. -/
  pruned : Bool := false
  stopped : Bool := false
  failed : Bool := false

/-- Notes a file for a command that gets many. -/
def Progress.collect (number : Nat) (path : String) (progress : Progress) : Progress :=
  let known := (progress.collected.lookup number).getD []
  { progress with collected := (number, path :: known) :: progress.collected.filter fun entry => entry.1 ≠ number }

end Find

namespace ToolM

open Find

/-- Writes a text to where an action says. -/
def emit (target : Target) (text : String) : ToolM Unit := do
  match target with
  | none => print text
  | some descriptor => discard (ask (.write descriptor (Octets.toBytes text)))

def linkText (place : Place) : ToolM String := do
  if place.info.sort ≠ .link then return ""
  match ← ask (.readLink place.path) with
  | .ok target => return target
  | .error _ => return ""

/-- The letter for the kind of the file that a link leads to. -/
def acrossLetter (place : Place) : ToolM Char := do
  if place.info.sort ≠ .link then return kindLetter place.info
  match ← ask (.inspect place.path true) with
  | .ok info => return kindLetter info
  | .error .tooManyLinks => return 'L'
  | .error _ => return 'N'

def passes (settings : Settings) (place : Place) (test : Test) : ToolM Bool := do
  let fits (pattern text : String) (folded : Bool) : Bool :=
    if folded then Wildcard.fitsFolded pattern text else Wildcard.fits pattern text
  let info := place.info
  match test with
  | .constant value => return value
  | .name pattern folded => return fits pattern (trimSlashes place.name) folded
  | .path pattern folded => return fits pattern place.path folded
  | .target pattern folded => return info.sort = .link && fits pattern (← linkText place) folded
  | .matched regex folded =>
    let subject : Regex.Subject := { text := place.path.toList.toArray, foldsCase := folded }
    return (Regex.endsAt subject [regex] 0).contains place.path.length
  | .kind letters false => return letters.contains (kindLetter info)
  | .kind letters true =>
    if settings.follows then return letters.contains (kindLetter info)
    let letter ← acrossLetter place
    return letters.contains (if letter = 'N' then 'l' else letter)
  | .size bound unit => return bound.admits ((info.size + unit - 1) / unit)
  | .empty =>
    match info.sort with
    | .plain => return info.size = 0
    | .directory =>
      match ← ask (.list place.path) with
      | .ok names => return names.isEmpty
      | .error _ => return false
    | _ => return false
  | .permissions mode .exactly => return info.mode &&& 0o7777 = mode
  | .permissions mode .all => return info.mode &&& mode = mode
  | .permissions mode .any => return mode = 0 || info.mode &&& mode ≠ 0
  | .newer time => return time < info.modified
  | .age bound unit => return bound.admits ((place.now - info.modified) / (unit * 1000000))
  | .minutes bound =>
    let age := place.now - info.modified
    let limit := bound.value * 60000000
    match bound.relation with
    | .more => return limit < age
    | .less => return age < limit
    | .equal => return age < limit && limit ≤ age + 60000000
  | .links bound => return bound.admits info.names
  | .number bound => return bound.admits info.id
  | .sameFile id => return info.id = id
  | .owner bound => return bound.admits 0
  | .mayDo bits => return bits ≠ 1 || info.sort = .directory || info.mode &&& 0o111 ≠ 0

/-- A directive in a format, which may be for a time. -/
def findDirective (place : Place) (field : Describe.Field) (letter : Char) : ToolM String := do
  let text (text : String) : String := field.text text
  let number (value : Nat) : String := field.text (toString value)
  match letter with
  | 'p' => return text place.path
  | 'f' =>
    if place.depth = 0 && place.path.endsWith "/" then
      let last := (place.path.toList.reverse.dropWhile (· = '/')).takeWhile (· ≠ '/')
      return text (String.ofList last.reverse ++ "/")
    else return text place.name
  | 'h' => return text place.directory
  | 'P' => return text place.below
  | 'H' => return text place.start
  | 's' => return number place.info.size
  | 'm' => return field.number 8 (place.info.mode &&& 0o7777)
  | 'M' => return text (Listing.modeText place.info)
  | 'n' => return number place.info.names
  | 'u' | 'g' => return text "root"
  | 'U' | 'G' => return number 0
  | 'i' => return number place.info.id
  | 'd' => return number place.depth
  | 'D' => return number Describe.device
  | 'b' => return number (Describe.blocks place.info)
  | 'k' => return number ((Describe.blocks place.info + 1) / 2)
  | 'F' => return text "ext4"
  | 'S' => return text "1"
  | 'y' => return text (String.singleton (kindLetter place.info))
  | 'Y' => return text (String.singleton (← acrossLetter place))
  | 'l' => return text (← linkText place)
  | 't' | 'a' | 'c' => return text (Calendar.format "%a %b %e %H:%M:%S.%N0 %Y" (momentOf place.info.modified))
  | _ => return ""

def directiveLetters : String := "pfhPHsmMnugUGidDbkFSyYltac"

def timeDirective (place : Place) (letter : Char) : String :=
  let moment := momentOf place.info.modified
  match letter with
  | '@' => Calendar.format "%s.%N0" moment
  | 'S' => Calendar.format "%S.%N0" moment
  | 'T' | 'X' => Calendar.format "%H:%M:%S.%N0" moment
  | '+' => Calendar.format "%Y-%m-%d+%H:%M:%S.%N0" moment
  | letter => Calendar.format (String.ofList ['%', letter]) moment

/-- What a format makes of a file. -/
def findFormat (place : Place) : Nat → List Char → ToolM String
  | 0, _ => return ""
  | _, [] => return ""
  | fuel + 1, '\\' :: rest => do
    let simple : List (Char × Char) := [('a', '\x07'), ('b', '\x08'), ('f', '\x0c'), ('n', '\n'),
      ('r', '\r'), ('t', '\t'), ('v', '\x0b'), ('\\', '\\')]
    match rest with
    | [] => return "\\"
    | 'c' :: _ => return ""
    | c :: after =>
      match simple.lookup c with
      | some c => return String.singleton c ++ (← findFormat place fuel after)
      | none =>
        let digits := (rest.takeWhile fun c => '0' ≤ c && c ≤ '7').take 3
        if digits.isEmpty then return String.ofList ['\\', c] ++ (← findFormat place fuel after)
        let (value, _, _) := Numeral.digits 8 3 0 0 digits
        return String.singleton (Char.ofNat (value % 256)) ++ (← findFormat place fuel (rest.drop digits.length))
  | fuel + 1, '%' :: rest => do
    let flags := rest.takeWhile fun c => "-+ #0".contains c
    let (width, widthCount, after) := Numeral.digits 10 9 0 0 (rest.drop flags.length)
    let (precision, after) := match after with
      | '.' :: after =>
        let (value, _, after) := Numeral.digits 10 9 0 0 after
        (some value, after)
      | after => (none, after)
    let field : Describe.Field := { flags, width, precision }
    match after with
    | [] => return "%"
    | '%' :: after => return "%" ++ (← findFormat place fuel after)
    | c :: after =>
      if "ACTB".contains c then
        match after with
        | [] => return String.ofList ['%', c]
        | letter :: after => return field.text (timeDirective place letter) ++ (← findFormat place fuel after)
      else if directiveLetters.contains c then
        return (← findDirective place field c) ++ (← findFormat place fuel after)
      else
        let start := String.ofList ('%' :: flags) ++ (if widthCount = 0 then "" else toString width)
        return start ++ String.singleton c ++ (← findFormat place fuel after)
  | fuel + 1, c :: rest => return String.singleton c ++ (← findFormat place fuel rest)

/-- Runs a command, in a directory if one is given. -/
def runFor (command : List String) (directory : Option String) : ToolM (Option Ending) := do
  flush
  let environment := (← get).environment
  let child ← fork do
    match directory with
    | none => pure ()
    | some directory => discard (ask (.changeDirectory directory))
    let error ← become command environment
    report (Quote.text (command.headD "") ++ ": " ++ error.text)
    return 1
  awaitChild child patience

/-- The path of a file from the directory that it is in. -/
def localPath (place : Place) : String :=
  if place.path.all (· = '/') then "/" else "./" ++ trimSlashes place.name

/-- The directory that a command for a file runs in. -/
def placeDirectory (place : Place) : String :=
  if place.directory.isEmpty then "/" else place.directory

/-- Runs the commands that were to get many files. -/
def runCollected (expression : Expression) (progress : Progress) : ToolM Progress := do
  let mut progress := progress
  for (number, command, inDirectory) in batches expression do
    match progress.collected.lookup number with
    | none | some [] => pure ()
    | some paths =>
      let ending ← runFor (command ++ paths.reverse) inDirectory
      if ending ≠ some (.exited 0) then progress := { progress with failed := true }
      progress := { progress with collected := progress.collected.filter fun entry => entry.1 ≠ number }
  return progress
where
  /-- The commands for many files. -/
  batches : Expression → List (Nat × List String × Option String)
    | .action (.batch number command false) => [(number, command, none)]
    | .action _ | .test _ => []
    | .not body => batches body
    | .and first second | .or first second | .list first second => batches first ++ batches second

/-- Runs the commands that get many files of one directory. -/
def runLocal (place : Place) (expression : Expression) (progress : Progress) : ToolM Progress := do
  let mut progress := progress
  for (number, command) in batches expression do
    match progress.collected.lookup number with
    | none | some [] => pure ()
    | some paths =>
      let ending ← runFor (command ++ paths.reverse) (some place.path)
      if ending ≠ some (.exited 0) then progress := { progress with failed := true }
      progress := { progress with collected := progress.collected.filter fun entry => entry.1 ≠ number }
  return progress
where
  /-- The commands for many files of one directory. -/
  batches : Expression → List (Nat × List String)
    | .action (.batch number command true) => [(number, command)]
    | .action _ | .test _ => []
    | .not body => batches body
    | .and first second | .or first second | .list first second => batches first ++ batches second

/-- Does something with a file. -/
def act (settings : Settings) (place : Place) (progress : Progress) : Deed → ToolM (Bool × Progress)
  | .print last target => do
    emit target (place.path ++ last)
    return (true, progress)
  | .format text target => do
    emit target (← findFormat place (text.length + 1) text.toList)
    return (true, progress)
  | .list target => do
    let info := place.info
    let left (width : Nat) (value : Nat) : String := Numeral.padLeft width ' ' (toString value)
    let link ← linkText place
    emit target (left 9 info.id ++ " " ++ left 6 ((Describe.blocks info + 1) / 2) ++ " " ++
      Listing.modeText info ++ " " ++ left 3 info.names ++ " root     root     " ++ left 8 info.size ++ " " ++
      Calendar.format "%b %e %H:%M" (momentOf info.modified) ++ " " ++ place.path ++
      (if info.sort = .link then " -> " ++ link else "") ++ "\n")
    return (true, progress)
  | .run command inDirectory asks => do
    let path := if inDirectory then localPath place else place.path
    let words := command.map fun word => word.replace "\x7b\x7d" path
    if asks then
      flush
      discard (ask (.write 2 (Octets.toBytes ("< " ++ command.headD "" ++ " ... " ++ place.path ++ " > ? "))))
      match ← readLine 0 newline patience .empty with
      | .ok answer =>
        if !(Octets.ofBytes answer).toList.head?.any fun c => c = 'y' || c = 'Y' then return (false, progress)
      | .error _ => return (false, progress)
    let ending ← runFor words (if inDirectory then some (placeDirectory place) else none)
    return (decide (ending = some (.exited 0)), progress)
  | .batch number _ inDirectory =>
    return (true, progress.collect number (if inDirectory then localPath place else place.path))
  | .delete => do
    if place.path = "." then return (true, progress)
    let removed ←
      if place.info.sort = .directory && !(settings.follows && (← linkLeads)) then ask (.removeDirectory place.path)
      else ask (.remove place.path)
    match removed with
    | .ok _ => return (true, progress)
    | .error error =>
      flush
      report ("cannot delete " ++ Quote.always place.path ++ ": " ++ error.text)
      return (false, { progress with failed := true })
  | .prune => return (true, { progress with pruned := true })
  | .quit => return (true, { progress with stopped := true })
where
  /-- True when the path is that of a link. -/
  linkLeads : ToolM Bool := do
    return (← inspect? place.path false).any fun info => info.sort = .link

/-- Does with a file what an expression says. -/
def judge (settings : Settings) (place : Place) : Expression → Progress → ToolM (Bool × Progress)
  | .test test, progress => do
    if progress.stopped then return (false, progress)
    return (← passes settings place test, progress)
  | .action action, progress => do
    if progress.stopped then return (false, progress)
    act settings place progress action
  | .not body, progress => do
    let (held, progress) ← judge settings place body progress
    return (!held, progress)
  | .and first second, progress => do
    match ← judge settings place first progress with
    | (true, progress) => judge settings place second progress
    | (false, progress) => return (false, progress)
  | .or first second, progress => do
    match ← judge settings place first progress with
    | (true, progress) => return (true, progress)
    | (false, progress) => judge settings place second progress
  | .list first second, progress => do
    let (_, progress) ← judge settings place first progress
    judge settings place second progress

/-- Visits a file and all that is in it, down to a depth. The directories above are known, so that
    none is visited again inside of itself. -/
def visit (settings : Settings) (expression : Expression) :
    Nat → List (FileId × String) → String → String → Nat → Progress → ToolM Progress
  | 0, _, _, _, _, progress => return progress
  | fuel + 1, above, start, path, depth, progress => do
    if progress.stopped then return progress
    let follows := settings.follows || (depth = 0 && settings.followsGiven)
    let found : Except SystemError FileInfo ←
      match ← ask (.inspect path follows) with
      | .error error => if follows then ask (.inspect path false) else pure (.error error)
      | found => pure found
    match found with
    | .error error =>
      flush
      report (Quote.text path ++ ": " ++ error.text)
      return { progress with failed := true }
    | .ok info =>
      match if info.sort = .directory then above.find? (fun entry => entry.1 = info.id) else none with
      | some (_, other) =>
        flush
        report ("File system loop detected; " ++ Quote.text path ++ " is part of the same file system loop as " ++
          Quote.text other ++ ".")
        return { progress with failed := true }
      | none =>
        let now : Nat ← ask .clock
        let place : Place := { path, start, depth, info, now }
        let isSeen := settings.least ≤ depth
        let goesIn := info.sort = .directory && settings.most.all (depth < ·)
        let judged (progress : Progress) : ToolM Progress := do
          if isSeen then return (← judge settings place expression progress).2 else return progress
        let progress : Progress ←
          if settings.depthFirst then pure progress else judged { progress with pruned := false }
        let descends := goesIn && (settings.depthFirst || !progress.pruned)
        let progress : Progress ←
          if descends && !progress.stopped then
            match ← namesIn path with
            | .error error =>
              flush
              report (Quote.text path ++ ": " ++ error.text)
              pure { progress with failed := true }
            | .ok names =>
              let progress ← names.foldlM
                (fun progress name =>
                  visit settings expression fuel ((info.id, path) :: above) start (inside path name) (depth + 1)
                    progress)
                progress
              runLocal place expression progress
          else pure progress
        if settings.depthFirst then judged progress else return progress

/-! ## Reading the arguments -/

def testPiece (test : Test) : Piece := .leaf (.test test)

/-- The words that take no argument and are tests or join others. -/
def plainPieces : List (String × Piece) := [
  ("(", .opening), (")", .closing), ("!", .not "!"), ("-not", .not "-not"), ("-a", .and "-a"), ("-and", .and "-and"),
  ("-o", .or "-o"), ("-or", .or "-or"), (",", .comma), ("-true", testPiece (.constant true)),
  ("-false", testPiece (.constant false)), ("-empty", testPiece .empty), ("-readable", testPiece (.mayDo 4)),
  ("-writable", testPiece (.mayDo 2)), ("-executable", testPiece (.mayDo 1)), ("-nouser", testPiece (.constant false)),
  ("-nogroup", testPiece (.constant false)), ("-prune", .leaf (.action .prune)), ("-quit", .leaf (.action .quit)),
  ("-print", .leaf (.action (.print "\n" none))), ("-print0", .leaf (.action (.print "\x00" none))),
  ("-ls", .leaf (.action (.list none))), ("-delete", .leaf (.action .delete))]

/-- The words without an argument that concern the whole search. -/
def plainSettings : List (String × (Settings → Settings)) := [
  ("-depth", fun settings => { settings with depthFirst := true, saysDepth := true }),
  ("-d", fun settings => { settings with depthFirst := true, saysDepth := true }),
  ("-follow", fun settings => { settings with follows := true }),
  ("-xdev", id), ("-mount", id), ("-noleaf", id), ("-warn", id), ("-nowarn", id), ("-daystart", id),
  ("-ignore_readdir_race", id), ("-noignore_readdir_race", id)]

/-- Notes what an action means for the whole search. -/
def noteAction (word : String) (settings : Settings) : Settings :=
  match word with
  | "-print" | "-print0" | "-ls" => { settings with acts := true }
  | "-delete" => { settings with acts := true, depthFirst := true, deletes := true }
  | "-prune" => { settings with prunes := true }
  | _ => settings

/-- Words whose argument is a pattern. -/
def patternTests : List (String × (String → Test)) := [
  ("-name", fun text => .name text false), ("-iname", fun text => .name text true),
  ("-path", fun text => .path text false), ("-wholename", fun text => .path text false),
  ("-ipath", fun text => .path text true), ("-iwholename", fun text => .path text true),
  ("-lname", fun text => .target text false), ("-ilname", fun text => .target text true)]

/-- Words whose argument is a number to compare with. -/
def numberTests : List (String × (Bound → Test)) := [
  ("-links", .links), ("-inum", .number), ("-uid", .owner), ("-gid", .owner), ("-mtime", fun bound => .age bound 86400),
  ("-atime", fun bound => .age bound 86400), ("-ctime", fun bound => .age bound 86400), ("-mmin", .minutes),
  ("-amin", .minutes), ("-cmin", .minutes)]

/-- The kinds of regular expressions. The first ones are written as editors do. -/
def regexKinds : List (String × Bool × Bool) := [
  ("findutils-default", false, true), ("ed", false, false), ("emacs", false, true), ("gnu-awk", true, false),
  ("grep", false, false), ("posix-awk", true, false), ("awk", true, false), ("posix-basic", false, false),
  ("posix-egrep", true, false), ("egrep", true, false), ("posix-extended", true, false),
  ("posix-minimal-basic", false, false), ("sed", false, false)]

def argumentWords : List String :=
  patternTests.map (·.1) ++ numberTests.map (·.1) ++
    ["-type", "-xtype", "-size", "-perm", "-newer", "-anewer", "-cnewer", "-user", "-group", "-samefile",
      "-regex", "-iregex", "-regextype", "-maxdepth", "-mindepth", "-printf", "-fprint", "-fprint0",
      "-fls", "-fstype", "-used", "-context"]

/-- Opens a file for the results of an action. -/
def openTarget (path : String) : ToolM Target := do
  if path = "/dev/stdout" then return none
  if path = "/dev/stderr" then return some 2
  match ← ask (.openFile path { write := true, create := true, truncate := true } 0o666) with
  | .ok descriptor => return some descriptor
  | .error error => fail 1 (Quote.text path ++ ": " ++ error.text)

def changeTime (settings : Settings) (path : String) : ToolM FileInfo := do
  match ← ask (.inspect path (settings.follows || settings.followsGiven)) with
  | .ok info => return info
  | .error error => fail 1 (Quote.text path ++ ": " ++ error.text)

/-- The test that a word with an argument stands for, or a change of the whole search. -/
def readWord (word text : String) (settings : Settings) : ToolM (Option Piece × Settings) := do
  let test (test : Test) : ToolM (Option Piece × Settings) := return (some (testPiece test), settings)
  let act (action : Deed) : ToolM (Option Piece × Settings) :=
    return (some (.leaf (.action action)), { settings with acts := true })
  match patternTests.lookup word, numberTests.lookup word with
  | some make, _ => test (make text)
  | none, some make =>
    match bound? text with
    | some bound => test (make bound)
    | none => fail 1 ("invalid argument `" ++ text ++ "' to `" ++ word ++ "'")
  | none, none =>
    match word with
    | "-type" | "-xtype" =>
      if text.isEmpty then fail 1 ("Arguments to " ++ word ++ " should contain at least one letter")
      let letters := (text.splitOn ",").map String.toList
      for letter in letters do
        match letter with
        | [c] => if !"bcdpflsD".contains c then fail 1 ("Unknown argument to " ++ word ++ ": " ++ String.singleton c)
        | [] => fail 1 ("Last file type in list argument to " ++ word ++ " is missing, i.e., list is ending on: ','")
        | _ => fail 1 ("Must separate multiple arguments to " ++ word ++ " using: ','")
      test (.kind letters.flatten (word = "-xtype"))
    | "-size" =>
      match size? text with
      | .ok (bound, unit) => test (.size bound unit)
      | .error wrong => fail 1 wrong
    | "-perm" =>
      match permissions? text with
      | some (mode, coverage) => test (.permissions mode coverage)
      | none => fail 1 ("invalid mode " ++ Quote.text text)
    | "-newer" | "-anewer" | "-cnewer" => test (.newer (← changeTime settings text).modified)
    | "-samefile" => test (.sameFile (← changeTime settings text).id)
    | "-user" | "-group" =>
      if text = "root" then test (.constant true)
      else
        match Numeral.natural? text with
        | some number => test (.constant (number = 0))
        | none =>
          fail 1 (Quote.text text ++ " is not the name of " ++
            (if word = "-user" then "a known user" else "an existing group"))
    | "-regex" | "-iregex" =>
      let written := if settings.editor then String.ofList (usualForm text.toList) else text
      match Regex.read { extended := settings.extended } written with
      | .ok (regex, _) => test (.matched regex (word = "-iregex"))
      | .error fault =>
        fail 1 ("failed to compile regular expression '" ++ text ++ "': " ++ fault.message)
    | "-regextype" =>
      match regexKinds.lookup text with
      | some (extended, editor) => return (none, { settings with extended, editor })
      | none =>
        fail 1 ("Unknown regular expression type " ++ Quote.text text ++ "; valid types are " ++
          ", ".intercalate (regexKinds.map fun entry => Quote.text entry.1) ++ ".")
    | "-maxdepth" | "-mindepth" =>
      match if text.all Char.isDigit then text.toNat? else none with
      | some depth =>
        if word = "-maxdepth" then return (none, { settings with most := some depth })
        else return (none, { settings with least := depth })
      | none =>
        fail 1 ("Expected a positive decimal integer argument to " ++ word ++ ", but got " ++ Quote.text text)
    | "-printf" => act (.format text none)
    | "-fprint" => act (.print "\n" (← openTarget text))
    | "-fprint0" => act (.print "\x00" (← openTarget text))
    | "-fls" => act (.list (← openTarget text))
    | "-fstype" => test (.constant (text = "ext4"))
    | _ => test (.constant false)

/-- The command of an action: its words, whether it gets many files at once, and what comes after it. -/
def readCommand (word : String) (arguments : List String) : ToolM (List String × Bool × List String) := do
  let rec go : List String → List String → Option (List String × Bool × List String)
    | _, [] => none
    | words, text :: rest =>
      if text = ";" then some (words.reverse, false, rest)
      else if text = "+" && words.head? = some "\x7b\x7d" then some ((words.drop 1).reverse, true, rest)
      else go (text :: words) rest
  match go [] arguments with
  | none => fail 1 ("missing argument to `" ++ word ++ "'")
  | some ([], false, _) => fail 1 ("invalid argument `;' to `" ++ word ++ "'")
  | some (words, many, rest) =>
    if many && words.any fun text => text.contains '\x7b' && (text.splitOn "\x7b\x7d").length > 1 then
      fail 1 ("Only one instance of \x7b\x7d is supported with " ++ word ++ " ... +")
    return (words, many, rest)

/-- Reads the words of an expression. -/
def readPieces : Nat → List String → Settings → List Piece → ToolM (List Piece × Settings)
  | 0, _, settings, pieces => return (pieces.reverse, settings)
  | _, [], settings, pieces => return (pieces.reverse, settings)
  | fuel + 1, word :: rest, settings, pieces => do
    match plainPieces.lookup word, plainSettings.lookup word with
    | some piece, _ => readPieces fuel rest (noteAction word settings) (piece :: pieces)
    | none, some change => readPieces fuel rest (change settings) (testPiece (.constant true) :: pieces)
    | none, none =>
      if argumentWords.contains word then
        match rest with
        | [] => fail 1 ("missing argument to `" ++ word ++ "'")
        | text :: rest =>
          let (piece, settings) ← readWord word text settings
          readPieces fuel rest settings (piece.getD (testPiece (.constant true)) :: pieces)
      else if ["-exec", "-execdir", "-ok", "-okdir"].contains word then
        let (words, many, rest) ← readCommand word rest
        let inDirectory := word.endsWith "dir"
        let number := settings.batches
        let action : Deed :=
          if many then .batch number words inDirectory else .run words inDirectory (word.startsWith "-ok")
        readPieces fuel rest { settings with acts := true, batches := number + 1 } (.leaf (.action action) :: pieces)
      else if word = "-fprintf" then
        match rest with
        | path :: text :: rest =>
          let target ← openTarget path
          readPieces fuel rest { settings with acts := true } (.leaf (.action (.format text target)) :: pieces)
        | _ => fail 1 ("missing argument to `" ++ word ++ "'")
      else if word.startsWith "-newer" && word.length = 8 then
        match rest with
        | [] => fail 1 ("missing argument to `" ++ word ++ "'")
        | text :: rest =>
          let kinds := (word.drop 6).toString.toList
          let test : Test ← match kinds with
            | [one, 't'] =>
              if !"aBcm".contains one then fail 1 ("invalid predicate `" ++ word ++ "'")
              let now : Nat ← ask .clock
              match Calendar.read? (momentOf now) text with
              | some moment => pure (.newer (microseconds moment))
              | none => fail 1 ("I cannot figure out how to interpret " ++ Quote.text text ++ " as a date or time")
            | [one, other] =>
              if !"aBcm".contains one || !"aBcm".contains other then fail 1 ("invalid predicate `" ++ word ++ "'")
              pure (.newer (← changeTime settings text).modified)
            | _ => fail 1 ("invalid predicate `" ++ word ++ "'")
          readPieces fuel rest settings (testPiece test :: pieces)
      else if word.startsWith "-" && word ≠ "-" then fail 1 ("unknown predicate `" ++ word ++ "'")
      else fail 1 ("paths must precede expression: `" ++ word ++ "'")

/-- Reads the options before the paths. -/
def readLeading : Nat → List String → Settings → ToolM (List String × Settings)
  | 0, rest, settings => return (rest, settings)
  | _, [], settings => return ([], settings)
  | fuel + 1, word :: rest, settings => do
    match word with
    | "-H" => readLeading fuel rest { settings with follows := false, followsGiven := true }
    | "-L" => readLeading fuel rest { settings with follows := true, followsGiven := true }
    | "-P" => readLeading fuel rest { settings with follows := false, followsGiven := false }
    | "-D" => readLeading fuel (rest.drop 1) settings
    | "--" => return (rest, settings)
    | word =>
      if word.startsWith "-O" then
        if (word.drop 2).toString.toNat?.isNone then fail 1 "Please specify a decimal number immediately after -O"
        readLeading fuel rest settings
      else return (word :: rest, settings)

/-- The number of files that are known to the words of formats that are unknown. -/
def warnFormats (pieces : List Piece) : ToolM Unit := do
  for piece in pieces do
    match piece with
    | .leaf (.action (.format text _)) =>
      match warnings (text.length + 1) text.toList with
      | .ok lines => lines.forM fun line => report ("warning: " ++ line)
      | .error wrong => fail 1 ("error: " ++ wrong)
    | _ => pure ()
where
  /-- What is wrong with a format. -/
  warnings : Nat → List Char → Except String (List String)
    | 0, _ => .ok []
    | _, [] => .ok []
    | fuel + 1, '\\' :: c :: rest => do
      let more ← warnings fuel rest
      if "abcfnrtv\\01234567".contains c then return more
      return ("unrecognized escape `\\" ++ String.singleton c ++ "'") :: more
    | fuel + 1, '%' :: rest => do
      match rest.dropWhile fun c => "-+ #0123456789.".contains c with
      | [] => throw "% at end of format string"
      | c :: after =>
        if "ACTB".contains c then
          if after.isEmpty then
            return ["format directive `%" ++ String.singleton c ++ "' should be followed by another character"]
          warnings fuel (after.drop 1)
        else
          let more ← warnings fuel after
          if c = '%' || directiveLetters.contains c then return more
          return ("unrecognized format directive `%" ++ String.singleton c ++ "'") :: more
    | fuel + 1, _ :: rest => warnings fuel rest

/-- Looks for files. -/
def find : ToolM Unit := do
  let given := (← get).arguments
  let (rest, settings) ← readLeading (given.length + 1) given {}
  let begins (text : String) : Bool :=
    (text.startsWith "-" && text ≠ "-") || text = "(" || text = "!"
  let (paths, words) := rest.span (!begins ·)
  let (pieces, settings) ← readPieces (words.length + 1) words settings []
  let expression ← match readExpression pieces with
    | .ok expression => pure expression
    | .error wrong => fail 1 wrong
  warnFormats pieces
  if settings.deletes && settings.prunes && !settings.saysDepth then
    fail 1 ("The -delete action automatically turns on -depth, but -prune does nothing when -depth is in effect.  " ++
      "If you want to carry on anyway, just explicitly use the -depth option.")
  let whole : Expression :=
    if settings.acts then expression else .and expression (.action (.print "\n" none))
  let mut progress : Progress := {}
  for path in if paths.isEmpty then ["."] else paths do
    progress ← visit settings whole maxDepth [] path path 0 progress
  progress ← runCollected whole progress
  if progress.failed then status 1

end ToolM

end Shell.Machine
