import Shell.Machine.Tools.Lines
import Shell.Machine.Tools.Running
import Shell.Machine.Tools.Transfer

/-! # Programs and their surroundings

Programs that look for programs, that make files for a while, that change who owns files, and that tell about the
user and the system.
-/

namespace Shell.Machine.ToolM

/-! ## Programs -/

/-- The paths under which a program is found, of which only the first counts unless all do. -/
def programPaths (name : String) (places : List String) : ToolM (List String) := do
  let candidates := if name.contains '/' then [name]
    else places.map fun place => if place.isEmpty then "./" ++ name else place ++ "/" ++ name
  candidates.filterM fun path => do
    return (← inspect? path true).any fun info => info.sort = .plain && info.mode &&& 0o111 ≠ 0

/-- Tells where programs are. -/
def which : ToolM Unit := do
  let (options, operands) := (← get).arguments.span fun text => text.startsWith "-" && text ≠ "--" && text ≠ "-"
  let operands := if operands.head? = some "--" then operands.drop 1 else operands
  let letters := options.flatMap fun text => text.toList.drop 1
  match letters.find? fun c => c ≠ 'a' && c ≠ 's' with
  | some c =>
    discard (ask (.write 2 (Octets.toBytes ("Illegal option -" ++ String.singleton c ++ "\n"))))
    print "Usage: /usr/bin/which [-as] args\n"
    quit 2
  | none => pure ()
  let places := ((← setting? "PATH").getD "").splitOn ":"
  if operands.isEmpty then quit 1
  for name in operands do
    match ← programPaths name places with
    | [] => modify fun tool => { tool with status := 1 }
    | first :: rest =>
      if !letters.contains 's' then
        for path in if letters.contains 'a' then first :: rest else [first] do
          print (path ++ "\n")

/-- Runs a program whose output is held back differently. -/
def stdbuf : ToolM Unit := do
  let arguments ← readArguments 125 true ["i,input,:", "o,output,:", "e,error,:"]
  if arguments.operands.isEmpty then misuse 125 "missing operand"
  for option in ["i", "o", "e"] do
    match arguments.value? option with
    | none => pure ()
    | some mode =>
      if mode = "L" then
        if option = "i" then misuse 125 "line buffering stdin is meaningless"
      else if (countFrom? mode).isNone then fail 125 ("invalid mode " ++ Quote.text mode)
  if !(["i", "o", "e"].any arguments.has) then misuse 125 "you must specify a buffering mode option"
  let error ← become arguments.operands (← get).environment
  fail (becomeStatus error)
    ("failed to run command " ++ Quote.text (arguments.operands.headD "") ++ ": " ++ error.text)

/-- Runs a program in a session of its own. -/
def setsid : ToolM Unit := do
  let arguments ← readArguments 1 true ["c,ctty", "f,fork", "w,wait"]
  if arguments.operands.isEmpty then
    misuse 1 "no command specified"
  let error ← become arguments.operands (← get).environment
  fail (becomeStatus error) ("failed to execute " ++ arguments.operands.headD "" ++ ": " ++ error.text)

/-! ## Files for a while -/

/-- The characters that names are made up of. -/
def nameChars : Array Char :=
  "abcdefghijklmnopqrstuvwxyzABCDEFGHIJKLMNOPQRSTUVWXYZ0123456789".toList.toArray

/-- So many characters that nobody expects. -/
def randomName : Nat → Nat → List Char
  | 0, _ => []
  | count + 1, seed =>
    let seed := (seed * 6364136223846793005 + 1442695040888963407) % Nat.pow 2 64
    nameChars.getD (seed / Nat.pow 2 33 % 62) 'x' :: randomName count seed

/-- Makes a file or a directory with a name that no other has; so many names are tried. -/
def makeFresh (arguments : Arguments) (start finish : String) (count : Nat) (template : String) :
    Nat → Nat → ToolM Unit
  | 0, _ => return
  | tries + 1, seed => do
    let path := start ++ String.ofList (randomName count seed) ++ finish
    let kind := if arguments.has "d" then "directory" else "file"
    let made ←
      if arguments.has "u" then pure (if (← inspect? path false).isSome then .error .alreadyExists else .ok ())
      else if arguments.has "d" then ask (.makeDirectory path 0o700)
      else
        match ← ask (.openFile path { write := true, create := true, fresh := true } 0o600) with
        | .ok descriptor => ask (.close descriptor)
        | .error error => pure (.error error)
    match made with
    | .ok _ => print (path ++ "\n")
    | .error .alreadyExists => makeFresh arguments start finish count template tries (seed + 12345)
    | .error error =>
      if arguments.has "q" then quit 1
      fail 1 ("failed to create " ++ kind ++ " via template " ++ Quote.text template ++ ": " ++ error.text)

/-- Makes a file with a new name. -/
def mktemp : ToolM Unit := do
  let arguments ← readArguments 1 false
    ["d,directory", "u,dry-run", "q,quiet", "p,tmpdir,?", "t,", ",suffix,:", "V,"]
  let arguments ←
    -- The letter takes the next argument, the word does not.
    match (OptionTable.ofEntries false
        ["d,directory", "u,dry-run", "q,quiet", "p,,:", "t,", ",suffix,:", ",tmpdir,?"]).read (← get).arguments with
    | .ok arguments => pure arguments
    | .error _ => pure arguments
  let template ← match arguments.operands with
    | [] => pure "tmp.XXXXXXXXXX"
    | [template] => pure template
    | _ => misuse 1 "too many templates"
  let suffixGiven := arguments.value? "suffix"
  let (stem, suffix) ← match suffixGiven with
    | some suffix =>
      if !template.endsWith "X" then
        fail 1 ("with --suffix, template " ++ Quote.text template ++ " must end in X")
      pure (template, suffix)
    | none =>
      let tail := (template.toList.reverse.takeWhile (· ≠ 'X')).reverse
      let stem := (template.dropEnd tail.length).toString
      pure (if stem.isEmpty then (template, "") else (stem, String.ofList tail))
  if suffix.contains '/' then
    fail 1 ("invalid suffix " ++ Quote.text suffix ++ ", contains directory separator")
  let count := (stem.toList.reverse.takeWhile (· = 'X')).length
  if count < 3 then fail 1 ("too few X's in template " ++ Quote.text template)
  let isIn := arguments.operands.isEmpty || ["p", "tmpdir", "t"].any arguments.has
  let variable_ := (← setting? "TMPDIR").filter fun text => !text.isEmpty
  let given := ((arguments.value? "p").orElse fun _ => arguments.value? "tmpdir").filter fun text => !text.isEmpty
  let directory :=
    if arguments.has "t" then (variable_.orElse fun _ => given).getD "/tmp"
    else (given.orElse fun _ => variable_).getD "/tmp"
  if isIn && arguments.has "t" && template.contains '/' then
    fail 1 ("invalid template, " ++ Quote.text template ++ ", contains directory separator")
  if isIn && template.startsWith "/" then
    fail 1 ("invalid template, " ++ Quote.text template ++ "; with --tmpdir, it may not be absolute")
  let place (name : String) : String := if isIn then inside directory name else name
  let seed : Nat ← ask .clock
  let own : Nat ← ask .ownNumber
  makeFresh arguments (place (stem.dropEnd count).toString) suffix count (place (stem ++ suffix)) 1000 (seed + own)

/-! ## Owners -/

/-- The number of a user or a group, by its name or as it is written. -/
def ownerNumber? (text : String) : Option Nat :=
  if text = "root" then some 0 else if text = "nobody" || text = "nogroup" then some 65534 else Numeral.natural? text

/-- Visits files, and those in directories if that is asked for. -/
def visitTree (recursive : Bool) (visit : String → ToolM Unit) : Nat → String → ToolM Unit
  | 0, _ => return
  | depth + 1, path => do
    match ← ask (.inspect path true) with
    | .error error => complain ("cannot access " ++ Quote.always path ++ ": " ++ error.text)
    | .ok info =>
      if recursive && info.sort = .directory then
        match ← namesIn path with
        | .ok names =>
          for name in names do
            visitTree recursive visit depth (inside path name)
        | .error _ => pure ()
      visit path

def ownerOptions : List String := [
  "R,recursive", "v,verbose", "c,changes", "f,silent", ",quiet", "h,no-dereference", ",dereference", ",reference,:",
  ",from,:", "H,", "L,", "P,", ",preserve-root", ",no-preserve-root"]

/-- Changes who owns files. There is only one user, to whom all belong. -/
def chown (isGroup : Bool) : ToolM Unit := do
  let arguments ← readArguments 1 false ownerOptions
  let (owner, paths) ← match arguments.operands, arguments.has "reference" with
    | [], _ => missingOperand
    | paths, true => pure ("root", paths)
    | [owner], false => misuse 1 ("missing operand after " ++ Quote.text owner)
    | owner :: paths, false => pure (owner, paths)
  if isGroup then
    if !owner.isEmpty && (ownerNumber? owner).isNone then fail 1 ("invalid group: " ++ Quote.text owner)
  else
    match owner.splitOn ":" with
    | [user] => if !user.isEmpty && (ownerNumber? user).isNone then fail 1 ("invalid user: " ++ Quote.text owner)
    | user :: group :: _ =>
      if !user.isEmpty && (ownerNumber? user).isNone then fail 1 ("invalid user: " ++ Quote.text owner)
      if !group.isEmpty && (ownerNumber? group).isNone then fail 1 ("invalid group: " ++ Quote.text owner)
    | [] => pure ()
  for path in paths do
    visitTree (arguments.has "R") (fun path => do
      if arguments.has "v" then
        print ((if isGroup then "group of " else "ownership of ") ++ Quote.always path ++ " retained as " ++
          owner ++ "\n"))
      maxDepth path

/-! ## The user and the system -/

/-- Tells the groups of users. -/
def groups : ToolM Unit := do
  let arguments ← readArguments 1 false []
  if arguments.operands.isEmpty then print "root\n"
  for name in arguments.operands do
    if name = "root" then print "root : root\n" else complain (Quote.text name ++ ": no such user")

/-- Tells the name that the user has logged in by, of which there is none. -/
def logname : ToolM Unit := do
  match (← readArguments 1 false []).operands with
  | [] => fail 1 "no login name"
  | extra :: _ => extraOperand extra

/-- Tells the terminal, of which there is none. -/
def tty : ToolM Unit := do
  let arguments ← readArguments 2 false ["s,silent", ",quiet"]
  match arguments.operands with
  | [] =>
    if !arguments.has "s" && !arguments.has "quiet" then print "not a tty\n"
    status 1
  | extra :: _ => misuse 2 ("extra operand " ++ Quote.text extra)

/-- Writes a line, whatever the arguments. -/
def constant (text : String) : ToolM Unit := do
  match (← readArguments 1 false []).operands with
  | [] => print text
  | extra :: _ => extraOperand extra

/-- Tells how many processors there are. -/
def nproc : ToolM Unit := do
  let arguments ← readArguments 1 false [",all", ",ignore,:"]
  match arguments.operands with
  | [] => print "1\n"
  | extra :: _ => extraOperand extra

/-- Tells the name of the system. -/
def hostname : ToolM Unit := do
  match (← get).arguments.filter fun text => !text.startsWith "-" with
  | [] =>
    match ← openInput "/etc/hostname" with
    | .error _ => print "localhost\n"
    | .ok descriptor =>
      let (text, _) ← readAll descriptor
      closeInput descriptor
      print text
  | _ => fail 1 "you must be root to change the host name"

/-- Makes sure that files are kept, which they are. -/
def sync : ToolM Unit := do
  let arguments ← readArguments 1 false ["d,data", "f,file-system"]
  for path in arguments.operands do
    match ← ask (.inspect path true) with
    | .ok _ => pure ()
    | .error error => complain ("error opening " ++ Quote.always path ++ ": " ++ error.text)

/-! ## Order by chance -/

/-- Items in an order that nobody expects. -/
def shuffled {α : Type} : Nat → Nat → List α → List α
  | 0, _, items => items
  | _, _, [] => []
  | fuel + 1, seed, items =>
    let seed := (seed * 6364136223846793005 + 1442695040888963407) % Nat.pow 2 64
    let place := seed / Nat.pow 2 33 % items.length
    match items.drop place with
    | item :: after => item :: shuffled fuel seed (items.take place ++ after)
    | [] => items

/-- Writes lines in an order that nobody expects. -/
def shuf : ToolM Unit := do
  let arguments ← readArguments 1 false
    ["e,echo", "i,input-range,:", "n,head-count,:", "o,output,:", "r,repeat", "z,zero-terminated",
      ",random-source,:"]
  if arguments.has "e" && arguments.has "i" then misuse 1 "cannot combine -e and -i options"
  let items ← match arguments.value? "i" with
    | some text =>
      match text.splitOn "-" with
      | [low, high] =>
        match Numeral.natural? low, Numeral.natural? high with
        | some low, some high =>
          if high + 1 < low then fail 1 ("invalid input range: " ++ Quote.text text)
          pure ((List.range (high + 1 - low)).map fun place => toString (low + place))
        | _, _ => fail 1 ("invalid input range: " ++ Quote.text text)
      | _ => fail 1 ("invalid input range: " ++ Quote.text text)
    | none =>
      if arguments.has "e" then pure arguments.operands
      else
        match arguments.operands with
        | _ :: extra :: _ => extraOperand extra
        | paths =>
          match ← openInput (paths.headD "-") with
          | .error error => fail 1 (Quote.ifNeeded (paths.headD "-") ++ ": " ++ error.text)
          | .ok descriptor =>
            let (text, _) ← readAll descriptor
            closeInput descriptor
            pure (linesOf text)
  let count ← match arguments.value? "n" with
    | none => pure none
    | some text =>
      match Numeral.natural? text with
      | some count => pure (some count)
      | none => fail 1 ("invalid line count: " ++ Quote.text text)
  let clock : Nat ← ask .clock
  let own : Nat ← ask .ownNumber
  let chosen ←
    if arguments.has "r" then do
      if items.isEmpty then fail 1 "no lines to repeat"
      pure ((List.range (count.getD 0)).flatMap fun turn => (shuffled 1 (clock + own + turn * 7919) items).take 1)
    else pure (shuffled items.length (clock + own) items)
  for item in chosen.take (count.getD chosen.length) do
    print (item ++ (if arguments.has "z" then "\x00" else "\n"))

end Shell.Machine.ToolM
