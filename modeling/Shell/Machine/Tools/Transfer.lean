import Shell.Machine.Tools.Files

/-! # Copying, moving and linking

Programs that bring files to other places. A file that is in the way is replaced, kept under another name, or left
alone.
-/

namespace Shell.Machine

/-- What is moved or copied, and where to. -/
structure Transfer where
  sources : List String
  target : String
  /-- Whether the target is a directory that takes in the sources. -/
  into : Bool
deriving Repr, DecidableEq, Inhabited

namespace ToolM

def placeOf (transfer : Transfer) (source : String) : String :=
  if transfer.into then inside transfer.target (lastName source) else transfer.target

def readTransfer (arguments : Arguments) : ToolM Transfer := do
  let operands := arguments.operands
  let refuse {α : Type} (error : SystemError) (kind target : String) : ToolM α :=
    fail 1 (kind ++ " " ++ Quote.always target ++ ": " ++ error.text)
  match arguments.value? "t" with
  | some target =>
    if operands.isEmpty then misuse 1 "missing file operand"
    match ← ask (.inspect target true) with
    | .ok { sort := .directory, .. } => return { sources := operands, target, into := true }
    | .ok _ => refuse .notADirectory "target directory" target
    | .error error => refuse error "target directory" target
  | none =>
    match operands with
    | [] => misuse 1 "missing file operand"
    | [source] => misuse 1 ("missing destination file operand after " ++ Quote.always source)
    | operands =>
      let target := operands.getLastD ""
      let sources := operands.dropLast
      if arguments.has "T" then
        match operands with
        | _ :: _ :: extra :: _ => extraOperand extra
        | _ => return { sources, target, into := false }
      else
        match ← ask (.inspect target true) with
        | .ok info =>
          if info.sort = .directory then return { sources, target, into := true }
          else if 1 < sources.length then refuse .notADirectory "target" target
          else return { sources, target, into := false }
        | .error error =>
          if 1 < sources.length then refuse error "target" target
          else return { sources, target, into := false }

/-! ## Files in the way -/

/-- How a file in the way is kept. -/
inductive Keeping where
  | nowhere
  | simple
  | existing
  | numbered
deriving Repr, DecidableEq, Inhabited

/-- The words for how files are kept, as they are listed. -/
def keepingWords : List (String × Keeping) := [
  ("none", .nowhere), ("off", .nowhere), ("simple", .simple), ("never", .simple), ("existing", .existing),
  ("nil", .existing), ("numbered", .numbered), ("t", .numbered)]

/-- How arguments ask for files in the way to be kept. -/
def keepingOf (arguments : Arguments) : ToolM Keeping := do
  let given := ((arguments.values "backup").filter fun text => !text.isEmpty).getLast?
  let asked := arguments.has "b" || arguments.has "backup" || arguments.has "S"
  if !asked then return .nowhere
  let text := given.getD ((← setting? "VERSION_CONTROL").getD "existing")
  match keepingWords.filter fun word => word.1.startsWith text with
  | [] =>
    report ("invalid argument " ++ Quote.text text ++ " for 'backup type'")
    discard (ask (.write 2 (Octets.toBytes
      "Valid arguments are:\n  - 'none', 'off'\n  - 'simple', 'never'\n  - 'existing', 'nil'\n  - 'numbered', 't'\n")))
    advise 1
  | (_, keeping) :: _ => return keeping

/-- The greatest number that a kept file with a name has. -/
def keptNumber (names : List String) (name : String) : Nat :=
  (names.filterMap fun other =>
    if other.startsWith (name ++ ".~") && other.endsWith "~" then
      Numeral.natural? ((other.drop (name.length + 2)).dropEnd 1).toString
    else none).foldl max 0

/-- Gives a file in the way another name, which is the result. -/
def keep (arguments : Arguments) (keeping : Keeping) (target : String) : ToolM (Option String) := do
  if keeping = .nowhere || (← inspect? target false).isNone then return none
  let names ← match ← namesIn (directoryName target) with
    | .ok names => pure names
    | .error _ => pure []
  let number := keptNumber names (lastName target)
  let suffix ← match arguments.value? "S" with
    | some suffix => pure suffix
    | none => pure ((← setting? "SIMPLE_BACKUP_SUFFIX").getD "~")
  let isNumbered := keeping = .numbered || (keeping = .existing && number ≠ 0)
  let name := if isNumbered then target ++ ".~" ++ toString (number + 1) ++ "~" else target ++ suffix
  match ← ask (.rename target name) with
  | .ok _ => return some name
  | .error _ => return none

/-- What is said of a file that was kept. -/
def keptText (kept : Option String) : String :=
  match kept with
  | some name => " (backup: " ++ Quote.always name ++ ")"
  | none => ""

/-- Which of the options that exclude one another was given last, when a file is in the way. -/
def wayOf (arguments : Arguments) : Option String :=
  arguments.last? ["f", "i", "n"]

/-! ## Copying -/

/-- Copies what can be read from one descriptor to another. -/
def copyDescriptor (input output : Nat) : ToolM (Option SystemError) := do
  let (_, error) ← forPieces input
    (fun piece _ => do
      discard (ask (.write output piece))
      return (true, ()))
    patience ()
  return error

/-- Copies the content of a file. -/
def copyContent (source target : String) (mode : Nat) (force : Bool) : ToolM Bool := do
  match ← ask (.openFile source { read := true } 0) with
  | .error error =>
    complain ("cannot open " ++ Quote.always source ++ " for reading: " ++ error.text)
    return false
  | .ok input =>
    if force then discard (ask (.remove target))
    let isThere := (← inspect? target true).isSome
    let write : OpenMode := { write := true, create := true, truncate := true }
    match ← ask (.openFile target write (mode &&& 0o777)) with
    | .error error =>
      discard (ask (.close input))
      complain ("cannot create regular file " ++ Quote.always target ++ ": " ++
        (if target.endsWith "/" && !isThere then SystemError.notADirectory.text else error.text))
      return false
    | .ok output =>
      let error ← copyDescriptor input output
      discard (ask (.close input))
      discard (ask (.close output))
      match error with
      | some error =>
        complain ("error reading " ++ Quote.always source ++ ": " ++ error.text)
        return false
      | none => return true

/-- What stays the same while files are copied. -/
structure Copying where
  arguments : Arguments
  keeping : Keeping
  /-- The source and the target that were named. -/
  top : String × String
  /-- The directory that was made for the source that was named. -/
  made : Option FileId := none

/-- True when directories are copied with all that is in them. -/
def isRecursive (arguments : Arguments) : Bool :=
  ["r", "R", "a"].any arguments.has

def keepsLinks (arguments : Arguments) (atTop : Bool) : Bool :=
  match arguments.last? ["d", "P", "L", "H", "a"] with
  | some "L" => false
  | some "H" => !atTop
  | some _ => true
  | none => isRecursive arguments || arguments.has "s" || arguments.has "l"

/-- Copies a file that is no directory to a place where nothing is, or a file that may be written over. -/
def copyFile (copying : Copying) (info : FileInfo) (source target : String) (kept : Option String) :
    ToolM Bool := do
  let arguments := copying.arguments
  let made (kind : String) (result : Except SystemError Unit) : ToolM Bool := do
    match result with
    | .ok _ => return true
    | .error error =>
      complain ("cannot create " ++ kind ++ " link " ++ Quote.always target ++ " to " ++ Quote.always source ++
        ": " ++ error.text)
      return false
  if arguments.has "v" then
    print (Quote.always source ++ " -> " ++ Quote.always target ++ keptText kept ++ "\n")
  if arguments.has "s" then
    if !source.startsWith "/" && directoryName target ≠ "." then
      complain (Quote.ifNeeded target ++ ": can make relative symbolic links only in current directory")
      return false
    if arguments.has "f" then discard (ask (.remove target))
    made "symbolic" (← ask (.makeLink source target))
  else if arguments.has "l" then
    if arguments.has "f" then discard (ask (.remove target))
    made "hard" (← ask (.linkFile source target))
  else if info.sort = .link then
    match ← ask (.readLink source) with
    | .ok link =>
      discard (ask (.remove target))
      discard (ask (.makeLink link target))
    | .error _ => pure ()
    return true
  else
    let copied ← copyContent source target info.mode (arguments.has "remove-destination")
    if copied && (["p", "a", "preserve"].any arguments.has) then
      discard (ask (.changeMode target info.mode))
      discard (ask (.stamp target (some info.modified)))
    return copied

/-- Copies a file, or a directory with all that is in it. -/
def copyTree (copying : Copying) : Nat → Bool → String → String → ToolM Bool
  | 0, _, _, _ => return false
  | depth + 1, atTop, source, target => do
    let arguments := copying.arguments
    match ← ask (.inspect source (!keepsLinks arguments atTop)) with
    | .error error =>
      complain ("cannot stat " ++ Quote.always source ++ ": " ++ error.text)
      return false
    | .ok info =>
      let there ← match ← ask (.inspect target true) with
        | .ok other => pure (some other)
        | .error .missing => pure none
        | .error error =>
          complain ("cannot stat " ++ Quote.always target ++ ": " ++ error.text)
          return false
      if info.sort = .directory then
        if !isRecursive arguments then
          complain ("-r not specified; omitting directory " ++ Quote.always source)
          return false
        if copying.made = some info.id then
          complain ("cannot copy a directory, " ++ Quote.always copying.top.1 ++ ", into itself, " ++
            Quote.always copying.top.2)
          return false
        match there with
        | some other =>
          if other.sort ≠ .directory then
            complain ("cannot overwrite non-directory " ++ Quote.always target ++
              " with directory " ++ Quote.always source)
            return false
        | none =>
          match ← ask (.makeDirectory target 0o777) with
          | .ok _ =>
            if arguments.has "v" then print (Quote.always source ++ " -> " ++ Quote.always target ++ "\n")
          | .error error =>
            complain ("cannot create directory " ++ Quote.always target ++ ": " ++ error.text)
            return false
        let made : Option FileId ← if atTop then do pure ((← inspect? target true).map FileInfo.id)
          else pure copying.made
        match ← namesIn source with
        | .error error =>
          complain ("cannot access " ++ Quote.always source ++ ": " ++ error.text)
          return false
        | .ok names =>
          let mut done := true
          for name in names do
            let copied ← copyTree { copying with made } depth false (inside source name) (inside target name)
            done := done && copied
          if there.isNone then
            discard (ask (.changeMode target info.mode))
            if ["p", "a", "preserve"].any arguments.has then discard (ask (.stamp target (some info.modified)))
          return done
      else
        match there with
        | some other =>
          let isReplaced := arguments.has "s" && arguments.has "f"
          if other.id = info.id && (arguments.has "l" || isReplaced) && source ≠ target then return true
          if other.id = info.id && copying.keeping = .nowhere then
            complain (Quote.always source ++ " and " ++ Quote.always target ++ " are the same file")
            return false
          if other.sort = .directory then
            complain ("cannot overwrite directory " ++ Quote.always target ++
              " with non-directory " ++ (if atTop then "" else Quote.always source))
            return false
          if wayOf arguments = some "n" then return true
          if arguments.has "u" && info.modified ≤ other.modified then return true
          if wayOf arguments = some "i" then
            if !(← confirm ("overwrite " ++ Quote.always target)) then return true
        | none => pure ()
        let kept ← keep arguments copying.keeping target
        copyFile copying info source target kept

/-- The options for files that are in the way. -/
def keepingOptions : List String := [",backup,?", "b,", "S,suffix,:"]

def copyOptions : List String := [
  "r,recursive", "R,", "a,archive", "p,", "f,force", "n,no-clobber", "v,verbose", "d,",
  "t,target-directory,:", "T,no-target-directory", "i,interactive", "u,update", "L,dereference",
  "P,no-dereference", "H,", "l,link", "s,symbolic-link", ",remove-destination", "x,one-file-system",
  ",preserve,?", ",no-preserve,:", ",parents", ",attributes-only", ",strip-trailing-slashes", ",sparse,:",
  ",reflink,?", "Z,context,?", ",copy-contents"] ++ keepingOptions

/-- Makes the directories of a path in another directory, as a copy of the path is to stand there. -/
def copyParents (verbose : Bool) (target path : String) : ToolM Unit := do
  let names := ((directoryName path).splitOn "/").filter fun name => !name.isEmpty && name ≠ "."
  for count in List.range names.length do
    let part := "/".intercalate (names.take (count + 1))
    match ← ask (.makeDirectory (inside target part) 0o777) with
    | .ok _ => if verbose then print (part ++ " -> " ++ inside target part ++ "\n")
    | .error _ => pure ()

/-- Copies files. -/
def cp : ToolM Unit := do
  let arguments ← readArguments 1 false copyOptions
  let transfer ← readTransfer arguments
  let keeping ← keepingOf arguments
  let mut done : List (String × String) := []
  for source in transfer.sources do
    let source := if arguments.has "strip-trailing-slashes" then trimSlashes source else source
    let target ← if arguments.has "parents" then do
        copyParents (arguments.has "v") transfer.target source
        pure (inside transfer.target source)
      else pure (placeOf transfer source)
    let isThere := (← inspect? source true).isSome && keeping = .nowhere
    if isThere && done.contains (source, target) then
      report ("warning: source file " ++ Quote.always source ++ " specified more than once")
    else if isThere && done.any fun entry => entry.2 = target then
      complain ("will not overwrite just-created " ++ Quote.always target ++ " with " ++ Quote.always source)
    else if ← copyTree { arguments, keeping, top := (source, target) } maxDepth true source target then
      done := (source, target) :: done

/-! ## Moving -/

/-- Moves a file. False if it stays where it is. -/
def moveFile (arguments : Arguments) (keeping : Keeping) (done : List String) (source target : String) :
    ToolM Bool := do
  match ← ask (.inspect source false) with
  | .error error =>
    complain ("cannot stat " ++ Quote.always source ++ ": " ++ error.text)
    return false
  | .ok info =>
    match ← inspect? target false with
    | some other =>
      if wayOf arguments = some "n" then return false
      if other.id = info.id then
        complain (Quote.always source ++ " and " ++ Quote.always target ++ " are the same file")
        return false
      if done.contains target && keeping = .nowhere then
        complain ("will not overwrite just-created " ++ Quote.always target ++ " with " ++ Quote.always source)
        return false
      if arguments.has "u" && info.modified ≤ other.modified then return false
      if wayOf arguments = some "i" then
        if !(← confirm ("overwrite " ++ Quote.always target)) then return false
      if other.sort = .directory && info.sort ≠ .directory then
        complain ("cannot overwrite directory " ++ Quote.always target ++ " with non-directory " ++
          Quote.always source)
        return false
      if other.sort ≠ .directory && info.sort = .directory then
        complain ("cannot overwrite non-directory " ++ Quote.always target ++ " with directory " ++
          Quote.always source)
        return false
    | none => pure ()
    let kept ← keep arguments keeping target
    match ← ask (.rename source target) with
    | .ok _ =>
      if arguments.has "v" then
        print ("renamed " ++ Quote.always source ++ " -> " ++ Quote.always target ++ keptText kept ++ "\n")
      return true
    | .error .invalid =>
      complain ("cannot move " ++ Quote.always source ++ " to a subdirectory of itself, " ++
        Quote.always target)
      return false
    | .error error =>
      complain ("cannot move " ++ Quote.always source ++ " to " ++ Quote.always target ++ ": " ++
        error.text)
      return false

/-- Moves files. -/
def mv : ToolM Unit := do
  let arguments ← readArguments 1 false
    (["f,force", "n,no-clobber", "v,verbose", "i,interactive", "u,update", "t,target-directory,:",
      "T,no-target-directory", ",strip-trailing-slashes", "Z,context"] ++ keepingOptions)
  let transfer ← readTransfer arguments
  let keeping ← keepingOf arguments
  let mut done : List String := []
  for source in transfer.sources do
    let source := if arguments.has "strip-trailing-slashes" then trimSlashes source else source
    let target := placeOf transfer source
    if ← moveFile arguments keeping done source target then done := target :: done

/-! ## Installing -/

/-- Makes directories with permissions, and those that lead to them. -/
def installDirectories (arguments : Arguments) (mode : Nat) (path : String) : ToolM Unit := do
  let names := path.splitOn "/"
  for count in List.range names.length do
    let place := "/".intercalate (names.take (count + 1))
    if !place.isEmpty && !(← isDirectory place) then
      match ← ask (.makeDirectory place 0o777) with
      | .ok _ =>
        if arguments.has "v" then
          print ((← get).name ++ ": creating directory " ++ Quote.always place ++ "\n")
      | .error error =>
        complain ("cannot create directory " ++ Quote.always place ++ ": " ++ error.text)
        return
  discard (ask (.changeMode path mode))

/-- Copies a file and sets the permissions of the copy. -/
def installFile (arguments : Arguments) (keeping : Keeping) (mode : Nat) (source target : String) : ToolM Unit := do
  match ← ask (.inspect source true) with
  | .error error => complain ("cannot stat " ++ Quote.always source ++ ": " ++ error.text)
  | .ok info =>
    if info.sort = .directory then complain ("omitting directory " ++ Quote.always source)
    else
      if arguments.has "D" then
        let parent := directoryName target
        if !(← isDirectory parent) then installDirectories arguments 0o755 parent
      match ← inspect? target false with
      | none => pure ()
      | some other =>
        if other.id = info.id then
          complain (Quote.always source ++ " and " ++ Quote.always target ++ " are the same file")
          return
        if other.sort = .directory then
          complain ("cannot overwrite directory " ++ Quote.always target ++ " with non-directory")
          return
      let kept ← keep arguments keeping target
      match ← ask (.remove target) with
      | .ok _ => if arguments.has "v" then print ("removed " ++ Quote.always target ++ "\n")
      | .error _ => pure ()
      if arguments.has "v" then
        print (Quote.always source ++ " -> " ++ Quote.always target ++ keptText kept ++ "\n")
      if ← copyContent source target 0o600 false then
        discard (ask (.changeMode target mode))
        if arguments.has "p" then discard (ask (.stamp target (some info.modified)))

/-- Copies files and sets their permissions, or makes directories. -/
def install : ToolM Unit := do
  let arguments ← readArguments 1 false
    (["m,mode,:", "d,directory", "D,", "t,target-directory,:", "T,no-target-directory", "v,verbose", "c,",
      "C,compare", "p,preserve-timestamps", "o,owner,:", "g,group,:", "s,strip"] ++ keepingOptions)
  let text := (arguments.value? "m").getD "755"
  let some mode := Permissions.changed? text 0 (arguments.has "d") 0
    | fail 1 ("invalid mode " ++ Quote.text text)
  if arguments.has "d" then
    if arguments.operands.isEmpty then misuse 1 "missing file operand"
    arguments.operands.forM (installDirectories arguments mode)
  else
    let transfer ← readTransfer arguments
    let keeping ← keepingOf arguments
    for source in transfer.sources do
      installFile arguments keeping mode source (placeOf transfer source)

/-! ## Links -/

/-- True when a path leads to a directory without following a link at its end. -/
def isDirectoryHere (path : String) : ToolM Bool := do
  return (← inspect? path false).any fun info => info.sort = .directory

/-- A path as it is seen from a directory, both given from the root on. -/
def relativeTo (directory path : String) : String :=
  let names (path : String) : List String := (path.splitOn "/").filter fun name => !name.isEmpty
  go (names directory) (names path)
where
  /-- Leaves out what two paths begin with alike. -/
  go : List String → List String → String
    | one :: rest, other :: rest' =>
      if one = other then go rest rest' else upAndDown (one :: rest).length (other :: rest')
    | rest, names => upAndDown rest.length names
  /-- Goes up so often and then down. -/
  upAndDown (count : Nat) (names : List String) : String :=
    match List.replicate count ".." ++ names with
    | [] => "."
    | names => "/".intercalate names

def makeOneLink (arguments : Arguments) (keeping : Keeping) (source target : String) : ToolM Unit := do
  let symbolic := arguments.has "s"
  if !symbolic then
    match ← ask (.inspect source (arguments.has "L")) with
    | .error error =>
      complain ("failed to access " ++ Quote.always source ++ ": " ++ error.text)
      return
    | .ok info =>
      if info.sort = .directory then
        complain (Quote.ifNeeded source ++ ": hard link not allowed for directory")
        return
  let source ← if !(symbolic && arguments.has "r") then pure source
    else
      match ← realPathFrom false true (directoryName target), ← realPathFrom false true source with
      | some directory, some path => pure (relativeTo directory path)
      | _, _ => pure source
  let there ← inspect? target false
  if there.isSome && wayOf arguments = some "i" then
    if !(← confirm ("replace " ++ Quote.always target)) then return
  let kept ← keep arguments keeping target
  if (arguments.has "f" || wayOf arguments = some "i") && !(← isDirectoryHere target) then
    let same := !symbolic && (← inspect? source false).any fun info => there.any fun other => other.id = info.id
    if same then
      if source = target then
        complain (Quote.always source ++ " and " ++ Quote.always target ++ " are the same file")
      return
    discard (ask (.remove target))
  let made ← if symbolic then ask (.makeLink source target) else ask (.linkFile source target)
  match made with
  | .ok _ =>
    if arguments.has "v" then
      let keptText := match kept with
        | some name => Quote.always name ++ " ~ "
        | none => ""
      print (keptText ++ Quote.always target ++ (if symbolic then " -> " else " => ") ++ Quote.always source ++ "\n")
  | .error error =>
    let kind := if symbolic then "symbolic" else "hard"
    let arrow :=
      if error = .alreadyExists then "" else
        if symbolic then "" else " => " ++ Quote.always source
    complain ("failed to create " ++ kind ++ " link " ++ Quote.always target ++ arrow ++ ": " ++
      error.text)

/-- Makes links. -/
def ln : ToolM Unit := do
  let arguments ← readArguments 1 false
    (["s,symbolic", "f,force", "n,no-dereference", "v,verbose", "t,target-directory,:",
      "T,no-target-directory", "r,relative", "i,interactive", "L,logical", "P,physical", "d,directory",
      "F,"] ++ keepingOptions)
  let keeping ← keepingOf arguments
  match arguments.value? "t", arguments.operands with
  | _, [] => misuse 1 "missing file operand"
  | some target, operands =>
    for source in operands do
      makeOneLink arguments keeping source (inside target (lastName source))
  | none, [source] =>
    if arguments.has "T" then misuse 1 ("missing destination file operand after " ++ Quote.always source)
    makeOneLink arguments keeping source (inside "." (lastName source))
  | none, operands =>
    let target := operands.getLastD ""
    let info ← inspect? target (!arguments.has "n")
    let into := !arguments.has "T" && info.any fun info => info.sort = .directory
    if into then
      for source in operands.dropLast do
        makeOneLink arguments keeping source (inside target (lastName source))
    else if 2 < operands.length then
      if arguments.has "T" then extraOperand (operands.getD 2 "")
      fail 1 ("target " ++ Quote.always target ++ ": " ++
        (if info.isSome then SystemError.notADirectory.text else SystemError.missing.text))
    else makeOneLink arguments keeping (operands.headD "") target

/-- The operands of a program that has to have so many. -/
def exactOperands (count : Nat) : ToolM (List String) := do
  let operands := (← readArguments 1 false []).operands
  if count < operands.length then extraOperand (operands.getD count "")
  if operands.isEmpty then missingOperand
  if operands.length < count then misuse 1 ("missing operand after " ++ Quote.text (operands.getLastD ""))
  return operands

/-- Gives a file one more name. -/
def link : ToolM Unit := do
  let operands ← exactOperands 2
  let source := operands.headD ""
  let target := operands.getD 1 ""
  match ← ask (.linkFile source target) with
  | .ok _ => return
  | .error error =>
    fail 1 ("cannot create link " ++ Quote.always target ++ " to " ++ Quote.always source ++ ": " ++ error.text)

/-- Takes a name from a file. -/
def unlink : ToolM Unit := do
  let path := (← exactOperands 1).headD ""
  match ← ask (.remove path) with
  | .ok _ => return
  | .error error => fail 1 ("cannot unlink " ++ Quote.always path ++ ": " ++ error.text)

end ToolM

end Shell.Machine
