import Shell.Machine.Script.Builtin.Options
import Shell.Machine.Utility.Permissions

/-! # Builtins for directories

The directory that a script is in, by the names that led there, and the permissions that new files do not get.
-/

namespace Shell.Machine.Script.ScriptM

/-- Where names lead from a path, by the names alone. The path is kept in reverse. -/
def followNames : List String → List String → List String
  | reached, [] => reached
  | reached, name :: rest =>
    if name.isEmpty || name = "." then followNames reached rest
    else if name = ".." then followNames (reached.drop 1) rest
    else followNames (name :: reached) rest

/-- Where a path leads from a directory, by the names alone. -/
def followPath (directory path : String) : String :=
  let start := if path.startsWith "/" then [] else followNames [] (directory.splitOn "/")
  let origin := if path.startsWith "/" then path else directory
  let root := if origin.startsWith "//" && !origin.startsWith "///" then "//" else "/"
  root ++ "/".intercalate (followNames start (path.splitOn "/")).reverse

def isDirectory (path : String) : ScriptM Bool := do
  match ← ask (.inspect path true) with
  | .ok info => return info.sort = .directory
  | .error _ => return false

/-- A name in a directory that a search path names; an empty name stands for where the script is. -/
def inPlace (directory name : String) : String :=
  if directory.isEmpty then name
  else if directory.endsWith "/" then directory ++ name
  else directory ++ "/" ++ name

/-- The first of some directories in which a name is that of a directory. -/
def findDirectory (name : String) : List String → ScriptM (Option (String × Bool))
  | [] => return none
  | place :: rest => do
    let path := inPlace place name
    if ← isDirectory path then return some (path, !place.isEmpty) else findDirectory name rest

def goTo (path : String) (physical : Bool) : ScriptM Bool := do
  let old := (← get).directory
  let target := if physical then path else followPath old path
  match ← ask (.changeDirectory target) with
  | .error _ => return false
  | .ok _ =>
    let directory : String ← if physical then ask .workingDirectory else pure target
    modify fun state =>
      let known := state.known.map fun known => { known with outdated := true }
      let state := { state with directory, known }
      let state := state.assign "OLDPWD" old true
      state.assign "PWD" directory true
    return true

/-- True for names that are not looked for elsewhere. -/
def isAnchored (name : String) : Bool :=
  name.startsWith "/" || name = "." || name = ".." || name.startsWith "./" || name.startsWith "../"

/-- Goes to a directory that arguments name. -/
def cd (arguments : List String) : ScriptM Nat := do
  let (options, operands) ← readOptions "LP" arguments
  let physical := (options.getLast?.map (·.1)) = some 'P'
  let name ← match operands with
    | [] => pure ((← get).value? "HOME" |>.getD "")
    | "-" :: _ => pure ((← get).value? "OLDPWD" |>.getD "")
    | name :: _ => pure name
  let prints := operands.head? = some "-"
  let found ←
    if isAnchored name then pure none
    else
      let searchPath := ((← get).value? "CDPATH").getD ""
      findDirectory (if name.isEmpty then "." else name) (searchPath.splitOn ":")
  let (path, shown) := found.getD (name, false)
  if path.isEmpty then fail ("can't cd to " ++ name)
  if !(← goTo path physical) then fail ("can't cd to " ++ name)
  if prints || shown then emit ((← get).directory ++ "\n") else return 0

/-- Writes the directory that the script is in. -/
def pwd (arguments : List String) : ScriptM Nat := do
  let (options, _) ← readOptions "LP" arguments
  if (options.getLast?.map (·.1)) = some 'P' then
    let directory : String ← ask .workingDirectory
    emit (directory ++ "\n")
  else emit ((← get).directory ++ "\n")

/-! ## Permissions of new files -/

/-- Shows or sets the permissions that new files do not get. -/
def umask (arguments : List String) : ScriptM Nat := do
  let (options, operands) ← readOptions "S" arguments
  let old : Nat ← ask (.mask none)
  match operands with
  | [] =>
    if options.isEmpty then
      emit (Numeral.padLeft 4 '0' (Numeral.inBase 8 old) ++ "\n")
    else emit (Permissions.maskText old)
  | text :: _ =>
    if text.toList.head?.any Char.isDigit then
      if !text.all (fun c => '0' ≤ c && c ≤ '7') then fail ("Illegal number: " ++ text)
      let mask := (Numeral.readInt (some 8) text).value.toNat
      discard (ask (.mask (some mask)))
      return 0
    else
      match Permissions.applyClauses (0o777 - old) (text.splitOn ",") with
      | some permissions =>
        discard (ask (.mask (some (0o777 - permissions))))
        return 0
      | none => fail ("Illegal mode: " ++ text)

end Shell.Machine.Script.ScriptM

/-! ## Directories to come back to

How scripts of the extended dialect go to directories, and the stack of directories that they may come back to.
-/

namespace Shell.Machine.Script.ScriptM

/-- What is wrong with a directory that a script cannot go to. -/
def placeFault (path : String) : ScriptM SystemError := do
  match ← ask (.changeDirectory path) with
  | .ok _ => return .missing
  | .error error => return error

/-- Goes to a directory, or reports why that is not possible. -/
def goOrReport (path shown : String) (physical : Bool) : ScriptM Bool := do
  if ← goTo path physical then return true
  let fault ← placeFault path
  warn (shown ++ ": " ++ fault.text)
  return false

/-- Goes to a directory that arguments name. -/
def cdExtended (arguments : List String) : ScriptM Nat := do
  let (options, operands) ← readOptions "LPe@" arguments
  let physical := ((options.filter fun option => option.1 = 'L' || option.1 = 'P').getLast?.map (·.1)) = some 'P' ||
    (options.isEmpty && (← get).hasOption 'P')
  let state ← get
  let needed (name : String) : ScriptM String := do
    match state.value? name with
    | some value => return value
    | none => failWith 1 (name ++ " not set")
  let name ← match operands with
    | [] => needed "HOME"
    | ["-"] => needed "OLDPWD"
    | [name] => pure name
    | _ => failWith 1 "too many arguments"
  if name.isEmpty then
    discard (goTo state.directory physical)
    return 0
  let found ←
    if isAnchored name || operands = ["-"] || operands.isEmpty then pure none
    else findDirectory name ((state.value? "CDPATH").getD "" |>.splitOn ":")
  let (path, shown) := found.getD (name, false)
  if !(← goOrReport path name physical) then return 1
  if operands = ["-"] || shown then emit ((← get).directory ++ "\n") else return 0

/-! ## The stack -/

/-- The directories of the stack, the current one first. -/
def stackOf (state : State) : List String :=
  state.directory :: state.directories

/-- Writes the directories of the stack. -/
def showStack : ScriptM Nat := do
  let state ← get
  emit (" ".intercalate ((stackOf state).map state.shortened) ++ "\n")

/-- The place that a text after a sign names, counted from the top or from the bottom. -/
def stackPlace? (text : String) (size : Nat) : Option (Option Nat) :=
  match text.toList with
  | sign :: digits =>
    if (sign = '+' || sign = '-') && !digits.isEmpty && digits.all Char.isDigit then
      let number := (String.ofList digits).toNat?.getD 0
      if size ≤ number then some none
      else some (some (if sign = '+' then number else size - 1 - number))
    else none
  | [] => none

/-- Refuses a place that the stack does not have. -/
def refusePlace (text : String) : ScriptM Nat := do
  if (← get).directories.isEmpty then warn "directory stack empty"
  else warn ((text.drop 1).toString ++ ": directory stack index out of range")
  return 1

/-- Takes a leading `-n` away, which says that the current directory stays. -/
def withoutStay : List String → Bool × List String
  | "-n" :: rest => (true, rest)
  | "--" :: rest => (false, rest)
  | arguments => (false, arguments)

/-- Refuses an argument that names no place in the stack. -/
def refuseStackArgument (text : String) : ScriptM Nat := do
  warn (text ++ ": invalid number")
  advise

/-- Makes a stack the stack of the script, whose top is the current directory. -/
def adoptStack (stays : Bool) (all : List String) : ScriptM Nat := do
  match all with
  | [] => return 1
  | top :: rest =>
    if stays then
      modify fun state => { state with directories := rest }
      showStack
    else if ← goOrReport top top false then
      modify fun state => { state with directories := rest }
      showStack
    else return 1

/-- Puts a directory on the stack and goes there. -/
def pushd (arguments : List String) : ScriptM Nat := do
  let (stays, operands) := withoutStay arguments
  let state ← get
  let all := stackOf state
  match operands with
  | [] =>
    match all with
    | first :: second :: rest => adoptStack stays (second :: first :: rest)
    | _ =>
      warn "no other directory"
      return 1
  | text :: _ =>
    match stackPlace? text all.length with
    | some (some place) => adoptStack stays (all.drop place ++ all.take place)
    | some none => refusePlace text
    | none =>
      if text.startsWith "-" && text ≠ "-" then refuseStackArgument text
      else if stays then
        modify fun state => { state with directories := text :: state.directories }
        showStack
      else
        let target := if text = "-" then (state.value? "OLDPWD").getD "" else text
        if ← goOrReport target text false then
          modify fun inner => { inner with directories := state.directory :: state.directories }
          showStack
        else return 1

/-- Takes a directory from the stack. -/
def popd (arguments : List String) : ScriptM Nat := do
  let (stays, operands) := withoutStay arguments
  let all := stackOf (← get)
  if all.length < 2 && operands.isEmpty then
    warn "directory stack empty"
    return 1
  match operands with
  | [] =>
    if stays then adoptStack true (all.take 1 ++ all.drop 2) else adoptStack false (all.drop 1)
  | text :: _ =>
    match stackPlace? text all.length with
    | some (some 0) => adoptStack stays (all.drop 1)
    | some (some place) => adoptStack true (all.take place ++ all.drop (place + 1))
    | some none => refusePlace text
    | none =>
      if text.startsWith "-" then refuseStackArgument text
      else
        warn (text ++ ": invalid argument")
        advise

/-- Shows the stack. -/
def dirs (arguments : List String) : ScriptM Nat := do
  let letters :=
    (arguments.takeWhile fun text => text.startsWith "-" && (text.toList.drop 1).all fun c => "clpv".contains c)
  let flags := String.join (letters.map fun text => (text.drop 1).toString)
  let rest := arguments.drop letters.length
  if flags.contains 'c' then
    modify fun state => { state with directories := [] }
    return 0
  let state ← get
  let all := stackOf state
  let shown := all.map fun path => if flags.contains 'l' then path else state.shortened path
  match rest with
  | text :: _ =>
    match stackPlace? text all.length with
    | some (some place) => emit (shown.getD place "" ++ "\n")
    | some none => refusePlace text
    | none =>
      warn (text ++ (if text.startsWith "-" then ": invalid option" else ": invalid argument"))
      advise
  | [] =>
    if flags.contains 'v' then
      let lines := (List.range shown.length).zip shown
      emit (String.join (lines.map fun (number, path) =>
        Numeral.padLeft 2 ' ' (toString number) ++ "  " ++ path ++ "\n"))
    else if flags.contains 'p' then emit (String.join (shown.map (· ++ "\n")))
    else emit (" ".intercalate shown ++ "\n")

/-! ## Permissions of new files -/

/-- Shows or sets the permissions that new files do not get. -/
def umaskExtended (arguments : List String) : ScriptM Nat := do
  let (options, operands) ← readOptions "pS" arguments
  let has (letter : Char) : Bool := options.any fun option => option.1 = letter
  let show_ : ScriptM Nat := do
    let mask : Nat ← ask (.mask none)
    let start := if has 'p' then (if has 'S' then "umask -S " else "umask ") else ""
    if has 'S' then emit (start ++ Permissions.maskText mask)
    else emit (start ++ Numeral.padLeft 4 '0' (Numeral.inBase 8 mask) ++ "\n")
  match operands with
  | [] => show_
  | text :: _ =>
    if text.toList.head?.any Char.isDigit then
      if !text.all (fun c => '0' ≤ c && c ≤ '7') then
        warn (text ++ ": octal number out of range")
        return 1
      let mask := (Numeral.readInt (some 8) text).value.toNat
      if 0o777 < mask then
        warn (text ++ ": octal number out of range")
        return 1
      discard (ask (.mask (some mask)))
    else
      let old : Nat ← ask (.mask none)
      match Permissions.applyClauses (0o777 - old) (text.splitOn ",") with
      | some permissions => discard (ask (.mask (some (0o777 - permissions))))
      | none =>
        let bad := (text.toList.find? fun c => !"ugoa".contains c).getD ' '
        warn ("\x60" ++ String.singleton bad ++ "': invalid symbolic mode operator")
        return 1
    if has 'S' then show_ else return 0

end Shell.Machine.Script.ScriptM
