import Shell.Machine.Script.Paths

/-! # Redirections

How the descriptors of a script are changed for a command and set back after it.
-/

namespace Shell.Machine.Script

/-- A redirection whose words have been expanded. -/
inductive PreparedRedirect where
  | file (descriptor : Nat) (mode : RedirectMode) (path : String)
  /-- Without a source the descriptor is closed. -/
  | duplicate (descriptor : Nat) (source : Option Nat)
  | document (descriptor : Nat) (text : String)
  /-- Makes a descriptor stand for what another one stands for, which is closed. -/
  | move (descriptor source : Nat)
  /-- A word that is no path and no descriptor. -/
  | refused (text : String)
deriving Repr, DecidableEq, Inhabited

def PreparedRedirect.descriptor : PreparedRedirect → Nat
  | file descriptor _ _ => descriptor
  | duplicate descriptor _ => descriptor
  | document descriptor _ => descriptor
  | move descriptor _ => descriptor
  | refused _ => 0

/-- A descriptor that was changed, and where what it stood for is kept, if it stood for anything. -/
abbrev SavedDescriptor := Nat × Option Nat

namespace ScriptM

/-- A word as it is written, as far as that is simple. -/
def asWritten (word : Word) : String :=
  String.join <| word.map fun
    | .text text _ => text
    | .parameter name _ _ => "$" ++ name
    | _ => ""

/-- The one field that the word of a redirection has to be. -/
def fieldOf (run : Runner) (word : Word) : ScriptM String := do
  if !(← isExtended) then return ← expandText run .atStart word
  match ← expandFields run word with
  | [field] => return field
  | _ => throw .error

/-- Expands the words of a redirection. -/
def prepare (run : Runner) : Redirect → ScriptM PreparedRedirect
  | .file descriptor mode path => do
    match ← attempt (fieldOf run path) with
    | .ok path => return .file descriptor mode path
    | .error .error => if ← isExtended then return .refused (asWritten path) else jump .error
    | .error other => jump other
  | .duplicate descriptor source => do
    let text ← expandText run .atStart source
    if ← isExtended then
      if text = "-" then return .duplicate descriptor none
      match text.toNat? with
      | some number => return .duplicate descriptor (some number)
      | none =>
        match (if text.endsWith "-" then (text.dropEnd 1).toString.toNat? else none) with
        | some number => return .move descriptor number
        | none => return .refused (asWritten source)
    else
      match text.toList with
      | ['-'] => return .duplicate descriptor none
      | [c] =>
        if c.isDigit then return .duplicate descriptor (some (c.toNat - '0'.toNat))
        else failToRead
      | _ => failToRead
  | .document descriptor number => do
    let word := ((← get).documents.lookup number).getD []
    return .document descriptor (← expandText run .nowhere word)
  | .text descriptor word => return .document descriptor ((← expandText run .atStart word) ++ "\n")
where
  /-- Refuses a descriptor. That is reported for where the script is being read. -/
  failToRead : ScriptM PreparedRedirect := do
    modify fun state => { state with line := state.readLine }
    fail "Syntax error: Bad fd number"

/-- Saved descriptors have at least this number. -/
def leastSaved : Nat := 10

/-- Keeps what a descriptor stands for, which it stands for no longer. -/
def save (descriptor : Nat) : ScriptM SavedDescriptor := do
  match ← ask (.duplicate descriptor leastSaved) with
  | .ok kept =>
    discard (ask (.close descriptor))
    return (descriptor, some kept)
  | .error _ => return (descriptor, none)

/-- Sets a descriptor back to what was kept. -/
def restore (saved : SavedDescriptor) : ScriptM Unit := do
  match saved with
  | (descriptor, some kept) =>
    discard (ask (.redirect kept descriptor))
    discard (ask (.close kept))
  | (descriptor, none) => discard (ask (.close descriptor))

/-- Closes what was kept of a descriptor. -/
def forget (saved : SavedDescriptor) : ScriptM Unit := do
  match saved with
  | (_, some kept) => discard (ask (.close kept))
  | (_, none) => return

def openMode : RedirectMode → OpenMode
  | .input => { read := true }
  | .output => { write := true, create := true, truncate := true }
  | .clobber => { write := true, create := true, truncate := true }
  | .append => { write := true, create := true, append := true }
  | .both => { read := true, write := true, create := true }

/-- What is wrong with a file that a redirection names. -/
def openReport (dialect : Dialect) (mode : RedirectMode) (path : String) (error : SystemError) : String :=
  let isUnreachable := error = .missing || error = .notADirectory
  if dialect = .extended then
    path ++ ": " ++ (if error = .alreadyExists then "cannot overwrite existing file" else error.text)
  else if mode = .input then
    "cannot open " ++ path ++ ": " ++ (if isUnreachable then "No such file" else error.text)
  else
    "cannot create " ++ path ++ ": " ++
      (if isUnreachable then "Directory nonexistent" else error.text)

/-- Opens a file that a redirection names. Files that are there may be protected from being overwritten. -/
def openRedirect (mode : RedirectMode) (path : String) : ScriptM (Except SystemError Nat) := do
  let isProtected : Bool ←
    if mode = .output && (← get).hasOption 'C' then
      match ← ask (.inspect path true) with
      | .ok info => pure (info.sort = .plain)
      | .error _ => pure false
    else pure false
  if isProtected then return .error .alreadyExists
  else ask (.openFile path (openMode mode) 0o666)

/-- What a descriptor is to stand for. -/
inductive Target where
  /-- What another descriptor stands for, which is closed after that if it was opened for this. -/
  | descriptor (source : Nat) (opened : Bool)
  | nothing
  /-- What it stands for already. -/
  | same

/-- A descriptor from which a text can be read. -/
def openDocument (text : String) : ScriptM Nat := do
  let (input, output) ← ask .makePipe
  if !text.isEmpty then discard (ask (.write output (Octets.toBytes text)))
  discard (ask (.close output))
  return input

/-- Finds out what the descriptor of a redirection is to stand for. The error is a report. -/
def targetOf : PreparedRedirect → ScriptM (Except String Target)
  | .file _ mode path => do
    match ← openRedirect mode path with
    | .ok opened => return .ok (.descriptor opened true)
    | .error error => return .error (openReport (← get).dialect mode path error)
  | .duplicate descriptor (some source) => do
    if (← get).dialect = .extended then
      match ← ask (.duplicate source leastSaved) with
      | .ok kept => discard (ask (.close kept))
      | .error error => return .error (toString source ++ ": " ++ error.text)
    return .ok (if descriptor = source then .same else .descriptor source false)
  | .duplicate _ none => return .ok .nothing
  | .document _ text => return .ok (.descriptor (← openDocument text) true)
  | .move descriptor source =>
    return .ok (if descriptor = source then .same else .descriptor source true)
  | .refused text => return .error (text ++ ": ambiguous redirect")

/-- Makes a descriptor stand for something. The result is a report if that fails. -/
def reach (descriptor : Nat) : Target → ScriptM (Option String)
  | .same => return none
  | .nothing => do
    discard (ask (.close descriptor))
    return none
  | .descriptor source opened => do
    if source = descriptor then return none
    match ← ask (.redirect source descriptor) with
    | .ok _ =>
      if opened then discard (ask (.close source))
      return none
    | .error error => return some (toString source ++ ": " ++ error.text)

/-- Carries out redirections up to the first that fails. What was changed is kept if that is asked
    for. Files are opened while the descriptor still stands for what it did; a descriptor that was
    kept is closed before it is set. -/
def performAll (keeps : Bool) :
    List PreparedRedirect → List SavedDescriptor → ScriptM (List SavedDescriptor × Option String)
  | [], saved => return (saved, none)
  | redirect :: rest, saved => do
    let descriptor := redirect.descriptor
    match ← targetOf redirect with
    | .error report => return (saved, some report)
    | .ok .same => performAll keeps rest saved
    | .ok target =>
      let isFree := match target with
        | .descriptor source true => source == descriptor
        | _ => false
      let saved ←
        if !keeps || (saved.lookup descriptor).isSome then pure saved
        else if isFree then pure ((descriptor, none) :: saved)
        else pure ((← save descriptor) :: saved)
      match ← reach descriptor target with
      | none => performAll keeps rest saved
      | some report => return (saved, some report)

/-- Does something with redirections in force, after which the descriptors are set back. If a
    redirection fails, that is reported by what is in force until then and nothing else is done.
    `stays` says whether redirections stay in force. -/
def withRedirects {α : Type} (stays : Bool) (redirects : List PreparedRedirect) (action : ScriptM α) :
    ScriptM (Option α) := do
  if redirects.isEmpty then return some (← action)
  let (saved, report) ← performAll true redirects []
  let finish := if stays then saved.forM forget else saved.forM restore
  match report with
  | some report =>
    warn report
    finish
    return none
  | none => return some (← andFinally action finish)

end ScriptM

end Shell.Machine.Script
