import Shell.Machine.Tools.Perl.Read
import Shell.Machine.Tools.Perl.Run.Calls

/-! # Functions that look at expressions

The functions that are there from the beginning and need more than the values of their arguments: places to change,
blocks to leave, and programs to read.
-/

namespace Shell.Machine.Perl.PerlM

/-- What a function gives, if it is the one that is meant. -/
abbrev Answer := PerlM (Option (Array Value))

def answer (value : Value) : Answer := return some #[value]

/-- All values as an answer, or the last one. -/
def answerFor (want : Want) (values : Array Value) : Answer := return some (resultFor want values)

/-- The array that is meant where none is named. -/
def usualArray : PerlM Nat := do
  if (← look (·.frames)).isEmpty then mainVariable .array "ARGV" else holdingOf ⟨.array, "_"⟩

def isHash : Expr → Bool
  | .var variable_ => variable_.kind = .hash
  | .deref kind _ => kind = .hash
  | .declare _ [some variable_] _ => variable_.kind = .hash
  | _ => false

/-! ## Arrays and hashes -/

/-- Takes cells out of an array and puts others there. -/
def spliceArray (runner : Runner) (want : Want) (array : Expr) (arguments : List Expr) : PerlM (Array Value) := do
  let id ← runner.array array
  let cells ← arrayAt id
  let size : Int := cells.size
  let start ← match arguments with
    | start :: _ => do pure (← runner.one start).int
    | [] => pure 0
  let start := (min (max 0 (if start < 0 then start + size else start)) size).toNat
  let length ← match arguments with
    | _ :: length :: _ => do
      let value ← runner.one length
      pure (if value.isDefined then value.int else size)
    | _ => pure size
  let stop := (if length < 0 then max (start : Int) (size + length) else min (start + length) size).toNat
  let new ← makeCells (← runner.each (arguments.drop 2))
  setArray id (cells.extract 0 start ++ new ++ cells.extract stop cells.size)
  let taken ← (cells.extract start stop).mapM load
  return if want = .all then taken else #[(taken.back?).getD .undefined]

/-- The next key of a hash, with its value. -/
def nextEntry (id : Nat) (want : Want) : PerlM (Array Value) := do
  let table ← hashAt id
  match table.walk.getD table.keys with
  | [] =>
    changeHash id fun table => { table with walk := none }
    return #[]
  | key :: rest =>
    changeHash id fun table => { table with walk := some rest }
    let cell := ((table.cells[key]?).map (·.1)).getD 0
    let value ← load cell
    return if want = .all then #[.string key, value] else #[.string key]

/-- The next place of an array, with its value. -/
def nextElement (id : Nat) (want : Want) : PerlM (Array Value) := do
  let place := (← look fun world => world.walks[id]?).getD 0
  let cells ← arrayAt id
  match cells[place]? with
  | none =>
    modify fun world => { world with walks := world.walks.erase id }
    return #[]
  | some cell =>
    modify fun world => { world with walks := world.walks.insert id (place + 1) }
    let value ← load cell
    return if want = .all then #[.ofNat place, value] else #[.ofNat place]

/-- Takes an entry out of a hash. -/
def removeEntry (id : Nat) (key : String) : PerlM Value := do
  match ← entryAt id key with
  | some cell =>
    changeHash id fun table => { table with cells := table.cells.erase key }
    load cell
  | none => return .undefined

/-- Takes out what an expression names. -/
def removeIn (runner : Runner) (target : Expr) : PerlM (Array Value) := do
  match target with
  | .entry hash key | .localize (.entry hash key) =>
    let id ← runner.hash hash
    return #[← removeEntry id (← keyOf runner key)]
  | .entries hash keys =>
    let id ← runner.hash hash
    (← runner.all keys).mapM fun key => do removeEntry id (← textOf key)
  | .element array place =>
    let id ← runner.array array
    let place ← checkedPlace id (← runner.one place).int
    let cells ← arrayAt id
    match cells[place.toNat]? with
    | some cell =>
      if place + 1 = cells.size then setArray id cells.pop
      else changeArray id fun cells => cells.setIfInBounds place.toNat cell
      let value ← load cell
      if place + 1 ≠ cells.size then
        let fresh ← makeCell .undefined
        changeArray id fun cells => cells.setIfInBounds place.toNat fresh
      return #[value]
    | none => return #[.undefined]
  | _ => die "delete argument is not a HASH or ARRAY element or slice"

/-- Whether what an expression names is there. -/
def existsIn (runner : Runner) (target : Expr) : PerlM Bool := do
  match target with
  | .entry hash key =>
    let id ← runner.hash hash
    return (← hashAt id).cells.contains (← keyOf runner key)
  | .element array place =>
    let id ← runner.array array
    let size : Int := (← arraySize id)
    let place := (← runner.one place).int
    return if place < 0 then 0 ≤ place + size else place < size
  | .call name _ => return (← functionNamed name).isSome
  | _ => die "exists argument is not a HASH or ARRAY element or a subroutine"

/-- Makes what an expression stands for undefined. -/
def clear (runner : Runner) (target : Expr) : PerlM Unit := do
  match target with
  | .call name _ => modify fun world => { world with functions := world.functions.erase name }
  | target =>
    match containerKind? target with
    | some .array => setArray (← runner.array target) #[]
    | some _ =>
      let id ← runner.hash target
      changeHash id fun _ => {}
    | none => put (← runner.cell target) .undefined

/-- A function on an array or a hash. -/
def containerFunction (runner : Runner) (want : Want) (name : String) (arguments : List Expr) : Answer := do
  match name, arguments with
  | "push", array :: rest | "unshift", array :: rest =>
    let id ← runner.array array
    let new ← makeCells (← runner.each rest)
    changeArray id fun cells => if name = "push" then cells ++ new else new ++ cells
    answer (.ofNat (← arraySize id))
  | "pop", arguments | "shift", arguments =>
    let id ← match arguments with
      | array :: _ => runner.array array
      | [] => usualArray
    let cells ← arrayAt id
    if name = "pop" then
      match cells.back? with
      | some cell =>
        setArray id cells.pop
        answer (← load cell)
      | none => answer .undefined
    else
      match cells[0]? with
      | some cell =>
        setArray id (cells.extract 1 cells.size)
        answer (← load cell)
      | none => answer .undefined
  | "splice", array :: rest => return some (← spliceArray runner want array rest)
  | "keys", [container] | "values", [container] =>
    if isHash container then
      let id ← runner.hash container
      changeHash id fun table => { table with walk := none }
      let table ← hashAt id
      if want ≠ .all then return ← answer (.ofNat table.cells.size)
      if name = "keys" then return some (table.keys.map Value.string).toArray
      else return some (← (table.keys.map fun key => ((table.cells[key]?).map (·.1)).getD 0).toArray.mapM load)
    else
      let id ← runner.array container
      let size := (← arraySize id)
      if want ≠ .all then return ← answer (.ofNat size)
      if name = "keys" then return some ((List.range size).map Value.ofNat).toArray
      else return some (← arrayValues id)
  | "each", [container] =>
    if isHash container then return some (← nextEntry (← runner.hash container) want)
    else return some (← nextElement (← runner.array container) want)
  | "delete", [target] => return some (← removeIn runner target)
  | "exists", [target] => answer (.truth (← existsIn runner target))
  | "defined", [target] =>
    match target with
    | .call name none => answer (.truth (← functionNamed name).isSome)
    | .var ⟨.array, _⟩ => answer (.truth !(← arrayAt (← runner.array target)).isEmpty)
    | target => answer (.truth (← runner.one target).isDefined)
  | "undef", [] => answer .undefined
  | "undef", [target] =>
    clear runner target
    answer .undefined
  | "scalar", [target] => answer (← runner.one target)
  | _, _ => return none

/-! ## Texts -/

/-- Takes the end of a line, or the last character, from a cell. The result is what was taken. -/
def shorten (whole : Bool) (cell : Nat) : PerlM String := do
  let value ← load cell
  if !value.isDefined then return ""
  let text ← textOf value
  let ending ← if whole then pure "" else specialText "/"
  if whole then
    put cell (.string (text.dropEnd 1).toString)
    return (text.drop (text.length - 1)).toString
  else if ending ≠ "" && text.endsWith ending then
    put cell (.string (text.dropEnd ending.length).toString)
    return ending
  else return ""

/-- The template that an expression gives. -/
def templateFrom (runner : Runner) (expr : Expr) : PerlM (List PackItem) := do
  let text ← runner.text expr
  return PackItem.read (text.length + 1) text.toList

def textFunction (runner : Runner) (want : Want) (name : String) (arguments : List Expr) : Answer := do
  match name, arguments with
  | "chomp", targets =>
    let cells ← runner.cells (.list targets)
    let taken ← cells.mapM (shorten false)
    answer (.ofNat ((taken.map String.length).foldl (· + ·) 0))
  | "chop", targets =>
    let cells ← runner.cells (.list targets)
    let taken ← cells.mapM (shorten true)
    answer (.string ((taken.back?).getD ""))
  | "split", arguments => return some (← splitText runner want arguments)
  | "substr", text :: start :: more =>
    let whole ← runner.text text
    let from_ := (← runner.one start).int
    let length ← match more with
      | length :: _ => do
        let value ← runner.one length
        pure (if value.isDefined then some value.int else none)
      | [] => pure none
    match partPlaces whole.length from_ length with
    | none =>
      if more.length = 2 then die "substr outside of string"
      answer .undefined
    | some (first, last) =>
      if let [_, by_] := more then
        let part ← runner.text by_
        put (← runner.cell text) (.string (withPart whole first last part))
      answer (.string (String.ofList ((whole.toList.take last).drop first)))
  | "pos", [target] =>
    let cell ← runner.cell target
    match ← look fun world => world.places[cell]? with
    | some place => answer (.ofNat place)
    | none => answer .undefined
  | "pack", template :: values =>
    let items ← templateFrom runner template
    answer (.string (String.ofList (← PackItem.pack textOf items (← runner.each values).toList)))
  | "unpack", template :: rest =>
    let items ← templateFrom runner template
    answerFor want (PackItem.unpack items (← runner.text (rest.headD usual)).toList).toArray
  | "glob", [pattern] => answerFor want (← globValues (← runner.text pattern))
  | _, _ => return none

/-! ## Handles -/

/-- The handle that an expression stands for, which is made if there is none yet. -/
def handleFor (runner : Runner) (expr : Expr) : PerlM Nat := do
  if isPlace expr then
    let cell ← runner.cell expr
    let value ← load cell
    if value.isDefined then knownHandle value
    else
      let name := match afterwards expr with
        | .var variable_ => "$" ++ variable_.name
        | _ => "$fh"
      let id ← makeHandle { name }
      store cell (.reference (.handle id))
      return id
  else knownHandle (← runner.one expr)

/-- Reads so many bytes into a place. -/
def readInto (runner : Runner) (arguments : List Expr) : PerlM Value := do
  match arguments with
  | handle :: place :: length :: more =>
    let id ← handleFor runner handle
    let cell ← runner.cell place
    let length := (← runner.one length).nat
    let before ← textOf (← load cell)
    let offset ← match more with
      | offset :: _ => do pure (← runner.one offset).nat
      | [] => pure 0
    let part := (← takeCount id length patience).getD ""
    store cell (.string ((before.take offset).toString ++ part))
    return .ofNat part.length
  | _ => return .undefined

def handleFunction (runner : Runner) (want : Want) (name : String) (arguments : List Expr) : Answer := do
  match name, arguments with
  | "open", [handle] =>
    let id ← handleFor runner handle
    answer (.truth (← handleAt id).isOpen)
  | "open", handle :: mode :: rest =>
    let operands ← runner.each rest
    let mode ← runner.text mode
    let id ← handleFor runner handle
    if rest.isEmpty then
      let (mode, path) := modeIn mode
      answer (.truth (← openAs id mode [.string path]))
    else answer (.truth (← openAs id mode operands.toList))
  | "opendir", handle :: path :: _ =>
    let path ← runner.text path
    match ← ask (.list path) with
    | .ok names =>
      let id ← handleFor runner handle
      let names := [".", ".."] ++ names.filter fun name => name ≠ "." && name ≠ ".."
      modify fun world =>
        { world with
          handles := world.handles.modify id fun handle => { name := handle.name, entries := names, isOpen := true } }
      answer (.truth true)
    | .error error =>
      noteError error
      answer (.truth false)
  | "readdir", [handle] =>
    let id ← handleFor runner handle
    let entries := (← handleAt id).entries
    if want = .all then
      changeHandle id fun handle => { handle with entries := [] }
      return some (entries.map Value.string).toArray
    changeHandle id fun handle => { handle with entries := handle.entries.drop 1 }
    match entries with
    | name :: _ => answer (.string name)
    | [] => answer .undefined
  | "readline", [handle] => return some (← runner.values want (.readLine handle))
  | "eof", [] =>
    match ← look (·.lastRead) with
    | some id => answer (.truth (← atEnd id))
    | none => answer (.truth (← atLastEnd patience))
  | "eof", [handle] => answer (.truth (← atEnd (← handleFor runner handle)))
  | "read", arguments | "sysread", arguments => answer (← readInto runner arguments)
  | "getc", arguments =>
    let id ← match arguments with
      | handle :: _ => handleFor runner handle
      | [] => pure 0
    match ← takeCount id 1 patience with
    | some text => answer (.string text)
    | none => answer .undefined
  | "syswrite", handle :: text :: _ =>
    let text ← runner.text text
    let id ← handleFor runner handle
    discard (writeTo id text)
    if id = 1 then tool ToolM.flush
    discard (drain id)
    answer (.ofNat text.length)
  | "select", [] => answer (.string ("main::" ++ (← handleAt (← look (·.selected))).name))
  | "select", [handle] =>
    let id ← handleFor runner handle
    let before ← look (·.selected)
    modify fun world => { world with selected := id }
    answer (.reference (.handle before))
  | "select", [_, _, _, time] =>
    let time := (← runner.one time).float
    tool ToolM.flush
    ask (.pause (Double.clamp 0 1000000000000 (time * 1000000)).toNat)
    answer (.whole 0)
  | "pipe", [reader, writer] =>
    let reader ← handleFor runner reader
    let writer ← handleFor runner writer
    let ends : Nat × Nat ← ask .makePipe
    attach reader ends.1 false none
    attach writer ends.2 true none
    answer (.truth true)
  | "fork", _ =>
    flushAll
    let number ← tool fun tool next => .fork (next (0, tool)) fun number => next (number, tool)
    answer (.ofNat number)
  | _, _ => return none

/-! ## Programs -/

/-- Does something that may fail, and notes why it did. -/
def attempt (want : Want) (act : PerlM (Array Value)) : PerlM (Array Value) := do
  setSpecial "@" (.string "")
  try
    let values ← act
    setSpecial "@" (.string "")
    return values
  catch
    | .die value =>
      setSpecial "@" value
      return if want = .all then #[] else #[.undefined]
    | .return_ values => return resultFor want values
    | jump => throw jump

/-- The functions that a program defines, also in blocks. -/
def definitionsIn : Nat → Block → List (String × Block)
  | 0, _ => []
  | depth + 1, body => body.flatMap fun (_, statement) =>
    match statement with
    | .define name body => [(name, body)]
    | .block _ body => definitionsIn depth body
    | _ => []

/-- The modules that a program asks for, each with a line. -/
def modulesIn : Nat → Block → List (Nat × String)
  | 0, _ => []
  | depth + 1, body => body.flatMap fun (line, statement) =>
    match statement with
    | .use name => [(line, name)]
    | .block _ body => modulesIn depth body
    | _ => []

/-- Makes a function known. -/
def define (name : String) (body : Block) (scope : Option Scope) : PerlM Unit := do
  let code : Code := { name := qualified name, body, scope, package := packageOfName name }
  match ← look fun world => world.functions[name]? with
  | some id => modify fun world => { world with codes := world.codes.setIfInBounds id code }
  | none =>
    let id ← makeCode code
    modify fun world => { world with functions := world.functions.insert name id }

def modulePlaces : List String :=
  ["/etc/perl", "/usr/local/lib/x86_64-linux-gnu/perl/5.36.0", "/usr/local/share/perl/5.36.0",
    "/usr/lib/x86_64-linux-gnu/perl5/5.36", "/usr/share/perl5", "/usr/lib/x86_64-linux-gnu/perl-base",
    "/usr/lib/x86_64-linux-gnu/perl/5.36", "/usr/share/perl/5.36", "/usr/local/lib/site_perl"]

/-- Says that a file is not there that a program asks for. -/
def missingFile (path : String) : PerlM String := do
  let places ← (← arrayValues (← mainVariable .array "INC")).toList.mapM textOf
  let name := ((path.splitOn "/").intersperse "::" |> String.join)
  let hint := if path.endsWith ".pm" then
      " (you may need to install the " ++ (name.dropEnd 3).toString ++ " module)" else ""
  return "Can't locate " ++ path ++ " in @INC" ++ hint ++ " (@INC contains: " ++ " ".intercalate places ++ ")"

/-- Gives up because a module is not there. -/
def missingModule {α : Type} (line : Nat) (name : String) : PerlM α := do
  modify fun world => { world with line }
  noteError .missing
  let here ← whereabouts
  let path := ((name.splitOn "::").intersperse "/" |> String.join) ++ ".pm"
  let text := (← missingFile path) ++ here ++ "BEGIN failed--compilation aborted" ++ here
  throw (.die (.string text))

/-- The modules that come with a library, which is looked for in vain at first. -/
def compiledModules : List String := ["List::Util", "Scalar::Util", "Cwd"]

/-- Makes a program ready to be run: its functions are known, and its modules are there. -/
def prepare (body : Block) : PerlM Unit := do
  for (name, body) in definitionsIn 8 body do
    define name body none
  for (line, name) in modulesIn 8 body do
    if !knownModules.contains name then missingModule line name
    if compiledModules.contains name then noteError .missing

/-- The whole of a file. -/
def contentOf (path : String) : PerlM (Option String) := do
  let id ← makeHandle { name := path }
  if !(← openFile id "<" path) then return none
  let text := (← takeAll id).getD ""
  discard (closeHandle id)
  return some text

def runText (runner : Runner) (want : Want) (file text : String) (isOwn : Bool) : PerlM (Array Value) := do
  let source : Source ← look fun world => {
    input := text.toList, file, package := if isOwn then world.package else "main", newer := true
    functions := world.functions.toList.map (·.1), declared := if isOwn then world.scope.map (·.1) else [] }
  match Program.read source with
  | .error fault =>
    throw (.die (.string (String.join (fault.reports.filter fun text => !text.startsWith "Execution of"))))
  | .ok program =>
    let (before, line) ← modifyGet fun world => ((world.file, world.line), { world with file })
    let finish : PerlM Unit := modify fun world => { world with file := before, line }
    let act : PerlM (Array Value) := do
      prepare program.body
      for body in program.begins do
        discard (runner.block .nothing body)
      if isOwn then runner.block want program.body
      else guarded do
        modify fun world => { world with scope := [] }
        runner.block want program.body
    let values ← try act catch jump => do
      finish
      throw jump
    finish
    return values

def runFile (runner : Runner) (want : Want) (path : String) : PerlM (Option (Array Value)) := do
  let places ← (← arrayValues (← mainVariable .array "INC")).toList.mapM textOf
  let paths := if path.startsWith "/" || path.startsWith "./" || path.startsWith "../" then [path]
    else places.map fun place => place ++ "/" ++ path
  for path in paths do
    if let some text := ← contentOf path then return some (← runText runner want path text false)
  return none

/-- Makes sure that a file was run once. -/
def requireFile (runner : Runner) (value : Value) : PerlM (Array Value) := do
  match value with
  | .whole _ | .decimal _ => return #[.whole 1]
  | value =>
    let text ← textOf value
    if knownModules.contains text then return #[.whole 1]
    let isName := !text.contains '/' && !text.contains '.'
    let path := if isName then ((text.splitOn "::").intersperse "/" |> String.join) ++ ".pm" else text
    let table ← mainVariable .hash "INC"
    if (← hashAt table).cells.contains path then return #[.whole 1]
    match ← runFile runner .one path with
    | some values =>
      store (← entryCell table path) (.string path)
      if !((values.back?).getD .undefined).holds then die (path ++ " did not return a true value")
      return values
    | none =>
      noteError .missing
      die (← missingFile path)

/-- Makes functions known that always give the same. -/
def defineConstants (package : String) (isTable : Bool) (values : List Value) : PerlM Unit := do
  let single (name : Value) (values : List Value) : PerlM Unit := do
    let name ← textOf name
    let full := inClass package name
    let id ← makeCode { name := qualified full, constant := some values }
    modify fun world => { world with functions := world.functions.insert full id }
  let rec table : List Value → PerlM Unit
    | name :: value :: rest => do
      single name [value]
      table rest
    | _ => return
  if isTable then table values
  else
    match values with
    | name :: values => single name values
    | [] => return

/-- Calls the function that a program has set for something, if there is one. -/
def callHook (runner : Runner) (name : String) (value : Value) : PerlM Bool := do
  match ← entryAt (← mainVariable .hash "SIG") name with
  | some cell =>
    match ← load cell with
    | .reference (.code id) =>
      discard (runner.call id #[← makeCell value] .nothing)
      return true
    | _ => return false
  | none => return false

/-- The label that a jump names. -/
def labelIn (arguments : List Expr) : String :=
  match arguments with
  | .text label :: _ => label
  | _ => ""

def programFunction (runner : Runner) (want : Want) (name : String) (arguments : List Expr) : Answer := do
  match name, arguments with
  | "return", arguments =>
    let wanted := ((← look (·.frames)).head?.map (·.want)).getD want
    let values ← match arguments with
      | [] => pure #[]
      | [value] => runner.values wanted value
      | values => runner.values wanted (.list values)
    throw (.return_ values)
  | "next", arguments => throw (.next (labelIn arguments))
  | "last", arguments => throw (.last (labelIn arguments))
  | "redo", arguments => throw (.redo (labelIn arguments))
  | "wantarray", _ =>
    let frame? := (← look (·.frames)).head?
    answer (match frame? with
      | some frame => if frame.want = .all then .whole 1 else if frame.want = .one then .whole 0 else .undefined
      | none => .undefined)
  | "caller", arguments =>
    let place ← match arguments with
      | place :: _ => do pure (some (← runner.one place).nat)
      | [] => pure none
    return some (← callerValues want place)
  | "eval", [text] =>
    let text ← runner.text text
    modify fun world => { world with texts := world.texts + 1 }
    let file := "(eval " ++ toString (← look (·.texts)) ++ ")"
    return some (← attempt want (runText runner want file text true))
  | "do", [path] =>
    let path ← runner.text path
    let values ← attempt want do return (← runFile runner want path).getD #[.undefined]
    return some values
  | "require", [name] => return some (← requireFile runner (← runner.one name))
  | "constant", [.text package, .whole isTable, items] =>
    defineConstants package (isTable = 1) (← runner.all items).toList
    return some #[]
  | "word", [.text word, .text package] =>
    match ← functionNamed (Reader.inPackage package word) with
    | some id => return some (← runner.call id #[] want)
    | none =>
      if isModuleFunction word then return some (← callModule word want #[]) else answer (.string word)
  | "warn", arguments =>
    let value ← reportOf (← runner.each arguments) "Warning: something's wrong"
    if !(← callHook runner "__WARN__" value) then complain (← textOf value)
    answer (.truth true)
  | "die", arguments =>
    let value ← reportOf (← runner.each arguments) "Died"
    discard (callHook runner "__DIE__" value)
    throw (.die value)
  | "localtime", arguments | "gmtime", arguments =>
    return some (← momentValues want (← arguments.mapM runner.one))
  | "stat", [path] | "lstat", [path] =>
    let values ← statusValues (← runner.text path) (name = "stat")
    if want = .all then return some values else answer (.truth !values.isEmpty)
  | _, _ => return none

/-- The first answer that there is. -/
def firstAnswer : List Answer → Answer
  | [] => return none
  | first :: rest => do
    match ← first with
    | some values => return some values
    | none => firstAnswer rest

/-- True for the functions whose arguments are one list. -/
def takesList (name : String) : Bool :=
  ["join", "sprintf", "reverse", "unlink", "chmod", "utime", "chown", "kill", "system", "exec"].contains name

/-- Calls a function that is there from the beginning. -/
def callBuiltin (runner : Runner) (want : Want) (name : String) (arguments : List Expr) : PerlM (Array Value) := do
  let byValue : Answer := do
    if takesList name then applyList name want (← runner.each arguments)
    else return (← applyScalars name (← arguments.mapM runner.one)).map fun value => #[value]
  let found ← firstAnswer [containerFunction runner want name arguments, textFunction runner want name arguments,
    programFunction runner want name arguments, handleFunction runner want name arguments, byValue]
  match found with
  | some values => return values
  | none => die ("The " ++ name ++ " function is unimplemented")

end Shell.Machine.Perl.PerlM
