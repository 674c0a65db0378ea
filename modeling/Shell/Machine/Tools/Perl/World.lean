import Std.Data.HashMap
import Shell.Machine.Regex.Ordered.Read
import Shell.Machine.Tools.Perl.Value
import Shell.Machine.Tools.Running

/-! # What general programs work with

The state of a program while it runs. Scalars are kept in cells, and arrays and hashes consist of cells, so that a
reference or the variable of a loop may stand for an element. What is declared in a block is known by its name as long
as the block, or a function that was made in it, is run.
-/

namespace Shell.Machine.Perl

/-- The cells of a hash by their keys, each with a number that says when it was added. -/
structure Table where
  cells : Std.HashMap String (Nat × Nat) := {}
  next : Nat := 0
  /-- The keys that are still to be gone through. -/
  walk : Option (List String) := none

namespace Table

/-- The keys, the oldest first. -/
def keys (table : Table) : List String :=
  let all := table.cells.toList.map fun (key, _, number) => (number, key)
  (all.mergeSort fun left right => left.1 ≤ right.1).map (·.2)

def put (table : Table) (key : String) (cell : Nat) : Table :=
  match table.cells[key]? with
  | some (_, number) => { table with cells := table.cells.insert key (cell, number) }
  | none => { table with cells := table.cells.insert key (cell, table.next), next := table.next + 1 }

end Table

/-- The variables that are known, the latest first, with the numbers of what they hold. -/
abbrev Scope := List (Variable × Nat)

/-- A function. -/
structure Code where
  name : String
  body : Block := []
  /-- The variables that it knows; nothing stands for those of the whole program. -/
  scope : Option Scope := none
  package : String := "main"
  /-- The function of a module that it is. -/
  native : Option String := none
  /-- What it always gives. -/
  constant : Option (List Value) := none
  /-- Whether there is more of it than a name. -/
  isDefined : Bool := true
deriving Inhabited

/-- Something to read from or to write to. -/
structure Handle where
  name : String
  descriptor : Option Nat := none
  /-- What has been read, how much of it has been used, and whether there is more. -/
  bytes : ByteArray := .empty
  start : Nat := 0
  ended : Bool := false
  /-- What is still to be written. -/
  pending : String := ""
  writes : Bool := false
  /-- How many lines were read. -/
  lines : Nat := 0
  child : Option Nat := none
  /-- The variable that it writes to. -/
  cell : Option Nat := none
  entries : List String := []
  isOpen : Bool := false
deriving Inhabited

/-- A pattern that has been read. -/
structure Pattern where
  regex : Ordered
  names : List (String × Nat) := []
  groups : Nat := 0
  /-- How it is written. -/
  text : String := ""
  letters : List Char := []
deriving Inhabited

/-- The last match. -/
structure Found where
  text : Array Char
  span : Regex.Span
  groups : List (Nat × Regex.Span)
  names : List (String × Nat)
  count : Nat
deriving Inhabited

/-- What is to be as it was when a block ends. -/
inductive Saved where
  | variable_ (variable_ : Variable) (old : Option Nat)
  | entry (hash : Nat) (key : String) (old : Option Nat)
  | element (array place : Nat) (old : Option Nat)

/-- What a call wants: one value, or all. -/
inductive Want where
  | one
  | all
  | nothing
deriving Repr, DecidableEq, Inhabited

/-- A call that is being carried out. -/
structure Frame where
  function : String
  package : String
  line : Nat
  want : Want
deriving Inhabited

/-- The state of a program. -/
structure World where
  file : String
  cells : Array Value := #[]
  arrays : Array (Array Nat) := #[]
  hashes : Array Table := #[]
  codes : Array Code := #[]
  handles : Array Handle := #[]
  patterns : Array Pattern := #[]
  globals : Std.HashMap (Nat × String) Nat := {}
  functions : Std.HashMap String Nat := {}
  scope : Scope := []
  /-- The variables of the whole program. -/
  outer : Scope := []
  /-- How many blocks and functions are around what is run. -/
  depth : Nat := 0
  package : String := "main"
  line : Nat := 0
  found : Option Found := none
  saved : List Saved := []
  frames : List Frame := []
  /-- The handle that was read last. -/
  lastRead : Option Nat := none
  /-- The handle that is written to if none is named. -/
  selected : Nat := 1
  blessed : Std.HashMap Target String := {}
  /-- Where the last match in a cell ended. -/
  places : Std.HashMap Nat Nat := {}
  /-- The variables that keep their values. -/
  kept : List (Nat × Variable × Nat) := []
  /-- The numbers of patterns by their texts and letters. -/
  known : Std.HashMap (String × String) Nat := {}
  chance : Option Nat := none
  steps : Nat := 0
  /-- Whether a file is changed in place, and what is added to the name of the old one. -/
  inPlace : Option String := none
  /-- Whether texts may not stand for the variables that they name. -/
  isStrict : Bool := false
  /-- The cells of texts in which places of matches are kept. -/
  literals : Std.HashMap String Nat := {}
  /-- Whether an argument has been opened. -/
  started : Bool := false
  /-- For the lines with a range that is asked for one value: how often it was true since it began to be. -/
  ranges : Std.HashMap Nat Nat := {}
  /-- For the lines that ask for the files that fit a pattern one by one: those that are left. -/
  globs : Std.HashMap Nat (List Value) := {}
  /-- The next places of the arrays that are gone through. -/
  walks : Std.HashMap Nat Nat := {}
  /-- How many texts were run as programs. -/
  texts : Nat := 0

/-- Why something is left. -/
inductive Jump where
  | next (label : String)
  | last (label : String)
  | redo (label : String)
  | return_ (values : Array Value)
  | die (value : Value)
  | exit (code : Nat)

/-- What programs do. -/
abbrev PerlM := ExceptT Jump (StateT World ToolM)

namespace PerlM

def tool {α : Type} (act : ToolM α) : PerlM α :=
  ExceptT.lift (StateT.lift act)

/-- Asks the machine for something. -/
def ask (call : Call) : PerlM call.Reply := tool (ToolM.ask call)

/-- So many steps are made in a row before others have their turn. -/
def maxSteps : Nat := 200

/-- Counts a step. -/
def tick : PerlM Unit := do
  let isTired ← modifyGet fun world =>
    if world.steps < maxSteps then (false, { world with steps := world.steps + 1 })
    else (true, { world with steps := 0 })
  if isTired then ask .rest

/-- How often something is done that is expected to end. -/
def patience : Nat := 1000000000

/-! ## Cells -/

/-- Something about the state, which is not held on to. -/
def look {α : Type} (find : World → α) : PerlM α :=
  modifyGet fun world => (find world, world)

def makeCell (value : Value) : PerlM Nat :=
  modifyGet fun world => (world.cells.size, { world with cells := world.cells.push value })

def makeArray (cells : Array Nat) : PerlM Nat :=
  modifyGet fun world => (world.arrays.size, { world with arrays := world.arrays.push cells })

def makeHash (table : Table) : PerlM Nat :=
  modifyGet fun world => (world.hashes.size, { world with hashes := world.hashes.push table })

/-- A new function. -/
def makeCode (code : Code) : PerlM Nat :=
  modifyGet fun world => (world.codes.size, { world with codes := world.codes.push code })

def makeHandle (handle : Handle) : PerlM Nat :=
  modifyGet fun world => (world.handles.size, { world with handles := world.handles.push handle })

def load (cell : Nat) : PerlM Value := do
  return (← look fun world => world.cells[cell]?).getD .undefined

def store (cell : Nat) (value : Value) : PerlM Unit :=
  modify fun world => { world with cells := world.cells.setIfInBounds cell value }

def arrayAt (id : Nat) : PerlM (Array Nat) := do
  return (← look fun world => world.arrays[id]?).getD #[]

def arraySize (id : Nat) : PerlM Nat :=
  look fun world => (world.arrays[id]?.map Array.size).getD 0

/-- A cell of an array. -/
def elementAt (id place : Nat) : PerlM (Option Nat) :=
  look fun world => world.arrays[id]?.bind fun cells => cells[place]?

def setArray (id : Nat) (cells : Array Nat) : PerlM Unit :=
  modify fun world => { world with arrays := world.arrays.setIfInBounds id cells }

def changeArray (id : Nat) (change : Array Nat → Array Nat) : PerlM Unit :=
  modify fun world => { world with arrays := world.arrays.modify id change }

def hashAt (id : Nat) : PerlM Table := do
  return (← look fun world => world.hashes[id]?).getD {}

def hashSize (id : Nat) : PerlM Nat :=
  look fun world => (world.hashes[id]?.map fun table => table.cells.size).getD 0

def entryAt (id : Nat) (key : String) : PerlM (Option Nat) :=
  look fun world => world.hashes[id]?.bind fun table => table.cells[key]?.map (·.1)

def changeHash (id : Nat) (change : Table → Table) : PerlM Unit :=
  modify fun world => { world with hashes := world.hashes.modify id change }

def makeCells (values : Array Value) : PerlM (Array Nat) := values.mapM makeCell

def arrayValues (id : Nat) : PerlM (Array Value) :=
  look fun world => ((world.arrays[id]?).getD #[]).map fun cell => (world.cells[cell]?).getD .undefined

/-- The keys and values of a hash one after another. -/
def hashValues (id : Nat) : PerlM (Array Value) :=
  look fun world =>
    let table := (world.hashes[id]?).getD {}
    (table.keys.flatMap fun key =>
      let cell := ((table.cells[key]?).map (·.1)).getD 0
      [Value.string key, (world.cells[cell]?).getD .undefined]).toArray

/-- The cell of an element, which is made if it is not there. -/
def elementCell (array : Nat) (place : Int) : PerlM Nat := do
  let size ← arraySize array
  let index := if place < 0 then place + size else place
  let index := index.toNat
  match ← elementAt array index with
  | some cell => return cell
  | none =>
    let new ← makeCells (Array.replicate (index + 1 - size) .undefined)
    changeArray array fun cells => cells ++ new
    return (new.back?).getD 0

/-- The cell of an entry, which is made if it is not there. -/
def entryCell (hash : Nat) (key : String) : PerlM Nat := do
  match ← entryAt hash key with
  | some cell => return cell
  | none =>
    let cell ← makeCell .undefined
    changeHash hash fun table => table.put key cell
    return cell

/-! ## Variables -/

def kindNumber : Kind → Nat
  | .scalar => 0
  | .array => 1
  | .hash => 2
  | .code => 3
  | .handle => 4

/-- Makes something that a variable of a kind holds. -/
def makeFor (name : String) : Kind → PerlM Nat
  | .scalar => makeCell .undefined
  | .array => makeArray #[]
  | .hash => makeHash {}
  | .code => makeCode { name, isDefined := false }
  | .handle => makeHandle { name }

def fullName (package name : String) : String :=
  if name.contains ':' || package = "main" || Reader.isSpecialName name && name ≠ "a" && name ≠ "b" then name
  else package ++ "::" ++ name

/-- What a variable of a package holds. -/
def global (variable_ : Variable) : PerlM Nat := do
  let key := (kindNumber variable_.kind, fullName (← look (·.package)) variable_.name)
  match ← look fun world => world.globals[key]? with
  | some id => return id
  | none =>
    let id ← makeFor key.2 variable_.kind
    modify fun world => { world with globals := world.globals.insert key id }
    return id

/-- What a variable holds that is not in a package. -/
def mainVariable (kind : Kind) (name : String) : PerlM Nat := do
  let key := (kindNumber kind, name)
  match ← look fun world => world.globals[key]? with
  | some id => return id
  | none =>
    let id ← makeFor name kind
    modify fun world => { world with globals := world.globals.insert key id }
    return id

def holdingOf (variable_ : Variable) : PerlM Nat := do
  match (← look (·.scope)).find? fun entry => entry.1.name == variable_.name && entry.1.kind == variable_.kind with
  | some (_, id) => return id
  | none => global variable_

/-- Makes a variable hold something, as long as the block lasts. -/
def bind (variable_ : Variable) (id : Nat) : PerlM Unit :=
  modify fun world =>
    let scope := (variable_, id) :: world.scope
    { world with scope, outer := if world.depth = 0 then scope else world.outer }

/-- Makes a variable of a package hold something. -/
def bindGlobal (variable_ : Variable) (id : Nat) : PerlM Unit :=
  modify fun world =>
    { world with
      globals := world.globals.insert (kindNumber variable_.kind, fullName world.package variable_.name) id }

/-- The value of a scalar variable that is not in a package. -/
def special (name : String) : PerlM Value := do
  load (← mainVariable .scalar name)

/-- Gives a scalar variable that is not in a package a value. -/
def setSpecial (name : String) (value : Value) : PerlM Unit := do
  store (← mainVariable .scalar name) value

def referenceText (target : Target) (world : World) : String :=
  let plain := (Value.reference target).plainText
  let shown := match target with
    | .cell id =>
      let sort := match (world.cells[id]?).getD .undefined with
        | .reference _ => "REF"
        | _ => "SCALAR"
      sort ++ (plain.drop 6).toString
    | _ => plain
  match world.blessed[target]?, target with
  | some package, _ => package ++ "=" ++ shown
  | none, .pattern id => ((world.patterns[id]?).getD default).text
  | none, _ => shown

def textOf (value : Value) : PerlM String := do
  match value with
  | .reference target => look (referenceText target)
  | value => return value.plainText

def specialText (name : String) : PerlM String := do
  textOf (← special name)

/-! ## Errors -/

/-- Where a program is, as reports say it. -/
def whereabouts : PerlM String := do
  let (file, line, handle?) ← look fun world =>
    (world.file, world.line, world.lastRead.bind fun id => world.handles[id]?)
  let reading : String ← match handle? with
    | some handle =>
      if handle.lines = 0 then pure ""
      else
        let unit := if (← specialText "/") = "\n" then "line" else "chunk"
        let name := if handle.name = "ARGV" then "" else handle.name
        pure (", <" ++ name ++ "> " ++ unit ++ " " ++ toString handle.lines)
    | none => pure ""
  let place := if line = 0 then "" else " at " ++ file ++ " line " ++ toString line
  return place ++ reading ++ ".\n"

/-- Ends what is being done with a report about this place. -/
def die {α : Type} (report : String) : PerlM α := do
  throw (.die (.string (report ++ (← whereabouts))))

/-- Notes why the system refused something. -/
def noteError (error : SystemError) : PerlM Unit :=
  setSpecial "!" (.dual error.number error.text)

/-! ## What is to be as it was -/

/-- Sets something back. -/
def restore : Saved → PerlM Unit
  | .variable_ variable_ old => do
    let key := (kindNumber variable_.kind, variable_.name)
    modify fun world =>
      { world with
        globals := match old with
          | some id => world.globals.insert key id
          | none => world.globals.erase key }
  | .entry hash key old => changeHash hash fun table =>
      match old with
      | some cell => table.put key cell
      | none => { table with cells := table.cells.erase key }
  | .element array place old => changeArray array fun cells =>
      match old with
      | some cell => cells.setIfInBounds place cell
      | none => cells

/-- Sets back what was changed since there were so many things to set back. -/
def restoreTo (count : Nat) : PerlM Unit := do
  let saved ← look (·.saved)
  let extra := saved.take (saved.length - count)
  for entry in extra do
    restore entry
  modify fun world => { world with saved := saved.drop (saved.length - count) }

/-- Does something and then sets back what it has changed, however it ends. -/
def guarded {α : Type} (act : PerlM α) : PerlM α := do
  let (count, scope, package, found) ← modifyGet fun world =>
    ((world.saved.length, world.scope, world.package, world.found), { world with depth := world.depth + 1 })
  let finish : PerlM Unit := do
    if count < (← look (·.saved)).length then restoreTo count
    modify fun world => { world with scope, package, found, depth := world.depth - 1 }
  let result ← try act catch jump => do
    finish
    throw jump
  finish
  return result

/-- Does something. The variables that it declares are not known after it. -/
def apart {α : Type} (act : PerlM α) : PerlM α := do
  let scope ← modifyGet fun world => (world.scope, world)
  let result ← try act catch jump => do
    modify fun world => { world with scope }
    throw jump
  modify fun world => { world with scope }
  return result

/-! ## References -/

/-- Refuses a value that is no reference of some kind. -/
def refuseReference {α : Type} (value : Value) (kind : String) : PerlM α := do
  let article := if kind.startsWith "A" then "an " else "a "
  match value with
  | .undefined => die ("Can't use an undefined value as " ++ article ++ kind ++ " reference")
  | .reference _ => die ("Not " ++ article ++ kind ++ " reference")
  | value =>
    let text ← textOf value
    let shown := if 32 < text.length then (text.take 32).toString ++ "\"..." else text ++ "\""
    die ("Can't use string (\"" ++ shown ++ ") as " ++ article ++ kind ++ " ref while \"strict refs\" in use")

/-- The name of the variable that a text stands for, if texts may stand for variables. -/
def nameBehind (value : Value) (kind : String) : PerlM String := do
  match value with
  | .string name =>
    let isName := name ≠ "" && name.toList.all fun c => Reader.isNamePart c || c = ':'
    if isName && !(← look (·.isStrict)) then return Reader.plainName name else refuseReference value kind
  | value => refuseReference value kind

def arrayBehind (value : Value) : PerlM Nat := do
  match value with
  | .reference (.array id) => return id
  | value => global ⟨.array, ← nameBehind value "ARRAY"⟩

def hashBehind (value : Value) : PerlM Nat := do
  match value with
  | .reference (.hash id) => return id
  | value => global ⟨.hash, ← nameBehind value "HASH"⟩

/-- The package that a reference belongs to. -/
def packageOf? (value : Value) : PerlM (Option String) := do
  match value with
  | .reference target =>
    match (← look fun world => world.blessed[target]?), target with
    | some package, _ => return some package
    | none, .pattern _ => return some "Regexp"
    | none, _ => return none
  | _ => return none

/-- What kind of reference a value is. -/
def sortOf (value : Value) : PerlM String := do
  match value with
  | .reference (.cell id) =>
    return match ← load id with
      | .reference _ => "REF"
      | _ => "SCALAR"
  | .reference target => return target.sort
  | _ => return ""

/-- The classes that a class takes functions from, itself first. -/
def ancestors : Nat → String → PerlM (List String)
  | 0, class_ => return [class_]
  | fuel + 1, class_ => do
    let key := (kindNumber .array, if class_ = "main" then "ISA" else class_ ++ "::ISA")
    match ← look fun world => world.globals[key]? with
    | none => return [class_]
    | some id =>
      let names ← (← arrayValues id).toList.mapM textOf
      let more ← names.mapM (ancestors fuel)
      return class_ :: more.flatten

def inClass (class_ name : String) : String :=
  if class_ = "main" then name else class_ ++ "::" ++ name

def methodIn (classes : List String) (name : String) : PerlM (Option Nat) := do
  let functions ← look (·.functions)
  return classes.findSome? fun class_ => functions[inClass class_ name]?

end PerlM

end Shell.Machine.Perl
