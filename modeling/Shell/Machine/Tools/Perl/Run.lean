import Shell.Machine.Tools.Perl.Run.Builtins

/-! # Running general programs

What expressions give, and what statements do. What is nested is run by a record of functions, which stands for a
runner that goes less deep.
-/

namespace Shell.Machine.Perl

open PerlM

namespace PerlM

/-! ## Values of expressions -/

def namedHandle (name : String) : PerlM Nat := do
  return ((← handleOf (.string name)).getD 0)

def variableValues (want : Want) (variable_ : Variable) : PerlM (Array Value) := do
  match variable_.kind with
  | .scalar => return #[← scalarValue variable_.name]
  | .array =>
    let id ← holdingOf variable_
    if want = .all then arrayValues id else return #[.ofNat (← arraySize id)]
  | .hash =>
    let id ← holdingOf variable_
    if want = .all then hashValues id else return #[.ofNat (← hashSize id)]
  | .code => return #[← functionReference variable_.name]
  | .handle => return #[.reference (.handle (← namedHandle variable_.name))]

/-- The values of what a reference leads to. -/
def derefValues (want : Want) (kind : Kind) (value : Value) : PerlM (Array Value) := do
  match kind with
  | .scalar => return #[← load (← cellBehind value)]
  | .array =>
    let id ← arrayBehind value
    if want = .all then arrayValues id else return #[.ofNat (← arraySize id)]
  | .hash =>
    let id ← hashBehind value
    if want = .all then hashValues id else return #[.ofNat (← hashSize id)]
  | .code => return #[value]
  | .handle => return #[.reference (.handle (← knownHandle value))]

def elementValue (runner : Runner) (array place : Expr) : PerlM Value := do
  if let .var ⟨.array, name⟩ := array then
    if name = "-" || name = "+" then return ← groupPlace (name = "-") (← runner.one place).nat
  let id ← runner.array array
  let place := (← runner.one place).int
  let cells ← arrayAt id
  let place := if place < 0 then place + cells.size else place
  if place < 0 then return .undefined
  match cells[place.toNat]? with
  | some cell => load cell
  | none => return .undefined

def entryValue (runner : Runner) (hash key : Expr) : PerlM Value := do
  if let .var ⟨.hash, "+"⟩ := hash then return ← namedValue (← runner.text key)
  let id ← runner.hash hash
  let key ← keyOf runner key
  match ← entryAt id key with
  | some cell => load cell
  | none => return .undefined

def elementValues (runner : Runner) (array places : Expr) : PerlM (Array Value) := do
  let id ← runner.array array
  let values ← arrayValues id
  let size : Int := values.size
  return (← runner.all places).map fun place =>
    let place := if place.int < 0 then place.int + size else place.int
    if place < 0 then .undefined else values.getD place.toNat .undefined

def entryValues (runner : Runner) (hash keys : Expr) : PerlM (Array Value) := do
  let id ← runner.hash hash
  let table ← hashAt id
  (← runner.all keys).mapM fun key => do
    match table.cells[← textOf key]? with
    | some (cell, _) => load cell
    | none => return .undefined

/-- Keys or places, each with what belongs to it. -/
def pairValues (runner : Runner) (isHash : Bool) (container keys : Expr) : PerlM (Array Value) := do
  let wanted ← runner.all keys
  let found ← if isHash then entryValues runner container keys else elementValues runner container keys
  return ((wanted.toList.zip found.toList).flatMap fun (key, value) => [key, value]).toArray

def partValues (runner : Runner) (list places : Expr) : PerlM (Array Value) := do
  let values ← runner.all list
  if values.isEmpty then return #[]
  let size : Int := values.size
  return (← runner.all places).map fun place =>
    let place := if place.int < 0 then place.int + size else place.int
    if place < 0 then .undefined else values.getD place.toNat .undefined

/-- The values of expressions one after another, of which only the last one may be asked for. -/
def listValues (runner : Runner) (want : Want) : List Expr → PerlM (Array Value)
  | [] => return #[]
  | [item] => runner.values want item
  | item :: rest => do
    if want = .all then return (← runner.all item) ++ (← listValues runner want rest)
    discard (runner.values .nothing item)
    listValues runner want rest

/-- A range that is true from where one condition holds to where another one does. -/
def rangeHolds (runner : Runner) (first last : Expr) : PerlM Value := do
  let line ← look (·.line)
  let check (expr : Expr) : PerlM Bool := do
    match expr with
    | .whole number => return (← scalarValue ".").int = number
    | expr => runner.holds expr
  let note (count : Option Nat) : PerlM Unit :=
    modify fun world =>
      { world with
        ranges := match count with
          | some count => world.ranges.insert line count
          | none => world.ranges.erase line }
  let goOn (count : Nat) : PerlM Value := do
    if ← check last then
      note none
      return .string (toString count ++ "E0")
    note (some count)
    return .ofNat count
  match ← look fun world => world.ranges[line]? with
  | some count => goOn (count + 1)
  | none => if ← check first then goOn 1 else return .truth false

def referenceTo (runner : Runner) (want : Want) (target : Expr) : PerlM (Array Value) := do
  match target with
  | .call name none => return #[← functionReference name]
  | .callValue function none => return #[← runner.one function]
  | .var ⟨.handle, _⟩ | .deref .handle _ => runner.values .one target
  | .list items =>
    match items with
    | [item] =>
      if (containerKind? item).isSome then return (← runner.cells item).map fun cell => .reference (.cell cell)
      else runner.values want (.reference item)
    | items => runner.values want (.list (items.map Expr.reference))
  | .declare _ _ true =>
    discard (runner.values .nothing target)
    runner.values want (.reference (afterwards target))
  | target =>
    match containerKind? target with
    | some .array => return #[.reference (.array (← runner.array target))]
    | some _ => return #[.reference (.hash (← runner.hash target))]
    | none => return #[.reference (.cell (← runner.cell target))]

/-- Lines of a handle: one, or all that are left. -/
def readLines (runner : Runner) (want : Want) (handle : Expr) : PerlM (Array Value) := do
  let id ← match handle with
    | .text name => namedHandle name
    | handle => knownHandle (← runner.one handle)
  if want = .all then handleMethod.linesOf id patience #[]
  else
    match ← lineOf id with
    | some line => return #[.string line]
    | none => return #[.undefined]

/-- The files that fit a pattern: all, or the next one. -/
def globbed (runner : Runner) (want : Want) (pattern : Expr) : PerlM (Array Value) := do
  if want = .all then return ← globValues (← runner.text pattern)
  let line ← look (·.line)
  let found ← match ← look fun world => world.globs[line]? with
    | some left => pure left
    | none => do pure (← globValues (← runner.text pattern)).toList
  match found with
  | value :: rest =>
    modify fun world => { world with globs := world.globs.insert line rest }
    return #[value]
  | [] =>
    modify fun world => { world with globs := world.globs.erase line }
    return #[.undefined]

/-- What a command writes: as one text, or line by line. -/
def outputOf (runner : Runner) (want : Want) (command : Expr) : PerlM (Array Value) := do
  let command ← runner.text command
  let id ← makeHandle { name := "" }
  if !(← openCommand id [command] false) then return if want = .all then #[] else #[.undefined]
  if want = .all then
    let lines ← handleMethod.linesOf id patience #[]
    discard (closeHandle id)
    return lines
  else
    let text := (← takeAll id).getD ""
    discard (closeHandle id)
    return #[.string text]

/-- Writes the values of expressions. -/
def printTo (runner : Runner) (kind : Printing) (handle : Option Expr) (items : List Expr) : PerlM Value := do
  let id ← match handle with
    | none => do pure (← look (·.selected))
    | some (.text name) => namedHandle name
    | some handle => knownHandle (← runner.one handle)
  let values ← if items.isEmpty then do pure #[← scalarValue "_"] else runner.each items
  printValues id kind values.toList

def fileTestOf (runner : Runner) (letter : Char) (operand : Expr) : PerlM Value := do
  let value ← runner.one operand
  match value with
  | .reference (.handle id) => testFile letter "" (some id)
  | .string name =>
    match standardNames.findIdx? (· = name) with
    | some id => testFile letter "" (some id)
    | none => testFile letter name none
  | value => testFile letter (← textOf value) none

/-- Both operands of an operator. -/
def operandsOf (runner : Runner) (left right : Expr) : PerlM (Value × Value) := do
  let left ← runner.one left
  return (left, ← runner.one right)

/-- The cells of the arguments of a call. Without arguments they are those of the caller. -/
def cellsFor (runner : Runner) (arguments : Option (List Expr)) : PerlM (Array Nat) := do
  match arguments with
  | some items => argumentCells runner items
  | none => currentArguments

/-- What an expression gives that calls something. -/
def callValues (runner : Runner) (want : Want) (expr : Expr) : PerlM (Array Value) := do
  match expr with
  | .call name arguments => callNamed runner name (← cellsFor runner arguments) want
  | .callValue function arguments => do
    let function ← runner.one function
    callValue runner function (← cellsFor runner arguments) want
  | .method invocant name arguments => callMethod runner want invocant name arguments
  | .builtin name arguments => callBuiltin runner want name arguments
  | .walk walk body items => walkOver runner want walk body items
  | .print kind handle items => return #[← printTo runner kind handle items]
  | .matches_ subject negated pattern flags => matchIn runner want subject negated pattern flags
  | .substitute subject negated pattern by_ flags => do
    let value ← substituteIn runner subject pattern by_ flags
    return #[if negated then .truth !value.holds else value]
  | .transliterate subject negated from_ to_ letters => do
    let value ← transliterateIn runner subject from_ to_ letters
    return #[if negated then .truth !value.holds else value]
  | .readLine handle => readLines runner want handle
  | .glob pattern => globbed runner want pattern
  | .run command => outputOf runner want command
  | .fileTest letter operand => return #[← fileTestOf runner letter operand]
  | .block body => runner.block want body
  | .attempt body => attempt want (runner.block want body)
  | _ => return #[]

/-- What an expression gives that joins others by an operator. -/
def operatorValues (runner : Runner) (want : Want) (expr : Expr) : PerlM (Array Value) := do
  match expr with
  | .unary .plus operand => runner.values want operand
  | .unary operator operand => return #[applyUnary operator (← runner.one operand)]
  | .binary operator left right =>
    let (left, right) ← operandsOf runner left right
    return #[← applyBinary operator left right]
  | .choose choosing left right =>
    let value ← runner.one left
    let isEnough := match choosing with
      | .and => !value.holds
      | .or => value.holds
      | .defined => value.isDefined
    if isEnough then return #[value] else runner.values want right
  | .exclusive left right =>
    let (left, right) ← operandsOf runner left right
    return #[.truth (left.holds != right.holds)]
  | .repeat_ (.list items) count =>
    if want = .all then
      let values ← runner.each items
      let count := (← runner.one count).int.toNat
      return (List.replicate count values.toList).flatten.toArray
    else
      let (text, count) ← operandsOf runner (.list items) count
      return #[.string (repeated (← textOf text) count.int)]
  | .repeat_ text count =>
    let (text, count) ← operandsOf runner text count
    return #[.string (repeated (← textOf text) count.int)]
  | .range first last =>
    if want = .all then
      let (first, last) ← operandsOf runner first last
      return (Value.range first last).toArray
    else return #[← rangeHolds runner first last]
  | .either condition yes no => if ← runner.holds condition then runner.values want yes else runner.values want no
  | .assign assignment target value => assign runner want assignment target value
  | .step up before target => return #[← stepBy runner up before target]
  | expr => callValues runner want expr

/-- What an expression gives. -/
def valuesOf (runner : Runner) (want : Want) (expr : Expr) : PerlM (Array Value) := do
  match expr with
  | .whole value => return #[.whole value]
  | .decimal value => return #[.decimal value]
  | .text text => return #[.string text]
  | .undefined => return #[.undefined]
  | .joined parts =>
    let texts ← parts.mapM runner.text
    return #[.string (String.join texts)]
  | .spread list =>
    let texts ← (← runner.all list).toList.mapM textOf
    return #[.string ((← specialText "\"").intercalate texts)]
  | .var variable_ => variableValues want variable_
  | .declare lifetime fresh isList =>
    for variable_ in fresh.filterMap id do
      declareOne lifetime variable_
    if want = .nothing then return #[]
    runner.values want (declared fresh isList)
  | .localize target =>
    localizeAll runner target
    if want = .nothing then return #[]
    runner.values want target
  | .deref kind inner => derefValues want kind (← runner.one inner)
  | .lastIndex array => return #[.whole (((← arraySize (← runner.array array)) : Int) - 1)]
  | .element array place => return #[← elementValue runner array place]
  | .entry hash key => return #[← entryValue runner hash key]
  | .elements array places => elementValues runner array places
  | .entries hash keys => entryValues runner hash keys
  | .pairs isHash container keys => pairValues runner isHash container keys
  | .part list places => partValues runner list places
  | .list items => listValues runner want items
  | .reference target => referenceTo runner want target
  | .makeArray items => return #[.reference (.array (← makeArray (← makeCells (← runner.each items))))]
  | .makeHash items =>
    let id ← makeHash {}
    fillHash id (← runner.each items).toList
    return #[.reference (.hash id)]
  | .makeCode name body =>
    let (package, scope) ← look fun world => (world.package, world.scope)
    let id ← makeCode { name := inClass package name, body, scope := some scope, package }
    return #[.reference (.code id)]
  | .pattern parts flags =>
    let pattern ← match parts with
      | .joined [part] => do pure (← textOf (← runner.one part))
      | parts => runner.text parts
    return #[.reference (.pattern (← patternNumber pattern flags.letters))]
  | expr => operatorValues runner want expr

/-! ## Statements -/

/-- Notes where the program is. -/
def beAt (line : Nat) : PerlM Unit :=
  modify fun world => { world with line }

/-- Carries out one round of a loop. The result says whether the loop goes on. -/
def roundOf (label : String) (act : PerlM Unit) : Nat → PerlM Bool
  | 0 => return false
  | fuel + 1 => do
    let concerns (name : String) : Bool := name = "" || name = label
    let again ← try
        act
        pure (some true)
      catch
        | .next name => if concerns name then pure (some true) else throw (.next name)
        | .last name => if concerns name then pure (some false) else throw (.last name)
        | .redo name => if concerns name then pure none else throw (.redo name)
        | jump => throw jump
    match again with
    | some goesOn => return goesOn
    | none => roundOf label act fuel

def whileLoop (runner : Runner) (label : String) (line : Nat) (untilTrue : Bool) (condition : Option Expr)
    (body continues : Block) : Nat → PerlM Unit
  | 0 => return
  | fuel + 1 => do
    tick
    beAt line
    let goesOn ← guarded do
      let holds ← match condition with
        | some condition => runner.holds condition
        | none => pure true
      if condition.isSome && holds == untilTrue then pure false
      else
        let goesOn ← roundOf label (discard (runner.block .nothing body)) patience
        if goesOn && !continues.isEmpty then discard (runner.block .nothing continues)
        pure goesOn
    if goesOn then whileLoop runner label line untilTrue condition body continues fuel

/-- A loop whose condition is looked at after each round. -/
def untilLoop (runner : Runner) (untilTrue : Bool) (condition body : Expr) : Nat → PerlM Unit
  | 0 => return
  | fuel + 1 => do
    tick
    discard (runner.values .nothing body)
    if (← runner.holds condition) != untilTrue then untilLoop runner untilTrue condition body fuel

def countLoop (runner : Runner) (label : String) (line : Nat) (condition update : Option Expr) (body : Block) :
    Nat → PerlM Unit
  | 0 => return
  | fuel + 1 => do
    tick
    beAt line
    let holds ← match condition with
      | some condition => runner.holds condition
      | none => pure true
    if holds then
      if ← roundOf label (discard (runner.block .nothing body)) patience then
        if let some update := update then discard (runner.values .nothing update)
        countLoop runner label line condition update body fuel

/-- Does something while the variable of a loop stands for a cell. -/
def withLoopVariable (variable_ : Expr) (cell : Nat) (act : PerlM Bool) : PerlM Bool := do
  match variable_ with
  | .declare _ [some variable_] _ =>
    guarded do
      bind variable_ cell
      act
  | .var variable_ =>
    if (← look (·.scope)).any fun entry => entry.1 == variable_ then
      guarded do
        bind variable_ cell
        act
    else withGlobal variable_.name cell act
  | _ => act

def eachLoop (runner : Runner) (label : String) (variable_ : Expr) (body : Block) : List Nat → PerlM Unit
  | [] => return
  | cell :: rest => do
    tick
    let round := roundOf label (discard (runner.block .nothing body)) patience
    if ← withLoopVariable variable_ cell round then eachLoop runner label variable_ body rest

/-- A block, which may be left like a loop. -/
def blockValues (runner : Runner) (want : Want) (label : String) (body : Block) : Nat → PerlM (Array Value)
  | 0 => return #[]
  | fuel + 1 => do
    let concerns (name : String) : Bool := name = "" || name = label
    let found ← try
        pure (some (← runner.block want body))
      catch
        | .next name => if concerns name then pure (some #[]) else throw (.next name)
        | .last name => if concerns name then pure (some #[]) else throw (.last name)
        | .redo name => if concerns name then pure none else throw (.redo name)
        | jump => throw jump
    match found with
    | some values => return values
    | none => blockValues runner want label body fuel

def runStatement (runner : Runner) (want : Want) (line : Nat) (statement : Statement) : PerlM (Array Value) := do
  match statement with
  | .expr value => runner.values want value
  | .block label body => blockValues runner want label body patience
  | .branch condition body otherwise =>
    apart do
      let value ← runner.one condition
      if value.holds then runner.block want body
      else if otherwise.isEmpty then return #[value]
      else runner.block want otherwise
  | .loop label untilTrue condition body continues =>
    whileLoop runner label line untilTrue condition body continues patience
    return #[]
  | .loopAfter untilTrue condition body =>
    untilLoop runner untilTrue condition body patience
    return #[]
  | .count label first condition update body =>
    guarded do
      if let some first := first then discard (runner.values .nothing first)
      countLoop runner label line condition update body patience
    return #[]
  | .each label variable_ items body =>
    guarded do
      let cells ← runner.cells items
      eachLoop runner label variable_ body cells.toList
    return #[]
  | .define name body =>
    let (depth, scope) ← look fun world => (world.depth, world.scope)
    if 0 < depth then define name body (some scope)
    return #[]
  | .package name =>
    modify fun world => { world with package := name }
    return #[]
  | .use _ => return #[]

/-- Carries statements out. The result is that of the last one. -/
def runStatements (runner : Runner) (want : Want) : Block → PerlM (Array Value)
  | [] => return #[]
  | [(line, statement)] => do
    tick
    beAt line
    runStatement runner want line statement
  | (line, statement) :: rest => do
    tick
    beAt line
    discard (runStatement runner .nothing line statement)
    runStatements runner want rest

end PerlM

/-- How what is nested at most so deeply is run. -/
def Runner.at : Nat → Runner
  | 0 =>
    { values := fun _ _ => return #[], cell := fun _ => makeCell .undefined, array := fun _ => makeArray #[]
      hash := fun _ => makeHash {}, cells := fun _ => return #[], block := fun _ _ => return #[]
      call := fun _ _ _ => return #[] }
  | depth + 1 =>
    { values := fun want expr => valuesOf (Runner.at depth) want expr
      cell := fun expr => cellOf (Runner.at depth) expr
      array := fun expr => arrayOf (Runner.at depth) expr
      hash := fun expr => hashOf (Runner.at depth) expr
      cells := fun expr => cellsOf (Runner.at depth) expr
      block := fun want body => guarded (runStatements (Runner.at depth) want body)
      call := fun id arguments want => enter (Runner.at depth) id arguments want }

namespace PerlM

/-! ## Programs -/

/-- The status of a program that dies. -/
def deathStatus : PerlM Nat := do
  let errno := (← special "!").nat % 256
  let status := (← special "?").nat / 256 % 256
  return if errno ≠ 0 then errno else if status ≠ 0 then status else 255

/-- Does something, and tells which status the program ends with if it ends there. -/
def statusAfter (act : PerlM Unit) : PerlM (Option Nat) := do
  try
    act
    return none
  catch
    | .exit code => return some code
    | .die value =>
      modify fun world => { world with scope := [], depth := 0, frames := [] }
      let status ← deathStatus
      complain (← textOf value)
      return some status
    | .return_ _ => return none
    | .next label => do outside "next" label
    | .last label => do outside "last" label
    | .redo label => do outside "redo" label
where
  /-- Complains about a jump that has left everything. -/
  outside (word label : String) : PerlM (Option Nat) := do
    let report := if label = "" then "Can't \"" ++ word ++ "\" outside a loop block"
      else "Label not found for \"" ++ word ++ " " ++ label ++ "\""
    complain (report ++ (← whereabouts))
    return some 255

/-- Runs a program. The result is its status. -/
def runProgram (program : Program) : PerlM Nat := do
  let runner := Runner.at patience
  if let some text := program.data then
    let id ← mainVariable .handle "DATA"
    changeHandle id fun _ => { name := "DATA", bytes := Octets.toBytes text, ended := true, isOpen := true }
  modify fun world => { world with isStrict := program.isStrict }
  let whole : PerlM Unit := do
    prepare program.body
    for body in program.begins do
      discard (runner.block .nothing body)
    discard (runStatements runner .nothing program.body)
  let status := (← statusAfter whole).getD 0
  let mut last := status
  for body in program.ends do
    setSpecial "?" (.ofNat last)
    match ← statusAfter (discard (runner.block .nothing body)) with
    | some code => last := code
    | none => last := (← special "?").nat % 256
  flushAll
  return last

end PerlM

end Shell.Machine.Perl
