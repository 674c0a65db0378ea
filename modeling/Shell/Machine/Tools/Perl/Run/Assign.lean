import Shell.Machine.Tools.Perl.Run.Places

/-! # Assignments of general programs

How values are put where expressions say: one into a cell, or all into arrays, hashes and lists of places.
-/

namespace Shell.Machine.Perl.PerlM

/-- Puts a value into a cell in which the next search begins anew. -/
def put (cell : Nat) (value : Value) : PerlM Unit := do
  store cell value
  if !(← look (·.places)).isEmpty then
    modify fun world => { world with places := world.places.erase cell }

def fillHash (id : Nat) (values : List Value) : PerlM Unit := do
  let rec go (table : Table) : List Value → PerlM Table
    | [] => return table
    | [key] => do return table.put (← textOf key) (← makeCell .undefined)
    | key :: value :: rest => do go (table.put (← textOf key) (← makeCell value)) rest
  let table ← go {} values
  changeHash id fun _ => table

/-- Makes a name stand for what a reference leads to. -/
def assignName (name : String) (value : Value) : PerlM Unit := do
  let package ← look (·.package)
  let full := fullName package name
  match value with
  | .reference (.code id) => modify fun world => { world with functions := world.functions.insert full id }
  | .reference (.cell id) => bindGlobal ⟨.scalar, name⟩ id
  | .reference (.array id) => bindGlobal ⟨.array, name⟩ id
  | .reference (.hash id) => bindGlobal ⟨.hash, name⟩ id
  | .reference (.handle id) =>
    bindGlobal ⟨.handle, name⟩ id
    let other := ((← look fun world => world.handles[id]?).map (·.name)).getD ""
    if let some code := (← look fun world => world.functions[other]?) then
      modify fun world => { world with functions := world.functions.insert full code }
  | _ => return

def handleName (value : Value) : PerlM String := do
  let text ← textOf value
  return Reader.plainName (if text.startsWith "*" then (text.drop 1).toString else text)

def withPart (text : String) (first last : Nat) (part : String) : String :=
  String.ofList (text.toList.take first ++ part.toList ++ text.toList.drop last)

/-- Puts a value where an expression says. -/
def assignTo (runner : Runner) (target : Expr) (value : Value) : PerlM Unit := do
  match target with
  | .var ⟨.handle, name⟩ | .localize (.var ⟨.handle, name⟩) => assignName name value
  | .deref .handle inner | .localize (.deref .handle inner) => assignName (← handleName (← runner.one inner)) value
  | .var ⟨.scalar, "."⟩ =>
    if let some id := (← look (·.lastRead)) then
      modify fun world =>
        { world with handles := world.handles.modify id fun handle => { handle with lines := value.nat } }
  | .var ⟨.scalar, "!"⟩ => setSpecial "!" (errorValue value.int)
  | .lastIndex array =>
    let id ← runner.array array
    let size := (value.int + 1).toNat
    let cells ← arrayAt id
    if size < cells.size then setArray id (cells.take size)
    else if cells.size < size then discard (elementCell id ((size : Int) - 1))
  | .builtin "substr" (text :: start :: more) =>
    let cell ← runner.cell text
    let whole ← textOf (← load cell)
    let start := (← runner.one start).int
    let length ← match more with
      | length :: _ => do pure (some (← runner.one length).int)
      | [] => pure none
    match partPlaces whole.length start length with
    | some (first, last) => put cell (.string (withPart whole first last (← textOf value)))
    | none => die "substr outside of string"
  | .builtin "pos" (text :: _) =>
    let cell ← runner.cell text
    modify fun world =>
      { world with
        places := if value.isDefined then world.places.insert cell value.nat else world.places.erase cell }
  | .undefined | .builtin "undef" [] => return
  | target => put (← runner.cell target) value

/-- What kind of thing values are put into, if it is not one cell. -/
def containerKind? : Expr → Option Kind
  | .var variable_ => if variable_.kind = .array || variable_.kind = .hash then some variable_.kind else none
  | .deref kind _ => if kind = .array || kind = .hash then some kind else none
  | .declare _ [some variable_] false =>
    if variable_.kind = .array || variable_.kind = .hash then some variable_.kind else none
  | .localize target => containerKind? target
  | _ => none

/-- The places that a list consists of. -/
def targetsIn : Nat → Expr → List Expr
  | depth + 1, .list items => items.flatMap (targetsIn depth)
  | _, .declare lifetime fresh true => fresh.map fun variable_ =>
      match variable_ with
      | some found => .declare lifetime [some found] false
      | none => .undefined
  | depth + 1, .localize (.list items) => items.flatMap fun item => targetsIn depth (.localize item)
  | _, target => [target]

/-- Puts values where an expression says. The result is what is left of them. -/
def assignInto (runner : Runner) (target : Expr) (values : List Value) : PerlM (List Value) := do
  match containerKind? target with
  | some .array =>
    let id ← runner.array target
    setArray id (← makeCells values.toArray)
    return []
  | some _ =>
    fillHash (← runner.hash target) values
    return []
  | none =>
    match target with
    | .elements .. | .entries .. | .localize (.elements ..) | .localize (.entries ..) =>
      let cells ← runner.cells target
      for (cell, place) in cells.toList.zipIdx do
        put cell (values.getD place .undefined)
      return values.drop cells.size
    | target =>
      assignTo runner target (values.headD .undefined)
      return values.drop 1

/-- Puts values where the places of a list say. -/
def assignAll (runner : Runner) (target : Expr) (values : Array Value) : PerlM Unit := do
  let mut rest := values.toList
  for place in targetsIn 16 target do
    rest ← assignInto runner place rest

/-- The array that `x=` fills, if it is one. -/
def changed (runner : Runner) (assignment : Assignment) (before : Value) (value : Expr) : PerlM Value := do
  match assignment with
  | .binary operator => applyBinary operator before (← runner.one value)
  | .repeated => return .string (repeated (← textOf before) (← runner.one value).int)
  | _ => runner.one value

def assign (runner : Runner) (want : Want) (assignment : Assignment) (target value : Expr) :
    PerlM (Array Value) := do
  match assignment with
  | .plain =>
    if let .declare .state fresh _ := target then
      if ← (fresh.filterMap id).anyM isKept then
        for variable_ in fresh.filterMap id do
          declareOne .state variable_
        return ← runner.values want (afterwards target)
    if takesAll target then
      let values ← runner.all value
      assignAll runner target values
      match want with
      | .all => runner.all (afterwards target)
      | _ => return #[.ofNat values.size]
    else
      let new ← runner.one value
      assignTo runner target new
      return #[new]
  | .choosing choosing =>
    let cell ← runner.cell target
    let before ← load cell
    let keeps := match choosing with
      | .and => !before.holds
      | .or => before.holds
      | .defined => before.isDefined
    if keeps then return #[before]
    let new ← runner.one value
    put cell new
    return #[new]
  | assignment =>
    if isPlace target then
      let cell ← runner.cell target
      let addend ← match assignment with
        | .binary operator => do
          let right ← runner.one value
          applyBinary operator (← load cell) right
        | _ => changed runner assignment (← load cell) value
      put cell addend
      return #[addend]
    else if takesAll target then
      let more ← runner.all value
      let before ← runner.all target
      match assignment with
      | .repeated =>
        let count := ((more.back?).getD .undefined).nat
        assignAll runner target ((List.replicate count before.toList).flatten.toArray)
      | _ => assignAll runner target (before ++ more)
      runner.values want target
    else
      let new ← changed runner assignment (← runner.one target) value
      assignTo runner target new
      return #[new]

/-- Counts a place up or down by one. The result is the value before or the one after that. -/
def stepBy (runner : Runner) (up before : Bool) (target : Expr) : PerlM Value := do
  let next (value : Value) : Value :=
    if up then (if value.isDefined then Value.successor value else .whole 1)
    else Value.calculate (· - ·) (· - ·) value (.whole 1)
  if isPlace target then
    let cell ← runner.cell target
    let old ← load cell
    put cell (next old)
    return if before then next old else if old.isDefined || !up then old else .whole 0
  else
    let old ← runner.one target
    assignTo runner target (next old)
    return if before then next old else old

end Shell.Machine.Perl.PerlM
