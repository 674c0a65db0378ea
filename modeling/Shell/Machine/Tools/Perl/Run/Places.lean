import Shell.Machine.Tools.Perl.Functions

/-! # Places of general programs

What expressions stand for that can be changed: cells, arrays and hashes. What is not there yet is made when something
is to be put into it.
-/

/-! ## Operators

What operators make of the values of their operands.
-/

namespace Shell.Machine.Perl.PerlM

/-- A word of 64 bits has so many values. -/
def wordSize : Nat := 18446744073709551616

/-- What an operation on bits makes of two values: of their characters if both are texts, or else of numbers. -/
def onBits (operation : Nat → Nat → Nat) (isUnion : Bool) (left right : Value) : Value :=
  match left, right with
  | .string one, .string other =>
    let size := if isUnion then max one.length other.length else min one.length other.length
    let code (text : String) (place : Nat) : Nat := ((text.toList.getD place '\x00')).toNat
    .string (String.ofList ((List.range size).map fun place =>
      Char.ofNat (operation (code one place) (code other place))))
  | left, right => .ofNat (operation left.bits right.bits)

def compareNumbers (left right : Value) (holds : Ordering → Bool) : Value :=
  .truth ((Value.numberOrder left right).any holds)

def compareTexts (left right : Value) (holds : Ordering → Bool) : PerlM Value := do
  return .truth (holds (compare (← textOf left) (← textOf right)))

def orderValue : Ordering → Value
  | .lt => .whole (-1)
  | .eq => .whole 0
  | .gt => .whole 1

/-- What two values are made into. -/
def applyBinary (operator : Binary) (left right : Value) : PerlM Value := do
  match operator with
  | .add => return Value.calculate (· + ·) (· + ·) left right
  | .subtract => return Value.calculate (· - ·) (· - ·) left right
  | .multiply => return Value.calculate (· * ·) (· * ·) left right
  | .divide =>
    if right.float == 0 then die "Illegal division by zero"
    return Value.quotient left right
  | .remainder =>
    if right.int = 0 then die "Illegal modulus zero"
    return .ofInt (Int.fmod left.int right.int)
  | .power => return Value.power left right
  | .concatenate => return .string ((← textOf left) ++ (← textOf right))
  | .shiftLeft => return .ofNat (if 64 ≤ right.nat then 0 else left.bits * Nat.pow 2 right.nat % wordSize)
  | .shiftRight => return .ofNat (left.bits / Nat.pow 2 right.nat)
  | .bitAnd => return onBits Nat.land false left right
  | .bitOr => return onBits Nat.lor true left right
  | .bitXor => return onBits Nat.xor true left right
  | .less => return compareNumbers left right (· == .lt)
  | .lessOrEqual => return compareNumbers left right (· != .gt)
  | .greater => return compareNumbers left right (· == .gt)
  | .greaterOrEqual => return compareNumbers left right (· != .lt)
  | .equal => return compareNumbers left right (· == .eq)
  | .different => return .truth (Value.numberOrder left right != some .eq)
  | .order =>
    return match Value.numberOrder left right with
      | some order => orderValue order
      | none => .undefined
  | .textLess => compareTexts left right (· == .lt)
  | .textLessOrEqual => compareTexts left right (· != .gt)
  | .textGreater => compareTexts left right (· == .gt)
  | .textGreaterOrEqual => compareTexts left right (· != .lt)
  | .textEqual => compareTexts left right (· == .eq)
  | .textDifferent => compareTexts left right (· != .eq)
  | .textOrder => return orderValue (compare (← textOf left) (← textOf right))

/-- The negative of a value. A word gets a sign in front. -/
def negative (value : Value) : Value :=
  match value with
  | .string text =>
    match text.toList with
    | c :: rest =>
      if Reader.isNameStart c then .string ("-" ++ text)
      else if c = '-' && rest.head?.any Reader.isNameStart then .string ("+" ++ String.ofList rest)
      else if c = '+' && rest.head?.any Reader.isNameStart then .string ("-" ++ String.ofList rest)
      else Value.calculate (· - ·) (· - ·) (.whole 0) value
    | [] => .whole 0
  | value => Value.calculate (· - ·) (· - ·) (.whole 0) value

def applyUnary (operator : Unary) (value : Value) : Value :=
  match operator with
  | .negate => negative value
  | .not => .truth !value.holds
  | .complement => .ofNat (wordSize - 1 - value.bits)
  | .plus => value

def repeated (text : String) (count : Int) : String :=
  String.join (List.replicate count.toNat text)

/-- Sorts values as a relation says, which holds when the first value may stand before the second one. -/
def sortBy (comes : Value → Value → PerlM Bool) : Nat → List Value → PerlM (List Value)
  | 0, values => return values
  | _, [] => return []
  | _, [value] => return [value]
  | fuel + 1, values => do
    let half := values.length / 2
    let left ← sortBy comes fuel (values.take half)
    let right ← sortBy comes fuel (values.drop half)
    merge (values.length + 1) left right #[]
where
  /-- Two sorted lists as one. -/
  merge : Nat → List Value → List Value → Array Value → PerlM (List Value)
    | 0, left, right, sofar => return sofar.toList ++ left ++ right
    | _, [], right, sofar => return sofar.toList ++ right
    | _, left, [], sofar => return sofar.toList ++ left
    | fuel + 1, one :: left, other :: right, sofar => do
      if ← comes one other then merge fuel left (other :: right) (sofar.push one)
      else merge fuel (one :: left) right (sofar.push other)

end Shell.Machine.Perl.PerlM

/-! ## Places -/

namespace Shell.Machine.Perl

open PerlM

/-- How what is inside of something is run. -/
structure Runner where
  /-- The values of an expression: one, or all. -/
  values : Want → Expr → PerlM (Array Value)
  /-- The cell that an expression stands for. -/
  cell : Expr → PerlM Nat
  array : Expr → PerlM Nat
  hash : Expr → PerlM Nat
  /-- The cells of all that an expression stands for. -/
  cells : Expr → PerlM (Array Nat)
  /-- Statements in a block of their own. The result is that of the last one. -/
  block : Want → Block → PerlM (Array Value)
  /-- A call of a function with cells for its arguments. -/
  call : Nat → Array Nat → Want → PerlM (Array Value)

namespace Runner

def one (runner : Runner) (expr : Expr) : PerlM Value := do
  return ((← runner.values .one expr).back?).getD .undefined

def all (runner : Runner) (expr : Expr) : PerlM (Array Value) := runner.values .all expr

def text (runner : Runner) (expr : Expr) : PerlM String := do textOf (← runner.one expr)

/-- Whether an expression is true. -/
def holds (runner : Runner) (expr : Expr) : PerlM Bool := do
  return (← runner.one expr).holds

/-- The values of expressions one after another. A variable counts with what it holds in the end. -/
def each (runner : Runner) (items : List Expr) : PerlM (Array Value) := do
  let mut sofar : Array (Nat ⊕ Value) := #[]
  for item in items do
    match item with
    | .var ⟨.scalar, _⟩ | .step _ true _ => sofar := sofar.push (.inl (← runner.cell item))
    | item => sofar := sofar ++ (← runner.all item).map Sum.inr
  sofar.mapM fun
    | .inl cell => load cell
    | .inr value => return value

end Runner

namespace PerlM

/-! ## Variables that are computed -/

/-- True for variables that a match sets. -/
def isMatchName (name : String) : Bool :=
  ["&", "\x60", "'", "+"].contains name || (name ≠ "0" && name.toList.head?.any Char.isDigit)

/-- True for variables whose values are not kept in cells. -/
def isComputed (name : String) : Bool := isMatchName name || name = "." || name = "$"

def matchValue (name : String) : PerlM Value := do
  match ← look (·.found) with
  | none => return .undefined
  | some found =>
    let size := found.text.size
    match name with
    | "&" => groupValue 0
    | "\x60" => return .string (partOf found.text ⟨0, found.span.start⟩)
    | "'" => return .string (partOf found.text ⟨found.span.stop, size⟩)
    | "+" =>
      let last := (found.groups.map (·.1)).foldl max 0
      if last = 0 then return .undefined else groupValue last
    | name => groupValue (name.toNat?.getD 0)

/-- Where a group of the last match begins, or where it ends. -/
def groupPlace (begins : Bool) (number : Nat) : PerlM Value := do
  match ← look (·.found) with
  | none => return .undefined
  | some found =>
    let span := if number = 0 then some found.span else found.groups.lookup number
    return match span with
      | some span => .ofNat (if begins then span.start else span.stop)
      | none => .undefined

/-- What a group with a name has matched. -/
def namedValue (name : String) : PerlM Value := do
  match ← look (·.found) with
  | none => return .undefined
  | some found =>
    let numbers := (found.names.filter (·.1 = name)).map (·.2)
    match numbers.find? fun number => (found.groups.lookup number).isSome with
    | some number => groupValue number
    | none => return .undefined

def scalarValue (name : String) : PerlM Value := do
  if isMatchName name then matchValue name
  else if name = "." then
    look fun world =>
      match world.lastRead.bind fun id => world.handles[id]? with
      | some handle => .ofNat handle.lines
      | none => .undefined
  else if name = "$" then
    let number : Nat ← ask .ownNumber
    return .ofNat number
  else load (← holdingOf ⟨.scalar, name⟩)

/-! ## Declared variables -/

def declareOne (lifetime : Lifetime) (variable_ : Variable) : PerlM Unit := do
  match lifetime with
  | .my => bind variable_ (← makeFor variable_.name variable_.kind)
  | .our =>
    let isHidden := (← look (·.scope)).any fun entry => entry.1 == variable_
    if isHidden then bind variable_ (← global variable_)
  | .state =>
    let line ← look (·.line)
    match (← look (·.kept)).find? fun entry => entry.1 = line && entry.2.1 == variable_ with
    | some (_, _, id) => bind variable_ id
    | none =>
      let id ← makeFor variable_.name variable_.kind
      modify fun world => { world with kept := (line, variable_, id) :: world.kept }
      bind variable_ id

/-- True for a variable that keeps its value and has been declared before. -/
def isKept (variable_ : Variable) : PerlM Bool :=
  look fun world => world.kept.any fun entry => entry.1 = world.line && entry.2.1 == variable_

def declared (fresh : List (Option Variable)) (isList : Bool) : Expr :=
  match fresh, isList with
  | [some variable_], false => .var variable_
  | fresh, _ => .list (fresh.map fun
    | some variable_ => .var variable_
    | none => .undefined)

/-- An expression without its declarations, which have been made. -/
def afterwards : Expr → Expr
  | .declare _ fresh isList => declared fresh isList
  | .localize target => target
  | .assign _ target _ => afterwards target
  | .list [item] => .list [afterwards item]
  | expr => expr

/-- True for what several values are assigned to. -/
def takesAll : Expr → Bool
  | .var variable_ => variable_.kind = .array || variable_.kind = .hash
  | .deref kind _ => kind = .array || kind = .hash
  | .declare _ fresh isList =>
    isList || fresh.any fun entry => entry.any fun found => found.kind = .array || found.kind = .hash
  | .localize target => takesAll target
  | .list _ | .elements .. | .entries .. => true
  | _ => false

/-- True for what a cell belongs to. -/
def isPlace : Expr → Bool
  | .var variable_ => variable_.kind = .scalar && !isComputed variable_.name
  | .element .. | .entry .. => true
  | .deref .scalar _ => true
  | .declare _ [some variable_] false => variable_.kind = .scalar
  | .localize target => isPlace target
  | .list [item] => isPlace item
  | .assign .. => true
  | _ => false

/-! ## What references lead to -/

/-- The key that an expression names. -/
def keyOf (runner : Runner) (expr : Expr) : PerlM String := do
  match expr with
  | .list items =>
    let texts ← (← runner.each items).toList.mapM textOf
    return (← specialText ";").intercalate texts
  | expr => runner.text expr

/-- What an expression refers to, which is made if nothing is there. -/
def behind (runner : Runner) (make : PerlM Target) (find : Value → PerlM Nat) (expr : Expr) : PerlM Nat := do
  if isPlace expr then
    let cell ← runner.cell expr
    match ← load cell with
    | .undefined =>
      let value : Value := .reference (← make)
      store cell value
      find value
    | value => find value
  else find (← runner.one expr)

/-- A new array, as a target. -/
def newArray : PerlM Target := do return .array (← makeArray #[])

/-- A new hash, as a target. -/
def newHash : PerlM Target := do return .hash (← makeHash {})

def arrayOf (runner : Runner) (expr : Expr) : PerlM Nat := do
  match expr with
  | .var variable_ => holdingOf variable_
  | .deref _ inner => behind runner newArray arrayBehind inner
  | .declare lifetime fresh isList =>
    for variable_ in fresh.filterMap id do
      declareOne lifetime variable_
    runner.array (declared fresh isList)
  | .localize target =>
    discard (runner.cells expr)
    runner.array target
  | .list [item] => runner.array item
  | .assign .. =>
    discard (runner.values .nothing expr)
    runner.array (afterwards expr)
  | expr => arrayBehind (← runner.one expr)

def hashOf (runner : Runner) (expr : Expr) : PerlM Nat := do
  match expr with
  | .var variable_ => holdingOf variable_
  | .deref _ inner => behind runner newHash hashBehind inner
  | .declare lifetime fresh isList =>
    for variable_ in fresh.filterMap id do
      declareOne lifetime variable_
    runner.hash (declared fresh isList)
  | .localize target =>
    discard (runner.cells expr)
    runner.hash target
  | .list [item] => runner.hash item
  | expr => hashBehind (← runner.one expr)

def cellBehind (value : Value) : PerlM Nat := do
  match value with
  | .reference (.cell id) => return id
  | value => global ⟨.scalar, ← nameBehind value "SCALAR"⟩

/-- The place of an element, counted from the beginning. -/
def checkedPlace (array : Nat) (place : Int) : PerlM Int := do
  let size := (← arraySize array)
  if place < 0 && place + size < 0 then
    die ("Modification of non-creatable array value attempted, subscript " ++ toString place)
  return if place < 0 then place + size else place

/-- Keeps what a variable of a package holds, and gives it something new. -/
def localizeVariable (variable_ : Variable) : PerlM Unit := do
  let name := fullName (← look (·.package)) variable_.name
  let key := (kindNumber variable_.kind, name)
  let id ← makeFor name variable_.kind
  modify fun world =>
    { world with
      saved := .variable_ ⟨variable_.kind, name⟩ world.globals[key]? :: world.saved
      globals := world.globals.insert key id }

/-- Keeps what a place holds, and makes a new one. -/
def localizeOne (runner : Runner) (target : Expr) : PerlM Unit := do
  match target with
  | .var variable_ => localizeVariable variable_
  | .entry hash key =>
    let id ← runner.hash hash
    let key ← keyOf runner key
    let cell ← makeCell .undefined
    let old := ← entryAt id key
    modify fun world => { world with saved := .entry id key old :: world.saved }
    changeHash id fun table => table.put key cell
  | .element array place =>
    let id ← runner.array array
    let place ← checkedPlace id (← runner.one place).int
    discard (elementCell id place)
    let old := (← arrayAt id)[place.toNat]?
    let cell ← makeCell .undefined
    modify fun world => { world with saved := .element id place.toNat old :: world.saved }
    changeArray id fun cells => cells.setIfInBounds place.toNat cell
  | _ => discard (runner.values .nothing target)

/-- Keeps what places hold. -/
def localizeAll (runner : Runner) (target : Expr) : PerlM Unit := do
  match target with
  | .list items =>
    for item in items do
      localizeOne runner item
  | .assign _ target _ => localizeOne runner target
  | target => localizeOne runner target

def cellOf (runner : Runner) (expr : Expr) : PerlM Nat := do
  match expr with
  | .var variable_ =>
    if variable_.kind = .scalar && !isComputed variable_.name then holdingOf variable_
    else makeCell (← runner.one expr)
  | .element array place =>
    let id ← runner.array array
    elementCell id (← checkedPlace id (← runner.one place).int)
  | .entry hash key =>
    let id ← runner.hash hash
    entryCell id (← keyOf runner key)
  | .deref .scalar inner =>
    let make : PerlM Target := do return .cell (← makeCell .undefined)
    behind runner make cellBehind inner
  | .declare lifetime fresh isList =>
    for variable_ in fresh.filterMap id do
      declareOne lifetime variable_
    runner.cell (declared fresh isList)
  | .localize target =>
    localizeAll runner target
    runner.cell target
  | .list [item] => runner.cell item
  | .either condition yes no => if ← runner.holds condition then runner.cell yes else runner.cell no
  | .assign .. =>
    discard (runner.values .nothing expr)
    runner.cell (afterwards expr)
  | .step _ true target =>
    discard (runner.values .nothing expr)
    runner.cell target
  | expr => makeCell (← runner.one expr)

/-- The cells of a hash: for each key a new one, and the one that belongs to it. -/
def hashCells (id : Nat) : PerlM (Array Nat) := do
  let table ← hashAt id
  let mut sofar : Array Nat := #[]
  for key in table.keys do
    sofar := sofar.push (← makeCell (.string key))
    sofar := sofar.push (((table.cells[key]?).map (·.1)).getD 0)
  return sofar

def cellsOf (runner : Runner) (expr : Expr) : PerlM (Array Nat) := do
  match expr with
  | .var ⟨.array, _⟩ | .deref .array _ => arrayAt (← runner.array expr)
  | .var ⟨.hash, _⟩ | .deref .hash _ => hashCells (← runner.hash expr)
  | .var ⟨.scalar, _⟩ | .element .. | .deref .scalar _ | .step _ true _ => return #[← runner.cell expr]
  | .entry .. => return #[← runner.cell expr]
  | .elements array places =>
    let id ← runner.array array
    (← runner.all places).mapM fun place => do elementCell id (← checkedPlace id place.int)
  | .entries hash keys =>
    let id ← runner.hash hash
    (← runner.all keys).mapM fun key => do entryCell id (← textOf key)
  | .list items =>
    let mut sofar : Array Nat := #[]
    for item in items do
      sofar := sofar ++ (← runner.cells item)
    return sofar
  | .declare lifetime fresh isList =>
    for variable_ in fresh.filterMap id do
      declareOne lifetime variable_
    runner.cells (declared fresh isList)
  | .localize target =>
    localizeAll runner target
    runner.cells target
  | .assign _ target _ =>
    discard (runner.values .nothing expr)
    runner.cells (afterwards target)
  | .either condition yes no => if ← runner.holds condition then runner.cells yes else runner.cells no
  | .builtin "values" [container] =>
    if container matches .var ⟨.hash, _⟩ || container matches .deref .hash _ then
      let table ← hashAt (← runner.hash container)
      return (table.keys.map fun key => ((table.cells[key]?).map (·.1)).getD 0).toArray
    else makeCells (← runner.all expr)
  | expr => makeCells (← runner.all expr)

/-- The cells of the arguments of a call. What is not there is not made for that. -/
def argumentCells (runner : Runner) (items : List Expr) : PerlM (Array Nat) := do
  let mut sofar : Array Nat := #[]
  for item in items do
    match item with
    | .entry hash key =>
      let id ← runner.hash hash
      let key ← keyOf runner key
      match ← entryAt id key with
      | some cell => sofar := sofar.push cell
      | none => sofar := sofar.push (← makeCell .undefined)
    | .element .. => sofar := sofar ++ (← makeCells (← runner.values .one item))
    | .list _ => sofar := sofar ++ (← runner.cells item)
    | item => sofar := sofar ++ (← runner.cells item)
  return sofar

end PerlM

end Shell.Machine.Perl
