import Shell.Machine.Tools.Perl.Run.Assign

/-! # Searches of general programs

How expressions look for matches of patterns, change texts by them, and go over lists.
-/

namespace Shell.Machine.Perl.PerlM

/-- The variable that is meant where none is named. -/
def usual : Expr := .var ⟨.scalar, "_"⟩

def patternFrom (runner : Runner) (expr : Expr) (letters : List Char) : PerlM Pattern := do
  match expr with
  | .joined [part] => patternOf (← runner.one part) letters
  | expr => patternOf (← runner.one expr) letters

def charactersOf (value : Value) : PerlM (Array Char) := do
  return (← textOf value).toList.toArray

/-- Looks for the next match after the last one in a cell, and notes where it ends. -/
def searchNext (pattern : Pattern) (cell : Nat) (text : Array Char) (keeps : Bool) : PerlM Bool := do
  let start := (← look fun world => world.places[cell]?).getD 0
  let note (place : Nat) : PerlM Unit :=
    modify fun world => { world with places := world.places.insert cell place }
  match ← search pattern text start with
  | some found =>
    if found.span.start = found.span.stop && 0 < start && found.span.stop = start then
      match ← search pattern text (start + 1) with
      | some found =>
        note found.span.stop
        return true
      | none =>
        if !keeps then modify fun world => { world with places := world.places.erase cell }
        return false
    note found.span.stop
    return true
  | none =>
    if !keeps then modify fun world => { world with places := world.places.erase cell }
    return false

/-- The cell of a text that is part of the program. -/
def literalCell (text : String) : PerlM Nat := do
  match ← look fun world => world.literals[text]? with
  | some cell => return cell
  | none =>
    let cell ← makeCell (.string text)
    modify fun world => { world with literals := world.literals.insert text cell }
    return cell

def matchIn (runner : Runner) (want : Want) (subject : Option Expr) (negated : Bool) (expr : Expr)
    (flags : PatternFlags) : PerlM (Array Value) := do
  let subject := subject.getD usual
  if flags.global && want = .all && !negated then
    let text ← charactersOf (← runner.one subject)
    let pattern ← patternFrom runner expr flags.letters
    return ← searchAll pattern text (text.size + 2) 0 none #[]
  if flags.global then
    let cell ← match subject with
      | .text text => literalCell text
      | subject => runner.cell subject
    let pattern ← patternFrom runner expr flags.letters
    let found ← searchNext pattern cell (← charactersOf (← load cell)) flags.keeps
    return #[.truth (found != negated)]
  let text ← charactersOf (← runner.one subject)
  let pattern ← patternFrom runner expr flags.letters
  let found := (← search pattern text 0).isSome
  if want = .all && !negated then
    if !found then return #[]
    if pattern.groups = 0 then return #[.whole 1]
    return ← allGroups
  return #[.truth (found != negated)]

/-- Replaces matches. -/
def substituteIn (runner : Runner) (subject : Option Expr) (expr by_ : Expr) (flags : PatternFlags) :
    PerlM Value := do
  let subject := subject.getD usual
  let cell ← if flags.returns then makeCell (← runner.one subject) else runner.cell subject
  let text ← textOf (← load cell)
  let chars := text.toList.toArray
  let pattern ← patternFrom runner expr flags.letters
  let (count, after) ← replaceFrom pattern flags.global (runner.text by_) chars (2 * chars.size + 4) 0 none 0 ""
  if flags.returns then return .string after
  if count = 0 then return .truth false
  put cell (.string after)
  return .ofNat count

/-- Replaces characters. -/
def transliterateIn (runner : Runner) (subject : Option Expr) (from_ to_ letters : List Char) : PerlM Value := do
  let subject := subject.getD usual
  let cell ← if letters.contains 'r' then makeCell (← runner.one subject) else runner.cell subject
  let text ← textOf (← load cell)
  let (count, after) := transliterate from_ to_ letters text
  if letters.contains 'r' then return .string after
  if after ≠ text then put cell (.string after)
  return .ofNat count

def splitText (runner : Runner) (want : Want) (arguments : List Expr) : PerlM (Array Value) := do
  let subject := (arguments[1]?).getD usual
  let limit ← match arguments[2]? with
    | some limit => do pure (← runner.one limit).int
    | none => pure 0
  let parts ← match arguments.head? with
    | none => divideWords (← runner.text subject) limit
    | some (.matches_ none _ expr flags) => do
      let pattern ← patternFrom runner expr flags.letters
      let pattern ←
        if pattern.text = shownPattern "^" [] then patternAt (← patternNumber "^" ['m']) else pure pattern
      divide pattern (← runner.text subject) limit
    | some expr => do
      let value ← runner.one expr
      let isBlank : Bool := match value with
        | .string text => text = " "
        | _ => false
      let text ← runner.text subject
      if isBlank then divideWords text limit else divide (← patternOf value []) text limit
  return if want = .all then parts else #[.ofNat parts.size]

/-! ## Going over lists -/

/-- Does something while a variable of the whole program stands for a cell. -/
def withGlobal {α : Type} (name : String) (cell : Nat) (act : PerlM α) : PerlM α := do
  let key := (kindNumber .scalar, fullName (← look (·.package)) name)
  let old := (← look fun world => world.globals[key]?)
  let finish : PerlM Unit :=
    modify fun world =>
      { world with
        globals := match old with
          | some id => world.globals.insert key id
          | none => world.globals.erase key }
  modify fun world => { world with globals := world.globals.insert key cell }
  let result ← try act catch jump => do
    finish
    throw jump
  finish
  return result

/-- What a function gives for one element of a list. -/
def bodyValues (runner : Runner) (want : Want) : Expr → PerlM (Array Value)
  | .block body => runner.block want body
  | .makeCode _ body => runner.block want body
  | expr => runner.values want expr

/-- What a function that goes over a list gives for each element. -/
def forElements {α : Type} (cells : Array Nat) (act : Nat → PerlM (Option α)) : PerlM (Option α) := do
  for cell in cells do
    tick
    match ← withGlobal "_" cell (act cell) with
    | some found => return some found
    | none => continue
  return none

/-- True for the first cell for which something is true or false. -/
def findCell (runner : Runner) (body : Expr) (wanted : Bool) (cells : Array Nat) : PerlM (Option Nat) :=
  forElements cells fun cell => do
    let holds := (((← bodyValues runner .one body).back?).getD .undefined).holds
    return if holds = wanted then some cell else none

def sortValues (runner : Runner) (body : Option Expr) (values : List Value) : PerlM (List Value) := do
  match body with
  | none =>
    let texts ← values.mapM textOf
    let sorted := (texts.zip values).mergeSort fun left right => left.1 ≤ right.1
    return sorted.map (·.2)
  | some body =>
    let one ← makeCell .undefined
    let other ← makeCell .undefined
    let comes (left right : Value) : PerlM Bool := do
      tick
      store one left
      store other right
      let order := ((← bodyValues runner .one body).back?).getD .undefined
      return order.float <= 0
    withGlobal "a" one (withGlobal "b" other (sortBy comes 64 values))

def reduceValues (runner : Runner) (body : Expr) (values : List Value) : PerlM Value := do
  match values with
  | [] => return .undefined
  | first :: rest =>
    let one ← makeCell first
    let other ← makeCell .undefined
    withGlobal "a" one <| withGlobal "b" other do
      for value in rest do
        tick
        store other value
        store one (((← bodyValues runner .one body).back?).getD .undefined)
      load one

/-- Goes over the elements of a list. -/
def walkOver (runner : Runner) (want : Want) (walk : Walk) (body : Option Expr) (items : List Expr) :
    PerlM (Array Value) := do
  let body' := body.getD usual
  match walk with
  | .sort =>
    let sorted ← sortValues runner body (← runner.each items).toList
    return sorted.toArray
  | .reduce => return #[← reduceValues runner body' (← runner.each items).toList]
  | _ =>
    let cells ← runner.cells (.list items)
    match walk with
    | .map =>
      let mut sofar : Array Value := #[]
      for cell in cells do
        tick
        sofar := sofar ++ (← withGlobal "_" cell (bodyValues runner .all body'))
      return if want = .all then sofar else #[.ofNat sofar.size]
    | .grep =>
      let mut sofar : Array Value := #[]
      for cell in cells do
        tick
        let holds ← withGlobal "_" cell (bodyValues runner .one body')
        if ((holds.back?).getD .undefined).holds then sofar := sofar.push (← load cell)
      return if want = .all then sofar else #[.ofNat sofar.size]
    | .first =>
      match ← findCell runner body' true cells with
      | some cell => return #[← load cell]
      | none => return #[.undefined]
    | .any => return #[.truth (← findCell runner body' true cells).isSome]
    | .all => return #[.truth (← findCell runner body' false cells).isNone]
    | _ => return #[.truth (← findCell runner body' true cells).isNone]

end Shell.Machine.Perl.PerlM
