import Shell.Machine.Script.Builtin.Variables
import Shell.Machine.Utility.Condition
import Shell.Machine.Utility.Escape
import Shell.Machine.Utility.Format

/-! # Builtins that compute

The builtins that only write text or find something out.
-/

namespace Shell.Machine.Script.ScriptM

def echo (arguments : List String) : ScriptM Nat :=
  emit (Echo.script arguments)

/-- Writes arguments by a format. -/
def printf (arguments : List String) : ScriptM Nat := do
  let (_, operands) ← readOptions "" arguments
  match operands with
  | [] => fail "usage: printf format [arg ...]"
  | format :: operands =>
    let result := Format.apply .script format operands
    result.reports.forM warn
    let status ← emit result.output
    match result.error with
    | some report => fail report
    | none => return max status result.failed.toNat

/-- Finds out whether a condition is true. -/
def test (words : List String) : ScriptM Nat := do
  match ← Condition.script words with
  | .ok true => return 0
  | .ok false => return 1
  | .error report => fail report

/-- Finds out whether a condition is true that ends in a bracket. -/
def bracket (arguments : List String) : ScriptM Nat := do
  match Condition.bracketed? arguments with
  | some words => test words
  | none => fail "missing ]"

/-! ## In the extended dialect -/

def echoExtended (arguments : List String) : ScriptM Nat := do
  emit (Echo.extended ((← get).switches.contains "xpg_echo") arguments)

/-- Gives a variable or an element the text that a format has made. -/
def keepPrinted (name text : String) : ScriptM Unit := do
  let target := Assignable.ofText name
  match target.subscript with
  | some subscript => setElementAt target.name subscript text false
  | none => setValue target.name text false false

/-- Writes arguments by a format, or keeps the text in a variable. -/
def printfExtended (arguments : List String) : ScriptM Nat := do
  let (options, operands) ← readOptions "v:" arguments
  let kept := options.getLast?.map (·.2)
  match kept with
  | some name =>
    if !Name.isValid (Assignable.ofText name).name.toList then
      discard (refuseName name)
      return 2
  | none => pure ()
  match operands with
  | [] => advise
  | format :: operands =>
    let now : Nat ← ask .clock
    let begun := (← get).startTime
    let result := Format.applyAt (now / 1000000) (begun / 1000000) .extended format operands
    result.reports.forM warn
    for (name, count) in result.counters do
      setValue name (toString count) false false
    let status ← match kept with
      | some name => do
        keepPrinted name result.output
        pure 0
      | none => emit result.output
    match result.error with
    | some report =>
      warn report
      return 1
    | none => return max status result.failed.toNat

/-- Evaluates formulas one after another. The status says whether the last one is not zero. -/
def letFormulas : List String → ScriptM Nat
  | [] => do
    warn "expression expected"
    return 1
  | [text] => do
    match ← formula? text with
    | some value => return if value == 0 then 1 else 0
    | none => return 1
  | text :: rest => do
    match ← formula? text with
    | some _ => letFormulas rest
    | none => return 1

/-- The number that an argument stands for, which may have a sign. -/
def signedNumber? (text : String) : Option Int :=
  Numeral.whole? text

/-- Drops parameters. -/
def shiftExtended (arguments : List String) : ScriptM Nat := do
  let text := arguments.headD "1"
  match signedNumber? text with
  | none =>
    warn (text ++ ": numeric argument required")
    return 1
  | some count =>
    let parameters := (← get).parameters
    if count < 0 then
      warn (text ++ ": shift count out of range")
      return 1
    else if parameters.length < count.toNat then
      if (← get).switches.contains "shift_verbose" then warn (text ++ ": shift count out of range")
      return 1
    else
      modify fun state => { state with parameters := parameters.drop count.toNat }
      return 0

end Shell.Machine.Script.ScriptM
