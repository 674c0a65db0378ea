import Shell.Machine.Script.Elements
import Shell.Machine.Utility.Quote
import Shell.Machine.Script.Pattern
import Shell.Machine.Utility.Escape
import Shell.Machine.Script.Formula

/-! # Values in the extended dialect

How a script finds the elements of its arrays and the values of its formulas, and how it gives variables of every kind
their values.
-/

/-! ## Changed values

What the extended dialect makes of the values that it takes from variables: parts of them, other letters, other texts
in the place of what matches, and forms that a script could read again.
-/

/-! ## Values as they are written -/

namespace Shell.Machine.Script.Quoting

open ScriptQuote

def key (text : String) : String :=
  if needsEscapes text then escaped text
  else if hasMeaning text || text = "@" || text.isEmpty then double text
  else text

/-- The letters for what is special about a variable. -/
def attributes (entry : Variable) : String :=
  let flags : List (Bool × Char) := [
    (entry.elements.isSome, 'a'), (entry.entries.isSome, 'A'), (entry.isNumber, 'i'), (entry.isReference, 'n'),
    (entry.readOnly, 'r'), (entry.exported, 'x'), (entry.casing = some .swapped, 'c'), (entry.casing = some .lower, 'l'),
    (entry.casing = some .upper, 'u')]
  String.ofList ((flags.filter (·.1)).map (·.2))

/-- The values of an array between parentheses. -/
def compound (entry : Variable) : String :=
  let item (pair : String × String) : String := "[" ++ key pair.1 ++ "]=" ++ double pair.2
  match entry.entries, entry.elements with
  | some entries, _ => "(" ++ String.join (entries.map fun pair => item pair ++ " ") ++ ")"
  | none, _ => "(" ++ " ".intercalate (entry.pairs.map item) ++ ")"

/-- The command that makes a variable what it is. -/
def declaration (entry : Variable) : String :=
  let letters := attributes entry
  let start := "declare -" ++ (if letters.isEmpty then "-" else letters) ++ " " ++ entry.name
  if entry.isArray then
    if entry.pairs.isEmpty && !entry.isSet then start else start ++ "=" ++ compound entry
  else
    match entry.value with
    | some value => start ++ "=" ++ double value
    | none => start

/-- An assignment that makes a variable what it is, as a list of all variables shows it. -/
def setting (entry : Variable) : String :=
  if entry.isArray then entry.name ++ "=" ++ compound entry
  else entry.name ++ "=" ++ listed (entry.value.getD "")

end Shell.Machine.Script.Quoting

/-! ## Values as they are asked for -/

namespace Shell.Machine.Script

/-- What a name stands for. -/
inductive Amount where
  | nothing
  | one (text : String)
  /-- Many texts. `joins` says whether they become one text between quotes. -/
  | many (texts : List String) (joins : Bool)
deriving Repr, DecidableEq, Inhabited

namespace Amount

/-- Does something to each text. -/
def map (change : String → String) : Amount → Amount
  | nothing => nothing
  | one text => one (change text)
  | many texts joins => many (texts.map change) joins

/-- True when there is nothing, or only what is empty if that counts. -/
def isMissing (orEmpty : Bool) : Amount → Bool
  | nothing => true
  | one text => orEmpty && text.isEmpty
  | many texts _ => texts.isEmpty || (orEmpty && (texts = [""]))

/-- How many characters or texts there are. -/
def size : Amount → Nat
  | nothing => 0
  | one text => text.length
  | many texts _ => texts.length

end Amount

namespace Changed

/-- Changes the letters of a text that pass a test. -/
def recased (casing : Casing) (all : Bool) (test : Option Pattern.Test) (text : String) : String :=
  let counts (c : Char) : Bool := (test.map fun test => test.accepts [c]).getD true
  let change (c : Char) : Char :=
    match casing with
    | .upper => c.toUpper
    | .lower => c.toLower
    | .swapped => if c.isLower then c.toUpper else c.toLower
  match text.toList with
  | [] => ""
  | c :: rest =>
    let changed (c : Char) : Char := if counts c then change c else c
    if all then String.ofList ((c :: rest).map changed) else String.ofList (changed c :: rest)

/-- What stands in the place of what matches: a character, or what matched. -/
abbrev Filling := List (Option Char)

def filled (filling : Filling) (matched : List Char) : List Char :=
  filling.flatMap fun
    | some c => [c]
    | none => matched

/-- What characters put in the place of what matches. `&` stands for that unless it is quoted. -/
def fillingOf : List Glyph → Filling
  | [] => []
  | [glyph] => if glyph.is '&' then [none] else [some glyph.char]
  | glyph :: next :: rest =>
    if glyph.is '&' then none :: fillingOf (next :: rest)
    else if glyph.is '\\' && (next.is '&' || next.is '\\') then some next.char :: fillingOf rest
    else some glyph.char :: fillingOf (next :: rest)

/-- A text in which what passes a test is replaced. -/
def replaced (which : Matches) (test : Pattern.Test) (filling : Filling) (text : String) : String :=
  let chars := text.toList
  let change := filled filling
  String.ofList <|
    match which with
    | .first => Pattern.replaceFrom test false change (chars.length + 1) chars
    | .all => Pattern.replaceFrom test true change (chars.length + 1) chars
    | .atStart => Pattern.replaceStart test change chars
    | .atEnd => Pattern.replaceEnd test change chars

/-- A text with its escapes replaced. -/
def unescaped (text : String) : String :=
  let rules : Escape.Rules := { hexadecimal := true, universal := true, quotes := true, leadingZero := false }
  let (text, _) := Escape.unescape rules text
  text

/-- What a letter after `@` makes of a text. -/
def transformed (letter : Char) (text : String) : String :=
  match letter with
  | 'U' => text.toUpper
  | 'u' => recased .upper false none text
  | 'L' => text.toLower
  | 'Q' | 'K' => ScriptQuote.reusable text
  | 'E' => unescaped text
  | _ => text

/-- The part of a list from a place on, or of a place that is counted from the end. -/
def part {α : Type} (start : Int) (length : Option Int) (items : List α) : Except Int (List α) :=
  let size : Int := items.length
  let start := if start < 0 then start + size else start
  if start < 0 || size < start then .ok []
  else
    match length with
    | none => .ok (items.drop start.toNat)
    | some length =>
      let count := if length < 0 then size + length - start else length
      if count < 0 then .error length else .ok ((items.drop start.toNat).take count.toNat)

end Changed

end Shell.Machine.Script

namespace Shell.Machine.Script.ScriptM

/-! ## Formulas -/

/-- Finds out what time it is if a text asks for that. -/
def noteTime (text : String) : ScriptM Unit := do
  if ["SECONDS", "EPOCHREALTIME"].any fun name => 1 < (text.splitOn name).length then
    let now : Nat ← ask .clock
    modify fun state => { state with now }

/-- The value of a formula. If it has none, that is reported. -/
def formula? (text : String) : ScriptM (Option Int64) := do
  noteTime text
  match Formula.evaluate text (← get) with
  | .ok (value, state) =>
    set state
    return some value
  | .error (.report report) =>
    warn report
    return none
  | .error (.unbound name) => endWith (name ++ ": unbound variable")

/-- The value of a formula that has to have one. -/
def formula (text : String) : ScriptM Int64 := do
  match ← formula? text with
  | some value => return value
  | none =>
    modify fun state => { state with status := 1 }
    jump .discard

/-- Does something for which reports name what it is done for. -/
def onBehalf {α : Type} (name : Option String) (action : ScriptM α) : ScriptM α := do
  let before := (← get).builtin
  modify fun state => { state with builtin := name }
  andFinally action (modify fun state => { state with builtin := before })

/-! ## Elements -/

/-- What a subscript means. -/
inductive Key where
  | number (index : Nat)
  | text (text : String)
deriving Repr, DecidableEq, Inhabited

/-- A variable as it is seen, or one without a value. -/
def seen (name : String) : ScriptM Variable := do
  return ((← get).visible? name).getD { name, value := none }

/-- What a subscript means, unless it counts back too far. -/
def key? (name subscript : String) : ScriptM (Option Key) := do
  let entry ← seen name
  if entry.entries.isSome then return if subscript.isEmpty then none else some (.text subscript)
  let index ← onBehalf none (formula subscript)
  return (entry.position? index.toInt).map Key.number

def valueAt (entry : Variable) : Key → Option String
  | .number index => entry.numbered? index
  | .text key => (entry.entries.getD []).lookup key

def element? (name subscript : String) : ScriptM (Option String) := do
  noteTime name
  match ← key? name subscript with
  | some key => return valueAt (← seen name) key
  | none =>
    warn (name ++ ": bad array subscript")
    return none

/-! ## Assignments -/

/-- Variables whose values are made, so that setting them has no effect. -/
def isMade (name : String) : Bool :=
  ["PIPESTATUS", "FUNCNAME", "BASH_SOURCE", "BASH_LINENO", "GROUPS", "BASH_SUBSHELL", "EPOCHSECONDS",
    "EPOCHREALTIME", "BASHPID", "DIRSTACK"].contains name

/-- Refuses to change a variable that may only be read. -/
def requireWritable (name : String) : ScriptM Unit := do
  let state ← get
  if (state.entryToChange name).readOnly then refuseChange (state.meant State.maxReferences name)

/-- What is assigned to a variable: the value of a formula if it keeps numbers, after what it has if that is added to. -/
def textToAssign (isNumber appends : Bool) (old : Option String) (text : String) : ScriptM String := do
  if isNumber then
    let value ← formula text
    let before ← if appends then formula (old.getD "") else pure 0
    return toString (before + value).toInt
  else return if appends then old.getD "" ++ text else text

/-- Gives a variable a value. -/
def setValue (name text : String) (appends exported : Bool) : ScriptM Unit := do
  requireWritable name
  let state ← get
  if state.dialect = .plain then modify fun state => state.assign name text exported
  else if isMade name then return
  else
    let entry := state.entryToChange name
    let text ← textToAssign entry.isNumber appends entry.value text
    if name = "RANDOM" then
      modify fun state => { state with chance := (text.toInt?.getD 0).toNat % 4294967296, lastDrawn := 0 }
    else if name = "SECONDS" then
      let now : Nat ← ask .clock
      modify fun state => { state with startTime := now - (text.toNat?.getD 0) * 1000000, now }
    else modify fun state => state.assign name text exported

/-- Gives an element a value. -/
def setElementAt (name subscript text : String) (appends : Bool) : ScriptM Unit := do
  requireWritable name
  match ← key? name subscript with
  | none => drop (name ++ "[" ++ subscript ++ "]: bad array subscript")
  | some key =>
    if isMade name then return
    let entry := (← get).entryToChange name
    let text ← textToAssign entry.isNumber appends (valueAt entry key) text
    modify fun state =>
      match key with
      | .number index => state.assignNumbered name index text
      | .text key => state.assignKeyed name key text

/-- Adds given elements to an array with numbers, from a number on. -/
def addNumbered (name : String) (isNumber : Bool) : Variable → Nat → List GivenElement → ScriptM Variable
  | entry, _, [] => return entry
  | entry, next, given :: rest => do
    let index : Option Nat ← match given.subscript with
      | none => pure (some next)
      | some subscript => do
        let index ← onBehalf none (formula subscript)
        pure (entry.position? index.toInt)
    match index with
    | none =>
      warn ("[" ++ given.subscript.getD "" ++ "]=" ++ given.text ++ ": bad array subscript")
      addNumbered name isNumber entry next rest
    | some index =>
      let text ← textToAssign isNumber given.appends (entry.numbered? index) given.text
      let text := match entry.casing with
        | some casing => State.recase casing text
        | none => text
      let entry := entry.withElements (State.setElement index text (entry.elements.getD []))
      addNumbered name isNumber entry (index + 1) rest

/-- Given elements with their keys. Without subscripts, keys and values alternate. -/
def withKeys : List GivenElement → List GivenElement
  | [] => []
  | [given] => [if given.subscript.isSome then given else { subscript := some given.text, text := "" }]
  | given :: next :: rest =>
    if given.subscript.isSome then given :: withKeys (next :: rest)
    else { subscript := some given.text, text := next.text } :: withKeys rest

/-- Adds given elements to an array whose keys are texts. -/
def addKeyed (isNumber : Bool) : Variable → List GivenElement → ScriptM Variable
  | entry, [] => return entry
  | entry, given :: rest => do
    let key := given.subscript.getD ""
    let text ← textToAssign isNumber given.appends ((entry.entries.getD []).lookup key) given.text
    let text := match entry.casing with
      | some casing => State.recase casing text
      | none => text
    addKeyed isNumber (entry.withEntries (State.setEntry key text (entry.entries.getD []))) rest

/-- Gives a variable many values. -/
def setElements (name : String) (given : List GivenElement) (appends : Bool) : ScriptM Unit := do
  requireWritable name
  let state ← get
  let name := state.meant State.maxReferences name
  if isMade name then return
  let old := state.entryToChange name
  let entry ←
    if old.entries.isSome then
      addKeyed old.isNumber (if appends then old else old.withEntries []) (withKeys given)
    else
      let start := if appends then old.asElements else old.withElements []
      addNumbered name old.isNumber start start.extent given
  modify fun state => state.putVariable entry

end Shell.Machine.Script.ScriptM
