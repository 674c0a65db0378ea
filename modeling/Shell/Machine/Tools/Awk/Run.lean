import Shell.Machine.Tools.Awk.Read
import Shell.Machine.Tools.Awk.World
import Shell.Machine.Utility.Calendar

/-! # Running programs for records

What expressions are worth and what statements do. What leaves a statement early is a jump, which the loop, the
function or the rule that it is about stops.
-/

namespace Shell.Machine.Awk.AwkM

/-- How the parts of an expression or a statement are carried out. -/
structure Runner where
  value : Expr → AwkM Value
  run : Statement → AwkM Unit

def truth (holds : Bool) : Value := .number (if holds then 1 else 0)

/-- Whether a value counts as true. -/
def holds : Value → Bool
  | .none => false
  | .number value => value != 0
  | .text text => !text.isEmpty
  | .numeral _ value => value != 0

def calculate : Calculation → Float → Float → Float
  | .add, x, y => x + y
  | .subtract, x, y => x - y
  | .multiply, x, y => x * y
  | .divide, x, y => x / y
  | .remainder, x, y => Double.remainder x y
  | .power, x, y => Float.pow x y

/-- Whether an order between two things is what a comparison asks for. Nothing means that there is no order. -/
def Comparison.accepts (comparison : Comparison) (order : Option Ordering) : Bool :=
  match comparison with
  | .less => order = some .lt
  | .lessOrEqual => order = some .lt || order = some .eq
  | .equal => order = some .eq
  | .different => order ≠ some .eq
  | .greater => order = some .gt
  | .greaterOrEqual => order = some .gt || order = some .eq

/-- The order of two numbers. -/
def orderOf (x y : Float) : Option Ordering :=
  if x < y then some .lt else if x == y then some .eq else if y < x then some .gt else none

/-- Compares two values: as texts if one of them is one, and as numbers otherwise. -/
def compare (comparison : Comparison) (left right : Value) : AwkM Bool := do
  match left, right with
  | .text one, other => return Comparison.accepts comparison (some (Ord.compare one (← textOf other)))
  | one, .text other => return Comparison.accepts comparison (some (Ord.compare (← textOf one) other))
  | one, other => return Comparison.accepts comparison (orderOf (numberOf one) (numberOf other))

/-! ## Parts of expressions -/

/-- The text that an expression is worth. -/
def textFrom (runner : Runner) (expr : Expr) : AwkM String := do
  textOf (← runner.value expr)

/-- The number that an expression is worth. -/
def numberFrom (runner : Runner) (expr : Expr) : AwkM Float := do
  return numberOf (← runner.value expr)

/-- The regular expression that an expression stands for. -/
def regexFrom (runner : Runner) : Expr → AwkM Regex
  | .regex _ regex => return regex
  | expr => do regexOf (← textFrom runner expr)

def keyFrom (runner : Runner) (subscripts : List Expr) : AwkM Key := do
  match subscripts with
  | [subscript] => keyOf (← runner.value subscript)
  | subscripts =>
    let texts ← subscripts.mapM (textFrom runner)
    return .text ((← globalText "SUBSEP").intercalate texts)

/-- Where a value is assigned to. -/
inductive Address where
  | variable_ (variable_ : Variable)
  | element (array : Nat) (key : Key)
  | field (index : Nat)
deriving Repr, Inhabited

def addressOf (runner : Runner) : Expr → AwkM (Option Address)
  | .variable_ name => return some (.variable_ name)
  | .element array subscripts => do
    let id ← arrayOf array
    return some (.element id (← keyFrom runner subscripts))
  | .field index => do
    return some (.field (← fieldIndex (← runner.value index)))
  | _ => return none

def load : Address → AwkM Value
  | .variable_ name => valueOf name
  | .element array key => withArray array (Table.get key)
  | .field index => field index

def store (address : Address) (value : Value) : AwkM Unit := do
  match address with
  | .variable_ name => setValue name value
  | .element array key => withArray array fun table => ((), table.put key value)
  | .field index => setField index value

/-- Puts a value where an expression says. -/
def assign (runner : Runner) (target : Expr) (value : Value) : AwkM Unit := do
  match ← addressOf runner target with
  | some address => store address value
  | none => return

/-! ## Formats -/

def formatCall (name format : String) : String :=
  name ++ "(\"" ++ format ++ "\")"

/-- Values as a format says. What was written before an error is written. -/
def formatValues (name format : String) (emit : String → AwkM Unit) :
    Nat → Nat → List Char → List Value → String → AwkM String
  | 0, _, _, _, sofar => return sofar
  | _, _, [], _, sofar => return sofar
  | fuel + 1, count, '%' :: '%' :: rest, values, sofar =>
    formatValues name format emit fuel count rest values (sofar.push '%')
  | fuel + 1, count, '%' :: rest, values, sofar => do
    let missing {α : Type} : AwkM α := do
      emit sofar
      fault ("not enough arguments passed to " ++ formatCall name format)
    if values.isEmpty then missing
    let (_, _, after) := layoutOf rest []
    let stars := ((rest.take (rest.length - after.length)).filter (· = '*')).length
    let numbers := (values.take stars).map fun value => Double.clamp (-2147483648) 2147483647 (numberOf value)
    let (layout, _, _) := layoutOf rest numbers
    let values := values.drop stars
    match after, values with
    | letter :: after, value :: values =>
      let more ← if letter = 's' then do
          pure (layout.text (← textOf value))
        else if letter = 'c' then
          match value with
          | .number code =>
            pure (layout.pad (String.singleton (Char.ofNat (Double.clamp 0 2147483647 code % 256).toNat)))
          | .numeral _ code =>
            pure (layout.pad (String.singleton (Char.ofNat (Double.clamp 0 2147483647 code % 256).toNat)))
          | .text text => pure (layout.pad (String.singleton (text.front?.getD '\x00')))
          | .none => pure (layout.pad "\x00")
        else if "dioxXufFeEgGaA".contains letter then pure (formatNumber layout letter (numberOf value))
        else do
          emit sofar
          fault ("improper conversion(number " ++ toString (count + 1) ++ ") in " ++ formatCall name format)
      formatValues name format emit fuel (count + 1) after values (sofar ++ more)
    | [], _ :: _ =>
      emit sofar
      fault ("improper conversion(number " ++ toString (count + 1) ++ ") in " ++ formatCall name format)
    | _, [] => missing
  | fuel + 1, count, c :: rest, values, sofar =>
    formatValues name format emit fuel count rest values (sofar.push c)

def formatted (name : String) (values : List Value) (emit : String → AwkM Unit) : AwkM String := do
  match values with
  | [] => return ""
  | format :: values =>
    let format ← textOf format
    formatValues name format emit (format.length + 1) 0 format.toList values ""

/-! ## Functions on texts -/

/-- A part of a text, from a place on and so long. -/
def part (text : String) (start : Float) (count : Option Float) : String :=
  let least : Int := -1000000000
  let first := Double.clamp least 1000000000 start - 1
  let length := match count with
    | some count => Double.clamp least 1000000000 count
    | none => 2000000000
  let (first, length) := if first < 0 then (0, length + first) else (first, length)
  ((text.drop first.toNat).take length.toNat).toString

/-- The place of a text in another one, counted from one; zero if it is not there. -/
def placeOf (part : List Char) : Nat → List Char → Nat
  | _, [] => if part.isEmpty then 1 else 0
  | place, c :: rest =>
    if (c :: rest).take part.length = part then place else placeOf part (place + 1) rest

/-- What replaces a match, where `&` stands for what has matched, but not after a backslash. -/
def replacement (found : List Char) : List Char → List Char
  | '\\' :: '\\' :: '&' :: rest => '\\' :: found ++ replacement found rest
  | '\\' :: '&' :: rest => '&' :: replacement found rest
  | '&' :: rest => found ++ replacement found rest
  | c :: rest => c :: replacement found rest
  | [] => []

/-- Replaces matches in a text from a place on, all of them or one. Also counts them. -/
def replace (text : Array Char) (regex : Regex) (all : Bool) (by_ : List Char) :
    Nat → Nat → Option Nat → Nat → List Char → Nat × List Char
  | 0, place, _, count, sofar => (count, sofar ++ (text.extract place text.size).toList)
  | fuel + 1, place, last, count, sofar =>
    let rest := (text.extract place text.size).toList
    match Regex.find? { text } [regex] place with
    | none => (count, sofar ++ rest)
    | some found =>
      let before := (text.extract place found.span.start).toList
      let next := (text.extract found.span.stop (found.span.stop + 1)).toList
      if found.span.start = found.span.stop && last = some found.span.start then
        if text.size ≤ found.span.stop then (count, sofar ++ rest)
        else replace text regex all by_ fuel (found.span.stop + 1) none count (sofar ++ before ++ next)
      else
        let new := replacement (text.extract found.span.start found.span.stop).toList by_
        let sofar := sofar ++ before ++ new
        if !all then (count + 1, sofar ++ (text.extract found.span.stop text.size).toList)
        else if found.span.start = found.span.stop then
          if text.size ≤ found.span.stop then (count + 1, sofar)
          else replace text regex all by_ fuel (found.span.stop + 1) none (count + 1) (sofar ++ next)
        else replace text regex all by_ fuel found.span.stop (some found.span.stop) (count + 1) sofar

/-- Replaces matches in a variable, an element or a field. The value is how many there were. -/
def substitute (runner : Runner) (all : Bool) (pattern by_ target : Expr) : AwkM Value := do
  let regex ← regexFrom runner pattern
  let by_ ← textFrom runner by_
  match ← addressOf runner target with
  | none => return .number 0
  | some address =>
    let text := (← textOf (← load address)).toList.toArray
    let (count, chars) := replace text regex all by_.toList (text.size + 2) 0 none 0 []
    if 0 < count then store address (.text (String.ofList chars))
    return .number (Float.ofNat count)

/-- Divides a text into the elements of an array. The value is how many there are. -/
def split (runner : Runner) (text : Expr) (array : Variable) (separator : Option Expr) : AwkM Value := do
  let text ← textFrom runner text
  let separator ← match separator with
    | none => fieldSeparator
    | some (.regex _ regex) => pure (.regex regex)
    | some expr => separatorOf (← textFrom runner expr)
  let parts := ((separator.divide text).map ofInput).toArray
  let id ← arrayOf array
  withArray id fun _ => ((), Table.ofParts parts)
  return .number (Float.ofNat parts.size)

/-- Looks for a match and notes where it is. -/
def search (runner : Runner) (text pattern : Expr) : AwkM Value := do
  let text ← textFrom runner text
  let regex ← regexFrom runner pattern
  let (start, length) : Float × Float := match Regex.find? { text := text.toList.toArray } [regex] 0 with
    | some found => (Float.ofNat (found.span.start + 1), Float.ofNat (found.span.stop - found.span.start))
    | none => (0, -1)
  setGlobal "RSTART" (.value (.number start))
  setGlobal "RLENGTH" (.value (.number length))
  return .number start

/-! ## Other functions -/

/-- Changes the seed of the numbers by chance. The value is the seed before. -/
def reseed (seed : Value) : AwkM Value := do
  let before ← look (·.seed)
  let number := (Double.clamp (-2147483648) 2147483647 (numberOf seed) % 4294967296).toNat
  modify fun world => { world with seed, chance := Chance.ofSeed number }
  return before

/-- The seconds since the beginning of 1970. -/
def seconds : AwkM Int := do
  let now : Nat ← ask .clock
  return (now / 1000000 : Nat)

/-- The time that the numbers of a date name. -/
def timeOf (text : String) : Int :=
  let numbers := (Separator.blanks.divide text).map fun word => Double.clamp (-100000) 100000 (numberIn word)
  match numbers with
  | year :: month :: day :: hour :: minute :: second :: _ =>
    Calendar.dayNumber year month day * 86400 + hour * 3600 + minute * 60 + second
  | _ => -1

/-- The value of a function that is there from the beginning. -/
def applyBuiltin (runner : Runner) (builtin : Builtin) (arguments : List Expr) : AwkM Value := do
  let number (change : Float → Float) : AwkM Value := do
    match arguments with
    | [operand] => return .number (change (← numberFrom runner operand))
    | _ => return .number 0
  let text (change : String → String) : AwkM Value := do
    match arguments with
    | [operand] => return .text (change (← textFrom runner operand))
    | _ => return .text ""
  match builtin, arguments with
  | .arcTangent, [y, x] =>
    let y ← numberFrom runner y
    return .number (Float.atan2 y (← numberFrom runner x))
  | .cosine, _ => number Float.cos
  | .sine, _ => number Float.sin
  | .exponential, _ => number Float.exp
  | .logarithm, _ => number Float.log
  | .root, _ => number Float.sqrt
  | .integer, _ => number Double.truncate
  | .lower, _ => text String.toLower
  | .upper, _ => text String.toUpper
  | .length, [.variable_ name] =>
    match ← slotOf name with
    | .array id => return .number (Float.ofNat (← withArray id fun table => (table.count, table)))
    | .value _ => return .number (Float.ofNat (← textOf (← valueOf name)).length)
  | .length, [operand] => return .number (Float.ofNat (← textFrom runner operand).length)
  | .length, _ => return .number (Float.ofNat (← textOf (← field 0)).length)
  | .index, [whole, part] =>
    let whole ← textFrom runner whole
    let part ← textFrom runner part
    return .number (Float.ofNat (placeOf part.toList 1 whole.toList))
  | .part, whole :: start :: count =>
    let whole ← textFrom runner whole
    let start ← numberFrom runner start
    let count ← match count with
      | count :: _ => do pure (some (← numberFrom runner count))
      | [] => pure none
    return .text (part whole start count)
  | .split, text :: .variable_ array :: separator => split runner text array separator.head?
  | .search, [text, pattern] => search runner text pattern
  | .replaceFirst, pattern :: by_ :: target => substitute runner false pattern by_ (target.headD (.field (.number 0)))
  | .replaceAll, pattern :: by_ :: target => substitute runner true pattern by_ (target.headD (.field (.number 0)))
  | .format, _ => return .text (← formatted "sprintf" (← arguments.mapM runner.value) fun _ => pure ())
  | .random, _ =>
    let (value, chance) := (← look (·.chance)).fraction
    modify fun world => { world with chance }
    return .number value
  | .seed, [] => reseed (.number (Float.ofInt (← seconds)))
  | .seed, seed :: _ => reseed (← runner.value seed)
  | .run, [command] =>
    let child ← startCommand (← textFrom runner command) (pure ())
    return .number (Float.ofInt (← wait child))
  | .close, [name] => return .number (Float.ofInt (← closeNamed (← textFrom runner name)))
  | .flush, [] =>
    flushAll
    return .number 0
  | .flush, name :: _ =>
    let name ← textFrom runner name
    let isKnown := name = "/dev/stdout" || name.isEmpty || (← look (·.outlets)).any fun outlet => outlet.name = name
    flushAll
    return .number (if isKnown then 0 else -1)
  | .time, _ => return .number (Float.ofInt (← seconds))
  | .formatTime, _ =>
    let format ← match arguments with
      | format :: _ => textFrom runner format
      | [] => pure "%c"
    let time ← match arguments[1]? with
      | some time => do pure (Double.clamp (-100000000000) 100000000000 (← numberFrom runner time))
      | none => seconds
    return .text (Calendar.format format { seconds := time, nanos := 0 })
  | .makeTime, [date] => return .number (Float.ofInt (timeOf (← textFrom runner date)))
  | _, _ => return .none

/-! ## Expressions -/

/-- Reads a line from a file, a command or the records. -/
def readLine (runner : Runner) (origin : Origin) (source target : Option Expr) : AwkM Value := do
  let put (text : String) : AwkM Unit :=
    match target with
    | some target => assign runner target (ofInput text)
    | none => setRecord (ofInput text)
  match source with
  | none =>
    match ← nextRecord ToolM.patience with
    | some text =>
      put text
      return .number 1
    | none => return .number 0
  | some source =>
    match ← openInlet origin (← textFrom runner source) with
    | none => return .number (-1)
    | some inlet =>
      let (text, inlet) ← Inlet.record inlet
      updateInlet inlet
      match text with
      | some text =>
        if origin = .command && target.isNone then increase "NR"
        put text
        return .number 1
      | none => return .number 0

def callFunction (runner : Runner) (name : String) (arguments : List Expr) : AwkM Value := do
  tick
  let some function := (← look (·.functions)).lookup name
    | return .none
  let slots ← arguments.zipIdx.mapM fun (argument, place) => do
    match argument with
    | .variable_ variable_ =>
      if function.arrays.contains place then return Slot.array (← arrayOf variable_)
      else return .value (← valueOf variable_)
    | argument => return .value (← runner.value argument)
  let before ← look (·.locals)
  let rest := List.replicate (function.parameters.length - slots.length) (Slot.value .none)
  modify fun world => { world with locals := (slots ++ rest).toArray }
  try
    runner.run (.block function.body)
    modify fun world => { world with locals := before }
    return .none
  catch jump =>
    modify fun world => { world with locals := before }
    match jump with
    | .return_ value => return value
    | other => throw other

def evaluate (runner : Runner) (expr : Expr) : AwkM Value := do
  match expr with
  | .number value => return .number value
  | .text text => return .text text
  | .regex _ regex =>
    let text ← textOf (← field 0)
    return truth (Regex.find? { text := text.toList.toArray } [regex] 0).isSome
  | .variable_ name => valueOf name
  | .element array subscripts =>
    let id ← arrayOf array
    let key ← keyFrom runner subscripts
    withArray id (Table.get key)
  | .field index => field (← fieldIndex (← runner.value index))
  | .negate operand => return .number (-(← numberFrom runner operand))
  | .positive operand => return .number (← numberFrom runner operand)
  | .not operand => return truth (!holds (← runner.value operand))
  | .calculate calculation left right =>
    let left ← numberFrom runner left
    return .number (calculate calculation left (← numberFrom runner right))
  | .compare comparison left right =>
    let left ← runner.value left
    return truth (← compare comparison left (← runner.value right))
  | .join left right =>
    let left ← textFrom runner left
    return .text (left ++ (← textFrom runner right))
  | .matches inverted subject pattern =>
    let subject ← textFrom runner subject
    let regex ← regexFrom runner pattern
    return truth ((Regex.find? { text := subject.toList.toArray } [regex] 0).isSome != inverted)
  | .contains array subscripts =>
    let key ← keyFrom runner subscripts
    let id ← arrayOf array
    return truth (← withArray id (Table.contains key))
  | .and left right =>
    if holds (← runner.value left) then return truth (holds (← runner.value right)) else return truth false
  | .or left right =>
    if holds (← runner.value left) then return truth true else return truth (holds (← runner.value right))
  | .choose condition yes no =>
    if holds (← runner.value condition) then runner.value yes else runner.value no
  | .assign target calculation value =>
    match ← addressOf runner target with
    | none => return .none
    | some address =>
      let value ← match calculation with
        | none => runner.value value
        | some calculation => do
          let right ← numberFrom runner value
          pure (.number (AwkM.calculate calculation (numberOf (← load address)) right))
      store address value
      return value
  | .step target calculation isAfter =>
    match ← addressOf runner target with
    | none => return .none
    | some address =>
      let before := numberOf (← load address)
      let after := AwkM.calculate calculation before 1
      store address (.number after)
      return .number (if isAfter then after else before)
  | .readLine origin source target => readLine runner origin source target
  | .builtin builtin arguments => applyBuiltin runner builtin arguments
  | .call name arguments => callFunction runner name arguments
  | .list items =>
    match items with
    | [item] => runner.value item
    | _ => return .none

/-! ## Statements -/

/-- Writes a text to where it is to go. -/
def output (runner : Runner) (target : Option (Direction × Expr)) (text : String) : AwkM Unit := do
  match target with
  | none => tool (ToolM.print text)
  | some (direction, name) => writeTo direction (← textFrom runner name) text

/-- What is done at the end of a round of a loop. True if there are no more rounds. -/
def endsLoop (body : AwkM Unit) : AwkM Bool := do
  try
    body
    return false
  catch jump =>
    match jump with
    | .break_ => return true
    | .continue_ => return false
    | other => throw other

/-- Goes through the keys of an array. -/
def forKeys (key : Variable) (body : AwkM Unit) : List String → AwkM Unit
  | [] => return
  | text :: rest => do
    tick
    setValue key (.text text)
    if ← endsLoop body then return
    forKeys key body rest

def execute (runner : Runner) (statement : Statement) : AwkM Unit := do
  match statement with
  | .expr expr => discard (runner.value expr)
  | .print items target =>
    let values ← if items.isEmpty then do pure [← field 0] else items.mapM runner.value
    let texts ← values.mapM (textBy "OFMT")
    let between ← globalText "OFS"
    output runner target (between.intercalate texts ++ (← globalText "ORS"))
  | .printFormat items target =>
    let values ← items.mapM runner.value
    output runner target (← formatted "printf" values (output runner target))
  | .block body =>
    for statement in body do
      runner.run statement
  | .ifElse condition yes no =>
    if holds (← runner.value condition) then runner.run yes
    else
      match no with
      | some no => runner.run no
      | none => return
  | .while_ condition body => runner.run (.for_ (some condition) none body)
  | .doWhile body condition =>
    tick
    if ← endsLoop (runner.run body) then return
    if holds (← runner.value condition) then runner.run statement
  | .for_ condition update body =>
    tick
    let goesOn ← match condition with
      | some condition => do pure (holds (← runner.value condition))
      | none => pure true
    if goesOn then
      if ← endsLoop (runner.run body) then return
      match update with
      | some update => discard (runner.value update)
      | none => pure ()
      runner.run statement
  | .forEach key array body =>
    let id ← arrayOf array
    forKeys key (runner.run body) (← withArray id Table.keys)
  | .break_ => throw .break_
  | .continue_ => throw .continue_
  | .next => throw .next
  | .nextFile => throw .nextFile
  | .exit status =>
    match status with
    | some status =>
      let code := (Double.clamp (-2147483648) 2147483647 (← numberFrom runner status) % 256).toNat
      tool (modify fun tool => { tool with status := code })
    | none => pure ()
    throw .exit
  | .return_ value =>
    match value with
    | some value => throw (.return_ (← runner.value value))
    | none => throw (.return_ .none)
  | .delete array subscripts =>
    let id ← arrayOf array
    match subscripts with
    | some subscripts =>
      let key ← keyFrom runner subscripts
      withArray id fun table => ((), table.erase key)
    | none => withArray id fun _ => ((), {})

/-- What carries out parts that are so deep at most. -/
def runner : Nat → Runner
  | 0 => { value := fun _ => return .none, run := fun _ => return }
  | depth + 1 => {
      value := fun expr => evaluate (runner depth) expr
      run := fun statement => execute (runner depth) statement }

/-! ## Rules -/

/-- Whether a rule is about the record. -/
def isFor (runner : Runner) : Pattern → AwkM Bool
  | .begin_ => return false
  | .end_ => return false
  | .always => return true
  | .when condition => do return holds (← runner.value condition)
  | .range number first last => do
    if !(← look (·.ranges)).contains number then
      if !holds (← runner.value first) then return false
      modify fun world => { world with ranges := number :: world.ranges }
    if holds (← runner.value last) then
      modify fun world => { world with ranges := world.ranges.filter (· ≠ number) }
    return true

/-- Does what a rule says with the record. -/
def applyRule (runner : Runner) (rule : Rule) : AwkM Unit := do
  if ← isFor runner rule.pattern then
    runner.run (rule.body.getD (.print [] none))

def forRecords (runner : Runner) (rules : List Rule) : Nat → AwkM Unit
  | 0 => return
  | fuel + 1 => do
    tick
    match ← nextRecord ToolM.patience with
    | none => return
    | some text =>
      setRecord (ofInput text)
      try
        for rule in rules do
          applyRule runner rule
      catch jump =>
        match jump with
        | .next => pure ()
        | .nextFile => closeSource
        | other => throw other
      forRecords runner rules fuel

/-- Does something until it is done or the program is left. True if it was left. -/
def untilExit (act : AwkM Unit) : AwkM Bool := do
  try
    act
    return false
  catch jump => return jump matches .exit

def runProgram (program : Program) : AwkM Unit := do
  let runner := runner ToolM.patience
  let bodies (isEnd : Bool) : List Statement := program.rules.filterMap fun rule =>
    match rule.pattern with
    | .begin_ => if isEnd then none else rule.body
    | .end_ => if isEnd then rule.body else none
    | _ => none
  let rules := program.rules.filter fun rule => !(rule.pattern matches .begin_ | .end_)
  let all (statements : List Statement) : AwkM Unit := do
    for statement in statements do
      runner.run statement
  let left ← untilExit (all (bodies false))
  let left ← if left || (rules.isEmpty && (bodies true).isEmpty) then pure left
    else untilExit (forRecords runner rules ToolM.patience)
  if !left || !(bodies true).isEmpty then discard (untilExit (all (bodies true)))
  closeAll

end Shell.Machine.Awk.AwkM
