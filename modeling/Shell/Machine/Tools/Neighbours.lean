import Shell.Machine.Tools.Lines

/-! # Programs for lines in order

Programs that compare lines with those next to them, or the lines of two files that are in order.
-/

namespace Shell.Machine

/-! ## Repeated lines -/

namespace Repeated

/-- Where empty lines separate groups of lines. -/
inductive Separation where
  | nowhere
  | before
  | after
  | between
  | around
deriving Repr, DecidableEq, Inhabited

def separation? (allowed : List (String × Separation)) (word : String) : Option Separation :=
  match allowed.filter fun entry => entry.1.startsWith word with
  | [entry] => some entry.2
  | _ => none

/-- What is looked at when lines are compared with the one before. -/
structure View where
  fields : Nat := 0
  chars : Nat := 0
  width : Option Nat := none
  folds : Bool := false

def View.part (view : View) (line : String) : List Char :=
  let skipField (chars : List Char) : List Char :=
    (chars.dropWhile fun c => c = ' ' || c = '\t').dropWhile fun c => c ≠ ' ' && c ≠ '\t'
  let chars := (Nat.repeat skipField view.fields line.toList).drop view.chars
  let chars := match view.width with
    | some width => chars.take width
    | none => chars
  if view.folds then chars.map Char.toUpper else chars

/-- Groups of neighbouring lines that are the same. -/
def group (view : View) : List (List Char × List String) → List String → List (List String)
  | sofar, [] => (sofar.map fun entry => entry.2.reverse).reverse
  | [], line :: rest => group view [(view.part line, [line])] rest
  | (part, lines) :: before, line :: rest =>
    let own := view.part line
    if part = own then group view ((part, line :: lines) :: before) rest
    else group view ((own, [line]) :: (part, lines) :: before) rest

/-- Groups of lines with empty lines where they are to be separated. -/
def separated (separation : Separation) (groups : List (List String)) : List String :=
  match separation with
  | .nowhere => groups.flatten
  | .before => groups.flatMap ([""] ++ ·)
  | .after => groups.flatMap (· ++ [""])
  | .between => ([""] : List String).intercalate groups
  | .around => if groups.isEmpty then [] else groups.flatMap ([""] ++ ·) ++ [""]

end Repeated

namespace ToolM

def repeatedWays : List (String × Repeated.Separation) :=
  [("none", .nowhere), ("prepend", .before), ("separate", .between)]

def groupWays : List (String × Repeated.Separation) :=
  [("prepend", .before), ("append", .after), ("separate", .between), ("both", .around)]

def separationOf (option value : String) (ways : List (String × Repeated.Separation))
    (default : Repeated.Separation) : ToolM Repeated.Separation := do
  if value.isEmpty then return default
  match Repeated.separation? ways value with
  | some separation => return separation
  | none =>
    report ("invalid argument " ++ Quote.text value ++ " for " ++ Quote.text option)
    explainChoices (ways.map (·.1))
    advise 1

def countIn (arguments : Arguments) (name what : String) : ToolM (Option Nat) := do
  match arguments.value? name with
  | none => return none
  | some text =>
    match Numeral.natural? text with
    | some count => return some count
    | none => fail 1 (text ++ ": invalid number of " ++ what)

/-- Writes lines that are the same as their neighbours only once. -/
def uniq : ToolM Unit := do
  let arguments ← readArguments 1 false
    ["c,count", "d,repeated", "D,", ",all-repeated,?", ",group,?", "u,unique", "i,ignore-case",
      "f,skip-fields,:", "s,skip-chars,:", "w,check-chars,:", "z,zero-terminated"]
  match arguments.operands with
  | _ :: _ :: extra :: _ => extraOperand extra
  | _ => pure ()
  let all ←
    if arguments.has "all-repeated" then
      let way ← separationOf "--all-repeated" ((arguments.value? "all-repeated").getD "") repeatedWays .nowhere
      pure (some way)
    else pure (if arguments.has "D" then some .nowhere else none)
  let groups ←
    if arguments.has "group" then
      let way ← separationOf "--group" ((arguments.value? "group").getD "") groupWays .between
      pure (some way)
    else pure none
  let view : Repeated.View := {
    fields := (← countIn arguments "f" "fields to skip").getD 0
    chars := (← countIn arguments "s" "bytes to skip").getD 0
    width := ← countIn arguments "w" "bytes to compare"
    folds := arguments.has "i" }
  let counts := arguments.has "c"
  if groups.isSome && (counts || arguments.has "d" || arguments.has "u" || all.isSome) then
    misuse 1 "--group is mutually exclusive with -c/-d/-D/-u"
  if all.isSome && counts then
    misuse 1 "printing all duplicated lines and repeat counts is meaningless"
  let refuse (path : String) (opened : Bool) (error : SystemError) : ToolM Unit :=
    fail 1 ((if opened then "error reading " ++ Quote.always path else Quote.ifNeeded path) ++ ": " ++ error.text)
  let last := if arguments.has "z" then '\x00' else '\n'
  let lines ← allLines last (arguments.operands.take 1) refuse
  match arguments.operands with
  | [_, output] =>
    match ← ask (.openFile output { write := true, create := true, truncate := true } 0o666) with
    | .ok descriptor => discard (ask (.redirect descriptor 1))
    | .error error => fail 1 (Quote.ifNeeded output ++ ": " ++ error.text)
  | _ => pure ()
  let found := Repeated.group view [] lines
  let shown : List String := match groups, all with
    | some way, _ => Repeated.separated way found
    | none, some way =>
      if arguments.has "u" then []
      else Repeated.separated way (found.filter fun (lines : List String) => 1 < lines.length)
    | none, none =>
      (found.filter fun (lines : List String) =>
        if lines.length = 1 then !arguments.has "d" else !arguments.has "u").map fun (lines : List String) =>
          (if counts then Numeral.padLeft 7 ' ' (toString lines.length) ++ " " else "") ++ lines.headD ""
  for line in shown do
    print (line ++ String.singleton last)

/-! ## Lines of two files -/

/-- Writes lines of two files in three columns: those of one file only, and those of both. -/
def comm : ToolM Unit := do
  let arguments ← readArguments 1 false
    ["1,", "2,", "3,", ",check-order", ",nocheck-order", ",output-delimiter,:", ",total", "z,zero-terminated"]
  match arguments.operands with
  | [] => missingOperand
  | [one] => misuse 1 ("missing operand after " ++ Quote.text one)
  | _ :: _ :: extra :: _ => extraOperand extra
  | [one, other] =>
    let refuse (path : String) (_ : Bool) (error : SystemError) : ToolM Unit :=
      fail 1 (Quote.ifNeeded path ++ ": " ++ error.text)
    let last := if arguments.has "z" then '\x00' else '\n'
    let left ← allLines last [one] refuse
    let right ← allLines last [other] refuse
    let tab := (arguments.value? "output-delimiter").getD "\t"
    let second := if arguments.has "1" then "" else tab
    let third := second ++ (if arguments.has "2" then "" else tab)
    let disordered := (if isOrdered left then [] else ["1"]) ++ (if isOrdered right then [] else ["2"])
    let checks := (left ≠ right || arguments.has "check-order") && !arguments.has "nocheck-order"
    let shows := (!arguments.has "1", !arguments.has "2", !arguments.has "3")
    let rows := merge (left.length + right.length + 1) left right
    for row in rows do
      match row with
      | (some line, none) => if shows.1 then print (line ++ String.singleton last)
      | (none, some line) => if shows.2.1 then print (second ++ line ++ String.singleton last)
      | (some line, some _) => if shows.2.2 then print (third ++ line ++ String.singleton last)
      | (none, none) => pure ()
    if arguments.has "total" then
      let count (test : Option String × Option String → Bool) : String := toString (rows.countP test)
      print (tab.intercalate [
        count fun row => row.2.isNone, count fun row => row.1.isNone,
        count fun row => row.1.isSome && row.2.isSome, "total"] ++ String.singleton last)
    if checks && !disordered.isEmpty then
      flush
      for number in disordered do
        report ("file " ++ number ++ " is not in sorted order")
      fail 1 "input is not in sorted order"
where
  /-- True when no line comes before one that is less. -/
  isOrdered (lines : List String) : Bool :=
    (lines.zip (lines.drop 1)).all fun (one, other) => one ≤ other
  /-- The lines of both files in order, those that are in both side by side. -/
  merge : Nat → List String → List String → List (Option String × Option String)
    | 0, _, _ => []
    | _, [], right => right.map fun line => (none, some line)
    | _, left, [] => left.map fun line => (some line, none)
    | fuel + 1, a :: left, b :: right =>
      if a = b then (some a, some b) :: merge fuel left right
      else if a < b then (some a, none) :: merge fuel left (b :: right)
      else (none, some b) :: merge fuel (a :: left) right

end ToolM

/-! ## Joining lines -/

namespace Joining

/-- A line in its fields. -/
structure Row where
  line : String
  fields : List String
deriving Repr, DecidableEq, Inhabited

/-- What is written of joined lines: the common field, or a field of the first or the second line. -/
inductive Cell where
  | common
  | field (second : Bool) (number : Nat)
deriving Repr, DecidableEq, Inhabited

/-- How lines are joined. -/
structure Plan where
  separator : Option Char := none
  first : Nat := 1
  second : Nat := 1
  folds : Bool := false
  /-- What stands for fields that are missing. -/
  filler : Option String := none
  cells : Option (List Cell) := none
  showsFirst : Bool := false
  showsSecond : Bool := false
  showsPairs : Bool := true

/-- Divides a line into fields. -/
def Plan.row (plan : Plan) (line : String) : Row :=
  let fields := match plan.separator with
    | some c => line.splitOn (String.singleton c)
    | none => ((line.map fun c => if c = '\t' then ' ' else c).splitOn " ").filter fun field => !field.isEmpty
  { line, fields }

def Row.field? (number : Nat) (row : Row) : Option String :=
  if number = 0 then none else row.fields[number - 1]?

/-- What lines are compared by. -/
def Plan.key (plan : Plan) (second : Bool) (row : Row) : String :=
  let text := (row.field? (if second then plan.second else plan.first)).getD ""
  if plan.folds then text.map Char.toUpper else text

/-- The line that is written for two lines, one of which may be missing. -/
def Plan.joined (plan : Plan) (one other : Option Row) : String :=
  let separator := String.singleton (plan.separator.getD ' ')
  let blank := plan.filler.getD ""
  let shown (text : Option String) : String :=
    match text with
    | some text => if text.isEmpty then blank else text
    | none => blank
  let own (second : Bool) : Option Row := if second then other else one
  let common := match one, other with
    | some row, _ => row.field? plan.first
    | none, some row => row.field? plan.second
    | none, none => none
  match plan.cells with
  | some cells =>
    separator.intercalate (cells.map fun cell =>
      match cell with
      | .common => shown common
      | .field second number => shown ((own second).bind (Row.field? number)))
  | none =>
    let rest (number : Nat) (row : Option Row) : List String :=
      match row with
      | none => []
      | some row => (row.fields.eraseIdx (number - 1)).map fun text => shown (some text)
    separator.intercalate (shown common :: (rest plan.first one ++ rest plan.second other))

/-- The cells that are as many as the fields of two lines. -/
def Plan.cellsOf (plan : Plan) (one other : Option Row) : List Cell :=
  let own (second : Bool) (number : Nat) (row : Option Row) : List Cell :=
    let numbers := (List.range ((row.map fun row => row.fields.length).getD 0)).map (· + 1)
    (numbers.filter (· ≠ number)).map fun place => .field second place
  .common :: (own false plan.first one ++ own true plan.second other)

/-- Lines that have been joined, and which of them were alone. -/
structure Result where
  lines : List String := []
  unpaired : Bool := false

/-- Joins lines that are in order. -/
def Plan.run (plan : Plan) : Nat → List Row → List Row → Result → Result
  | 0, _, _, result => result
  | _, [], [], result => result
  | fuel + 1, one :: left, [], result =>
    let lines := if plan.showsFirst then plan.joined (some one) none :: result.lines else result.lines
    plan.run fuel left [] { lines, unpaired := true }
  | fuel + 1, [], other :: right, result =>
    let lines := if plan.showsSecond then plan.joined none (some other) :: result.lines else result.lines
    plan.run fuel [] right { lines, unpaired := true }
  | fuel + 1, one :: left, other :: right, result =>
    let a := plan.key false one
    let b := plan.key true other
    if a < b then
      let lines := if plan.showsFirst then plan.joined (some one) none :: result.lines else result.lines
      plan.run fuel left (other :: right) { lines, unpaired := true }
    else if b < a then
      let lines := if plan.showsSecond then plan.joined none (some other) :: result.lines else result.lines
      plan.run fuel (one :: left) right { lines, unpaired := true }
    else
      let (ones, left) := (one :: left).span fun row => plan.key false row = a
      let (others, right) := (other :: right).span fun row => plan.key true row = a
      let pairs := ones.flatMap fun one => others.map fun other => plan.joined (some one) (some other)
      plan.run fuel left right
        { result with lines := (if plan.showsPairs then pairs.reverse else []) ++ result.lines }

/-- The number and the text of the first line that comes too late. -/
def Plan.disorder? (plan : Plan) (second : Bool) : Nat → List Row → Option (Nat × String)
  | number, one :: other :: rest =>
    if plan.key second other < plan.key second one then some (number + 1, other.line)
    else plan.disorder? second (number + 1) (other :: rest)
  | _, _ => none

def readCells (text : String) : Except String (List Cell) :=
  let parts := ((text.map fun c => if c = ',' || c = '\t' then ' ' else c).splitOn " ").filter fun part =>
    !part.isEmpty
  parts.mapM fun part =>
    match part.splitOn "." with
    | ["0"] => .ok .common
    | [file, number] =>
      if file ≠ "1" && file ≠ "2" then .error ("invalid file number in field spec: " ++ Quote.text part)
      else
        match Numeral.natural? number with
        | some 0 | none => .error ("invalid field number: " ++ Quote.text number)
        | some value => .ok (.field (file = "2") value)
    | _ =>
      if part.startsWith "0" || part.startsWith "1" || part.startsWith "2" then
        .error ("invalid field specifier: " ++ Quote.text part)
      else .error ("invalid file number in field spec: " ++ Quote.text part)

end Joining

namespace ToolM

/-- Joins lines of two files that have a field in common. -/
def join : ToolM Unit := do
  let arguments ← readArguments 1 false
    ["a,,:", "e,,:", "i,ignore-case", "j,,:", "o,,:", "t,,:", "v,,:", "1,,:", "2,,:", ",check-order",
      ",nocheck-order", ",header", "z,zero-terminated"]
  let field (name : String) : ToolM (Option Nat) := do
    match arguments.value? name with
    | none => return none
    | some text =>
      match Numeral.natural? text with
      | some 0 | none => fail 1 ("invalid field number: " ++ Quote.text text)
      | some value => return some value
  let both ← field "j"
  let files := arguments.values "a" ++ arguments.values "v"
  for file in files do
    if file ≠ "1" && file ≠ "2" then fail 1 ("invalid field number: " ++ Quote.text file)
  let separator ← match arguments.value? "t" with
    | none => pure none
    | some "\\0" => pure (some '\x00')
    | some text =>
      match text.toList with
      | [c] => pure (some c)
      | [] => pure (some '\n')
      | _ => fail 1 ("multi-character tab " ++ Quote.text text)
  let last := if arguments.has "z" then '\x00' else '\n'
  match arguments.operands with
  | [] => missingOperand
  | [one] => misuse 1 ("missing operand after " ++ Quote.text one)
  | _ :: _ :: extra :: _ => extraOperand extra
  | [one, other] =>
    let refuse (path : String) (_ : Bool) (error : SystemError) : ToolM Unit :=
      fail 1 (Quote.ifNeeded path ++ ": " ++ error.text)
    let left ← allLines last [one] refuse
    let right ← allLines last [other] refuse
    let base : Joining.Plan := {
      separator
      first := ((← field "1").orElse fun _ => both).getD 1
      second := ((← field "2").orElse fun _ => both).getD 1
      folds := arguments.has "i"
      filler := arguments.value? "e"
      showsFirst := files.contains "1", showsSecond := files.contains "2"
      showsPairs := !arguments.has "v" }
    let left := left.map base.row
    let right := right.map base.row
    let cells ← match arguments.value? "o" with
      | none => pure none
      | some "auto" => pure (some (base.cellsOf left.head? right.head?))
      | some text =>
        match Joining.readCells text with
        | .ok cells => pure (some cells)
        | .error fault => fail 1 fault
    let plan := { base with cells }
    let (heads, left, right) := if arguments.has "header" then
        (if left.isEmpty && right.isEmpty then [] else [plan.joined left.head? right.head?],
          left.drop 1, right.drop 1)
      else ([], left, right)
    let result := plan.run (left.length + right.length + 1) left right {}
    for line in heads ++ result.lines.reverse do
      print (line ++ String.singleton last)
    let offset := if arguments.has "header" then 2 else 1
    let late := (plan.disorder? false offset left).map (one, ·)
    let late' := (plan.disorder? true offset right).map (other, ·)
    let checks := arguments.has "check-order" || (result.unpaired && !arguments.has "nocheck-order")
    if checks then
      flush
      let mut failed := false
      for (path, number, line) in late.toList ++ late'.toList do
        report (Quote.ifNeeded path ++ ":" ++ toString number ++ ": is not sorted: " ++ line)
        if arguments.has "check-order" then abort 1
        failed := true
      if failed then fail 1 "input is not in sorted order"
end ToolM

/-! ## Putting in order -/

namespace Precedence

/-- An item, how many items have to come before it, and which come after it. -/
structure Item where
  name : String
  before : Nat := 0
  /-- The one that was named last comes first. -/
  after : List String := []
  done : Bool := false
  /-- The item that comes after this one on a way round. -/
  link : Option String := none

/-- The items in the order of their names. -/
abbrev Items := List Item

def Items.find? (name : String) (items : Items) : Option Item :=
  List.find? (fun item => item.name = name) items

def Items.change (name : String) (change : Item → Item) (items : Items) : Items :=
  items.map fun item => if item.name = name then change item else item

def Items.insert (name : String) (items : Items) : Items :=
  if (items.find? name).isSome then items
  else
    let (smaller, larger) := items.span fun item => item.name < name
    smaller ++ { name } :: larger

/-- Reads pairs, of which the first comes before the second. -/
def readPairs : List String → Items → Items
  | one :: other :: rest, items =>
    let items := (items.insert one).insert other
    let items := if one = other then items
      else
        (items.change one fun item => { item with after := other :: item.after }).change other
          fun item => { item with before := item.before + 1 }
    readPairs rest items
  | _, items => items

/-- Puts items in order that can be, beginning with those that wait in a queue. -/
def drain : Nat → List String → Items → List String × Items
  | 0, _, items => ([], items)
  | _, [], items => ([], items)
  | fuel + 1, name :: queue, items =>
    let after := ((items.find? name).map Item.after).getD []
    let items := items.change name fun item => { item with done := true, after := [] }
    let (items, ready) := after.foldl
      (fun (items, ready) other =>
        let items := Items.change other (fun item => { item with before := item.before - 1 }) items
        let isReady := (items.find? other).any fun item => item.before = 0
        (items, if isReady then ready ++ [other] else ready))
      (items, ([] : List String))
    let (names, items) := drain fuel (queue ++ ready) items
    (name :: names, items)

/-- The items on the way that leads from one item on, as far as another one. -/
def wayTo (items : Items) (stop : String) : Nat → String → List String
  | 0, _ => []
  | fuel + 1, name =>
    if name = stop then [name]
    else
      match (items.find? name).bind Item.link with
      | some next => name :: wayTo items stop fuel next
      | none => [name]

/-- Takes a step of the search for a way round: looks whether an item comes before the last one that was found. -/
def lookBack (item : Item) (last : Option String) (items : Items) :
    Option String × Items × Option (List String) :=
  let item := (items.find? item.name).getD item
  if item.before = 0 then (last, items, none)
  else
    match last with
    | none => (some item.name, items, none)
    | some name =>
      if !item.after.contains name then (last, items, none)
      else if item.link.isSome then
        let way := wayTo items item.name (items.length + 1) name
        let items := items.change name fun other => { other with before := other.before - 1 }
        let items := items.change item.name fun own => { own with after := own.after.erase name }
        (none, items.map fun item => { item with link := none }, some way)
      else (some item.name, items.change item.name fun own => { own with link := some name }, none)

/-- Looks at items one after another for a way round. -/
def searchRound (last : Option String) (items : Items) : List Item → Option String × Items × Option (List String)
  | [] => (last, items, none)
  | item :: rest =>
    match lookBack item last items with
    | (last, items, some way) => (last, items, some way)
    | (last, items, none) => searchRound last items rest

/-- Looks for a way round as often as it takes, and breaks it. -/
def breakRound : Nat → Option String → Items → List String × Items
  | 0, _, items => ([], items)
  | fuel + 1, last, items =>
    match searchRound last items items with
    | (_, items, some way) => (way, items)
    | (none, items, none) => ([], items)
    | (last, items, none) => breakRound fuel last items

/-- A part of an order: items, or a way round that had to be broken. -/
inductive Part where
  | names (names : List String)
  | round (names : List String)

/-- Puts items in an order in which each comes after those that have to come before it. -/
def order : Nat → Items → List Part
  | 0, _ => []
  | fuel + 1, items =>
    let ready := (items.filter fun item => item.before = 0 && !item.done).map Item.name
    let (names, items) := drain (items.length + 1) ready items
    if items.all Item.done then [.names names]
    else
      let (way, items) := breakRound (items.length * items.length + 1) none items
      .names names :: .round way :: order fuel items

end Precedence

namespace ToolM

/-- Writes items in an order that pairs of them call for. -/
def tsort : ToolM Unit := do
  let arguments ← readArguments 1 false []
  let path ← match arguments.operands with
    | [] => pure "-"
    | [path] => pure path
    | _ :: extra :: _ => extraOperand extra
  match ← openInput path with
  | .error error => fail 1 (Quote.ifNeeded path ++ ": " ++ error.text)
  | .ok descriptor =>
    let (text, error) ← readAll descriptor
    match error with
    | some error => fail 1 (Quote.ifNeeded path ++ ": read error: " ++ error.text)
    | none => pure ()
    let words := ((text.map fun c => if c = '\n' || c = '\t' then ' ' else c).splitOn " ").filter fun word =>
      !word.isEmpty
    if words.length % 2 = 1 then
      fail 1 (Quote.ifNeeded path ++ ": input contains an odd number of tokens")
    let items := Precedence.readPairs words []
    for part in Precedence.order (words.length + 1) items do
      match part with
      | .names names => print (String.join (names.map (· ++ "\n")))
      | .round names =>
        flush
        complain (Quote.ifNeeded path ++ ": input contains a loop:")
        names.forM report

end ToolM

end Shell.Machine
