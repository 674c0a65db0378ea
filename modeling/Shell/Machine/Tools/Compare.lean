import Shell.Machine.Regex.Read
import Shell.Machine.Tools.Files
import Shell.Machine.Tools.Lines
import Shell.Machine.Utility.Difference
import Shell.Machine.Script.Pattern
import Std.Data.HashMap

/-! # What files do not have in common

`diff` compares files line by line, and directories file by file. Changes are shown in one of several forms, from
which either file can be made from the other one.
-/

namespace Shell.Machine

namespace Compare

/-- How blanks count when lines are compared. -/
inductive Blanks where
  | exact
  /-- Tabs are as good as the blanks that they stand for. -/
  | tabs
  /-- Blanks at the end do not count. -/
  | trailing
  /-- One blank is as good as several. -/
  | amount
  | none
deriving Repr, DecidableEq, Inhabited

/-- How changes are shown. -/
inductive Form where
  | plain
  /-- Both versions of the lines of a change and so many lines around them, in one piece. -/
  | unified (context : Nat)
  /-- The same in two pieces. -/
  | context (context : Nat)
  /-- Commands for an editor, of which the last ones come first. -/
  | commands
  /-- The same, in the order of the lines. -/
  | forward
  /-- Commands that count lines. -/
  | counted
  /-- Both files side by side. -/
  | columns
  /-- One file with both versions. -/
  | merged
deriving Repr, DecidableEq, Inhabited

/-- How many lines around changes are shown. -/
def Form.around : Form → Nat
  | .unified count | .context count => count
  | _ => 0

/-- The texts for lines and groups of lines in a merged file. -/
structure MergeFormat where
  old : String
  new : String
  changed : String
  unchanged : String
  oldLine : String
  newLine : String
  unchangedLine : String
deriving Repr, Inhabited

/-- What is to be compared and how. -/
structure Plan where
  form : Form
  brief : Bool
  tellsSame : Bool
  recursive : Bool
  /-- Whether files that are not there count as empty. -/
  absent : Bool
  /-- The same, but only for the first file. -/
  firstAbsent : Bool
  blanks : Blanks
  anyCase : Bool
  skipsEmpty : Bool
  skipped : List Regex
  text : Bool
  dropsReturns : Bool
  labels : List String
  /-- Which lines tell where one is. -/
  headings : List Regex
  width : Nat
  expands : Bool
  leftOnly : Bool
  changedOnly : Bool
  tab : Bool
  colored : Bool
  excluded : List String
  /-- The options as they were given. -/
  options : String
  merge : MergeFormat

/-- A file that is compared. -/
structure Side where
  name : String
  /-- What the file is called in the output. -/
  title : String
  lines : Array String
  /-- Whether the last line has an end. -/
  isEnded : Bool
  time : Nat
deriving Inhabited

/-- A line without what does not count. -/
def Plan.key (plan : Plan) (line : String) : String :=
  let isBlank (c : Char) : Bool := Numeral.isBlank c
  let chars := line.toList
  let trimmed (chars : List Char) : List Char := (chars.reverse.dropWhile isBlank).reverse
  let chars := match plan.blanks with
    | .exact => chars
    | .tabs => expandTabs 0 chars
    | .trailing => trimmed chars
    | .amount => squeeze (trimmed chars)
    | .none => chars.filter (!isBlank ·)
  let text := String.ofList chars
  if plan.anyCase then text.toLower else text
where
  /-- Tabs as blanks, from a column on. -/
  expandTabs : Nat → List Char → List Char
    | _, [] => []
    | column, '\t' :: rest => List.replicate (8 - column % 8) ' ' ++ expandTabs (column + 8 - column % 8) rest
    | column, c :: rest => c :: expandTabs (column + 1) rest
  /-- Several blanks as one. -/
  squeeze (chars : List Char) : List Char :=
    (chars.foldl
      (fun (sofar, afterBlank) c =>
        if Numeral.isBlank c then (if afterBlank then sofar else ' ' :: sofar, true) else (c :: sofar, false))
      (([] : List Char), false)).1.reverse

/-- Numbers for the lines of two files; the same number for lines that are the same. -/
def Plan.classes (plan : Plan) (first second : Side) : Difference.Pair :=
  let endCounts := (plan.blanks = .exact || plan.blanks = .tabs) && plan.form ≠ .commands && plan.form ≠ .forward
  let keys (side : Side) : Array String := side.lines.zipIdx.map fun (line, place) =>
    plan.key line ++ (if endCounts && !side.isEnded && place + 1 = side.lines.size then "" else "\n")
  let number (found : Std.HashMap String Nat × Array Nat) (key : String) : Std.HashMap String Nat × Array Nat :=
    match found.1[key]? with
    | some class_ => (found.1, found.2.push class_)
    | none => (found.1.insert key (found.1.size + 1), found.2.push (found.1.size + 1))
  let (known, left) := (keys first).foldl number ({}, #[])
  let (_, right) := (keys second).foldl number (known, #[])
  ⟨left, right⟩

/-- True when a line does not make a change worth showing. -/
def Plan.isTrivial (plan : Plan) (line : String) : Bool :=
  (plan.skipsEmpty &&
    (if plan.blanks = .exact || plan.blanks = .tabs then line.isEmpty else line.toList.all Numeral.isBlank)) ||
    plan.skipped.any fun regex => (Regex.find? { text := line.toList.toArray } [regex] 0).isSome

/-- True when a change is worth showing. -/
def Plan.matters (plan : Plan) (first second : Side) (change : Change) : Bool :=
  (!plan.skipsEmpty && plan.skipped.isEmpty) ||
    !((first.lines.extract change.start (change.start + change.deleted)).all plan.isTrivial &&
      (second.lines.extract change.otherStart (change.otherStart + change.inserted)).all plan.isTrivial)

/-- Groups changes that are not far from one another. -/
def Plan.groups (plan : Plan) (matters : Change → Bool) : Nat → List Change → List (List Change)
  | 0, _ => []
  | _, [] => []
  | fuel + 1, change :: rest =>
    let context := plan.form.around
    let rec take : Change → List Change → List Change × List Change
      | _, [] => ([], [])
      | last, next :: more =>
        let limit := if matters last && matters next then 2 * context + 1 else context
        if next.start - (last.start + last.deleted) < limit then
          let (taken, rest) := take next more
          (next :: taken, rest)
        else ([], next :: more)
    let (taken, rest) := take change rest
    (change :: taken) :: plan.groups matters fuel rest

/-- The first and the last of some lines, as they are told: one number if they are the same or if there is none. -/
def range (start count : Nat) : String :=
  if count ≤ 1 then toString (start + count) else toString (start + 1) ++ "," ++ toString (start + count)

def Plan.colored? (plan : Plan) (color text : String) : String :=
  if plan.colored then "\x1b[" ++ color ++ "m" ++ text ++ "\x1b[0m" else text

/-- A line of a file after a mark. One that has no end is told to have none. -/
def Plan.line (plan : Plan) (side : Side) (color mark : String) (place : Nat) : String :=
  let isEnded := side.isEnded || place + 1 < side.lines.size
  let text := mark ++ side.lines.getD place ""
  (if color.isEmpty then text else plan.colored? color text) ++ "\n" ++
    (if isEnded then "" else "\\ No newline at end of file\n")

/-- Lines of a file after a mark. -/
def Plan.lines (plan : Plan) (side : Side) (color mark : String) (start count : Nat) : String :=
  String.join ((List.range' start count).map (plan.line side color mark))

/-- The color of lines that are only in the first file. -/
def oldColor : String := "31"

/-- The color of lines that are only in the second file. -/
def newColor : String := "32"

def letter (change : Change) : String :=
  if change.inserted = 0 then "d" else if change.deleted = 0 then "a" else "c"

def Plan.plainChange (plan : Plan) (first second : Side) (change : Change) : String :=
  let gap := if plan.tab then "\t" else " "
  plan.colored? "36"
    (range change.start change.deleted ++ letter change ++ range change.otherStart change.inserted) ++ "\n" ++
    plan.lines first oldColor ("<" ++ gap) change.start change.deleted ++
    (if change.deleted ≠ 0 && change.inserted ≠ 0 then "---\n" else "") ++
    plan.lines second newColor (">" ++ gap) change.otherStart change.inserted

/-- Lines around a group of changes: where they begin and end in both files. -/
def Plan.span (plan : Plan) (first second : Side) (group : List Change) : Nat × Nat × Nat × Nat :=
  let context := plan.form.around
  let head := group.headD default
  let last := group.getLast?.getD default
  (head.start - context, min first.lines.size (last.start + last.deleted + context),
    head.otherStart - context, min second.lines.size (last.otherStart + last.inserted + context))

/-- The line before a place that tells where one is. -/
def Plan.heading (plan : Plan) (side : Side) (place : Nat) : String :=
  if plan.headings.isEmpty then ""
  else
    let lines := (side.lines.extract 0 place).toList.reverse
    match lines.find? fun line => plan.headings.any fun regex =>
        (Regex.find? { text := line.toList.toArray } [regex] 0).isSome with
    | none => ""
    | some line =>
      let chars := (line.toList.dropWhile Numeral.isBlank).take 40
      " " ++ String.ofList (chars.reverse.dropWhile Numeral.isBlank).reverse

/-- The lines of a group in one piece, from two places on. -/
def Plan.unifiedLines (plan : Plan) (first second : Side) (finish : Nat) : Nat → List Change → List String
  | place, [] => [plan.lines first "" (if plan.tab then "\t" else " ") place (finish - place)]
  | place, change :: rest =>
    let gap := if plan.tab then "\t" else ""
    plan.lines first "" (if plan.tab then "\t" else " ") place (change.start - place) ::
      plan.lines first oldColor ("-" ++ gap) change.start change.deleted ::
      plan.lines second newColor ("+" ++ gap) change.otherStart change.inserted ::
      plan.unifiedLines first second finish (change.start + change.deleted) rest

def Plan.unifiedGroup (plan : Plan) (first second : Side) (group : List Change) : String :=
  let (low, high, otherLow, otherHigh) := plan.span first second group
  let told (low high : Nat) : String :=
    if high = low then toString low ++ ",0"
    else if high = low + 1 then toString high
    else toString (low + 1) ++ "," ++ toString (high - low)
  plan.colored? "36" ("@@ -" ++ told low high ++ " +" ++ told otherLow otherHigh ++ " @@") ++
    plan.heading first low ++ "\n" ++
    String.join (plan.unifiedLines first second high low group)

/-- The lines of one file in a group: those that are changed have a mark. -/
def Plan.contextLines (plan : Plan) (side : Side) (color : String) (finish : Nat) :
    Nat → List (Nat × Nat × String) → List String
  | place, [] => [plan.lines side "" (gap plan " ") place (finish - place)]
  | place, (start, count, mark) :: rest =>
    plan.lines side "" (gap plan " ") place (start - place) ::
      plan.lines side color (gap plan mark) start count :: plan.contextLines side color finish (start + count) rest
where
  /-- A mark and what separates it from the line. -/
  gap (plan : Plan) (mark : String) : String := mark ++ (if plan.tab then "\t" else " ")

def Plan.contextGroup (plan : Plan) (first second : Side) (group : List Change) : String :=
  let (low, high, otherLow, otherHigh) := plan.span first second group
  let told (low high : Nat) : String :=
    if high ≤ low + 1 then toString high else toString (low + 1) ++ "," ++ toString high
  let old := if group.all fun change => change.deleted = 0 then ""
    else String.join (plan.contextLines first oldColor high low (group.map fun change =>
      (change.start, change.deleted, if change.inserted = 0 then "-" else "!")))
  let new := if group.all fun change => change.inserted = 0 then ""
    else String.join (plan.contextLines second newColor otherHigh otherLow (group.map fun change =>
      (change.otherStart, change.inserted, if change.deleted = 0 then "+" else "!")))
  "***************" ++ plan.heading first low ++ "\n" ++
    plan.colored? "36" ("*** " ++ told low high ++ " ****") ++ "\n" ++
    old ++ plan.colored? "36" ("--- " ++ told otherLow otherHigh ++ " ----") ++ "\n" ++ new

/-- Lines that an editor takes in. One that would end that is written in another way. -/
def insertedLines : List String → Bool → String
  | [], isOpen => if isOpen then ".\n" else ""
  | line :: rest, isOpen =>
    (if isOpen then "" else "a\n") ++
      (if line = "." then "..\n.\ns/.//\n" ++ insertedLines rest false else line ++ "\n" ++ insertedLines rest true)

def commandChange (second : Side) (change : Change) : String :=
  range change.start change.deleted ++ letter change ++ "\n" ++
    (if change.inserted = 0 then "" else
      insertedLines (second.lines.extract change.otherStart (change.otherStart + change.inserted)).toList true)

/-- A change as a command that comes before its lines. -/
def forwardChange (second : Side) (change : Change) : String :=
  let place := if change.deleted ≤ 1 then toString (change.start + change.deleted)
    else toString (change.start + 1) ++ " " ++ toString (change.start + change.deleted)
  letter change ++ place ++ "\n" ++
    (if change.inserted = 0 then "" else
      String.join
        ((second.lines.extract change.otherStart (change.otherStart + change.inserted)).toList.map (· ++ "\n")) ++
        ".\n")

def countedChange (second : Side) (change : Change) : String :=
  let removed := if change.deleted = 0 then ""
    else "d" ++ toString (change.start + 1) ++ " " ++ toString change.deleted ++ "\n"
  let lines := (List.range' change.otherStart change.inserted).map fun place =>
    second.lines.getD place "" ++ (if second.isEnded || place + 1 < second.lines.size then "\n" else "")
  removed ++ (if change.inserted = 0 then ""
    else
      "a" ++ toString (change.start + change.deleted) ++ " " ++ toString change.inserted ++ "\n" ++
        String.join lines)

/-! ## Side by side -/

/-- The places of the columns: how wide they are, and where the second one begins. -/
def Plan.columns (plan : Plan) : Nat × Nat :=
  let step := if plan.expands then 1 else 8
  let offset := (plan.width + step + 3) / (2 * step) * step
  let half := min (offset - 3) (plan.width - offset)
  (half, if half = 0 then plan.width else offset)

/-- Goes from one column to another. -/
def Plan.advance (plan : Plan) (start finish : Nat) : String :=
  let rec go : Nat → Nat → String
    | 0, _ => ""
    | fuel + 1, place =>
      let next := place + 8 - place % 8
      if !plan.expands && next ≤ finish then "\t" ++ go fuel next else "".pushn ' ' (finish - place)
  go (finish + 1) start

/-- What fits of a line into a column, and where it ends. -/
def Plan.half (plan : Plan) (bound : Nat) : Nat → Nat → List Char → String × Nat
  | _, shown, [] => ("", shown)
  | place, shown, '\t' :: rest =>
    let spaces := 8 - place % 8
    if place = shown then
      let stop := shown + spaces
      if plan.expands then
        let stop := min stop bound
        let (text, finish) := plan.half bound (place + spaces) (max shown stop) rest
        ("".pushn ' ' (stop - shown) ++ text, finish)
      else if stop < bound then
        let (text, finish) := plan.half bound (place + spaces) stop rest
        ("\t" ++ text, finish)
      else plan.half bound (place + spaces) shown rest
    else plan.half bound (place + spaces) shown rest
  | place, shown, c :: rest =>
    if ' ' ≤ c && c ≤ '~' then
      if place + 1 ≤ bound then
        let (text, finish) := plan.half bound (place + 1) (place + 1) rest
        (String.singleton c ++ text, finish)
      else plan.half bound (place + 1) shown rest
    else if place < bound then
      let (text, finish) := plan.half bound place shown rest
      (String.singleton c ++ text, finish)
    else plan.half bound place shown rest

/-- A line of one file, of the other or of both, with a mark between them. -/
def Plan.beside (plan : Plan) (left : Option (String × Bool)) (mark : Char) (right : Option (String × Bool)) :
    String :=
  let (half, offset) := plan.columns
  let (leftText, column) := match left with
    | some (line, _) => plan.half half 0 0 line.toList
    | none => ("", 0)
  let leftEnded := left.any (·.2)
  let mark := match mark, right with
    | '|', some (_, rightEnded) => if leftEnded == rightEnded then '|' else if leftEnded then '/' else '\\'
    | mark, _ => mark
  let middle := (half + offset - 1) / 2
  let (markText, column) :=
    if mark = ' ' then ("", column) else (plan.advance column middle ++ String.singleton mark, middle + 1)
  let rightText := match right with
    | some (line, _) =>
      if line.isEmpty then "" else plan.advance column offset ++ (plan.half half 0 0 line.toList).1
    | none => ""
  leftText ++ markText ++ rightText ++ (if leftEnded || right.any (·.2) then "\n" else "")

/-- A line and whether it has an end. -/
def Side.lineAt (side : Side) (place : Nat) : String × Bool :=
  (side.lines.getD place "", side.isEnded || place + 1 < side.lines.size)

/-- Lines that both files have. -/
def Plan.besideSame (plan : Plan) (first second : Side) (place other count : Nat) : String :=
  if plan.changedOnly then ""
  else String.join ((List.range count).map fun step =>
    if plan.leftOnly then plan.beside (some (first.lineAt (place + step))) '(' none
    else plan.beside (some (first.lineAt (place + step))) ' ' (some (second.lineAt (other + step))))

/-- Both files side by side, from two places on. -/
def Plan.besideAll (plan : Plan) (first second : Side) : Nat → Nat → List Change → List String
  | place, other, [] => [plan.besideSame first second place other (first.lines.size - place)]
  | place, other, change :: rest =>
    let both := min change.deleted change.inserted
    let same := plan.besideSame first second place other (change.start - place)
    let changed := (List.range both).map fun step =>
      plan.beside (some (first.lineAt (change.start + step))) '|' (some (second.lineAt (change.otherStart + step)))
    let inserted := (List.range' both (change.inserted - both)).map fun step =>
      plan.beside none '>' (some (second.lineAt (change.otherStart + step)))
    let deleted := (List.range' both (change.deleted - both)).map fun step =>
      plan.beside (some (first.lineAt (change.start + step))) '<' none
    same :: changed ++ inserted ++ deleted ++
      plan.besideAll first second (change.start + change.deleted) (change.otherStart + change.inserted) rest

/-! ## Merged -/

/-- A number as a format asks for. -/
def formatted (kind : Char) (value : Nat) : String :=
  match kind with
  | 'o' => Numeral.inBase 8 value
  | 'x' => Numeral.inBase 16 value
  | 'X' => (Numeral.inBase 16 value).toUpper
  | _ => toString value

/-- A line as a format asks for. -/
def lineText (number : Nat) (line : String × Bool) : List Char → String
  | '%' :: 'L' :: rest => line.1 ++ (if line.2 then "\n" else "") ++ lineText number line rest
  | '%' :: 'l' :: rest => line.1 ++ lineText number line rest
  | '%' :: '%' :: rest => "%" ++ lineText number line rest
  | '%' :: 'c' :: '\'' :: c :: '\'' :: rest => String.singleton c ++ lineText number line rest
  | '%' :: kind :: 'n' :: rest => formatted kind (number + 1) ++ lineText number line rest
  | c :: rest => String.singleton c ++ lineText number line rest
  | [] => ""

def linesText (side : Side) (format : String) (start count : Nat) : String :=
  String.join ((List.range' start count).map fun place => lineText place (side.lineAt place) format.toList)

/-- The number that a letter stands for in the format of a group. -/
def groupNumber? (change : Change) (letter : Char) : Option Nat :=
  let (start, count) := if letter.isUpper then (change.otherStart, change.inserted) else (change.start, change.deleted)
  match letter.toLower with
  | 'f' => some (start + 1)
  | 'l' => some (start + count)
  | 'n' => some count
  | 'e' => some start
  | 'm' => some (start + count + 1)
  | _ => none

def groupText (merge : MergeFormat) (first second : Side) (change : Change) : List Char → String
  | '%' :: '<' :: rest =>
    linesText first merge.oldLine change.start change.deleted ++ groupText merge first second change rest
  | '%' :: '>' :: rest =>
    linesText second merge.newLine change.otherStart change.inserted ++ groupText merge first second change rest
  | '%' :: '=' :: rest =>
    linesText first merge.unchangedLine change.start change.deleted ++ groupText merge first second change rest
  | '%' :: '%' :: rest => "%" ++ groupText merge first second change rest
  | '%' :: 'c' :: '\'' :: c :: '\'' :: rest => String.singleton c ++ groupText merge first second change rest
  | '%' :: kind :: letter :: rest =>
    ((groupNumber? change letter).map (formatted kind)).getD "" ++ groupText merge first second change rest
  | c :: rest => String.singleton c ++ groupText merge first second change rest
  | [] => ""

/-- Both files as one, from two places on. -/
def mergeAll (merge : MergeFormat) (first second : Side) : Nat → Nat → List Change → List String
  | place, other, changes =>
    let same (count : Nat) : String :=
      if count = 0 then "" else groupText merge first second ⟨place, count, other, count⟩ merge.unchanged.toList
    match changes with
    | [] => [same (first.lines.size - place)]
    | change :: rest =>
      let format := if change.inserted = 0 then merge.old else if change.deleted = 0 then merge.new else merge.changed
      same (change.start - place) :: groupText merge first second change format.toList ::
        mergeAll merge first second (change.start + change.deleted) (change.otherStart + change.inserted) rest

/-! ## All changes -/

/-- The lines that name both files. -/
def Plan.titles (plan : Plan) (first second : Side) : String :=
  let time (side : Side) (format : String) : String :=
    if plan.labels.isEmpty || side.title = side.name then
      "\t" ++ Calendar.format format (ToolM.momentOf side.time) else ""
  match plan.form with
  | .unified _ =>
    let format := "%Y-%m-%d %H:%M:%S.%N %z"
    plan.colored? "1" ("--- " ++ first.title ++ time first format) ++ "\n" ++
      plan.colored? "1" ("+++ " ++ second.title ++ time second format) ++ "\n"
  | .context _ =>
    let format := "%a %b %e %H:%M:%S %Y"
    plan.colored? "1" ("*** " ++ first.title ++ time first format) ++ "\n" ++
      plan.colored? "1" ("--- " ++ second.title ++ time second format) ++ "\n"
  | _ => ""

/-- All changes in the form that is asked for. -/
def Plan.show (plan : Plan) (first second : Side) (changes : List Change) : String :=
  let matters := plan.matters first second
  let each (form : Change → String) : String := String.join ((changes.filter matters).map form)
  let groups : List (List Change) :=
    (plan.groups matters (changes.length + 1) changes).filter fun group => group.any matters
  match plan.form with
  | .plain => each (plan.plainChange first second)
  | .unified _ => plan.titles first second ++ String.join (groups.map (plan.unifiedGroup first second))
  | .context _ => plan.titles first second ++ String.join (groups.map (plan.contextGroup first second))
  | .commands => String.join ((changes.filter matters).reverse.map (commandChange second))
  | .forward => each (forwardChange second)
  | .counted => each (countedChange second)
  | .columns => String.join (plan.besideAll first second 0 0 changes)
  | .merged => String.join (mergeAll plan.merge first second 0 0 changes)

end Compare

namespace ToolM

open Compare

/-- Notes how a comparison went: the worst counts. -/
def noteStatus (code : Nat) : ToolM Unit :=
  modify fun tool => { tool with status := max tool.status code }

def trouble (text : String) : ToolM Unit := do
  flush
  report text
  noteStatus 2

/-- What is in a file that may be absent. -/
def contentOf (path : String) (exists_ : Bool) : ToolM (Option String) := do
  if !exists_ then return some ""
  match ← openInput path with
  | .error error =>
    trouble (path ++ ": " ++ error.text)
    return none
  | .ok descriptor =>
    let (text, error) ← readAll descriptor
    closeInput descriptor
    match error with
    | some error =>
      trouble (path ++ ": " ++ error.text)
      return none
    | none => return some text

/-- A file that is compared, by what is in it. -/
def sideOf (plan : Plan) (name title text : String) (time : Nat) : Side :=
  let lines := linesOf text
  let lines := if plan.dropsReturns then lines.map (withoutEnd '\r') else lines
  { name, title, lines := lines.toArray, isEnded := text.isEmpty || text.endsWith "\n", time }

/-- Compares what is in two files. -/
def compareTexts (plan : Plan) (nested : Bool) (name other text otherText : String) (time otherTime : Nat) :
    ToolM Unit := do
  let title := plan.labels.headD name
  let otherTitle := (plan.labels[1]?).getD other
  let isBinary := !plan.text && ((text.take 4096).contains '\x00' || (otherText.take 4096).contains '\x00')
  if isBinary then
    if text = otherText then
      if plan.tellsSame then print ("Files " ++ title ++ " and " ++ otherTitle ++ " are identical\n")
    else
      print ((if plan.brief then "Files " else "Binary files ") ++ title ++ " and " ++ otherTitle ++ " differ\n")
      noteStatus 1
    return
  let first := sideOf plan name title text time
  let second := sideOf plan other otherTitle otherText otherTime
  let exact := { plan with blanks := .exact, anyCase := false }.classes first second
  let changes := if text = otherText then [] else Difference.changes plan.form.around exact (plan.classes first second)
  let isSame := !changes.any (plan.matters first second)
  if !plan.brief && (plan.form = .commands || plan.form = .forward) then
    print (plan.show first second changes)
    if !isSame then noteStatus 1
    for side in [first, second] do
      if !side.isEnded then trouble (side.title ++ ": No newline at end of file\n")
    return
  if isSame && plan.tellsSame then
    if plan.form = .columns || plan.form = .merged then print (plan.show first second changes)
    print ("Files " ++ title ++ " and " ++ otherTitle ++ " are identical\n")
    return
  if plan.brief then
    if !isSame then
      print ("Files " ++ title ++ " and " ++ otherTitle ++ " differ\n")
      noteStatus 1
    return
  if !isSame || plan.form = .columns || plan.form = .merged then
    if nested && !isSame then
      print ("diff" ++ plan.options ++ " " ++ Quote.ifNeeded title ++ " " ++ Quote.ifNeeded otherTitle ++ "\n")
    print (plan.show first second changes)
    if !isSame then noteStatus 1

def kindName (info : FileInfo) : String :=
  match info.sort with
  | .plain => if info.size = 0 then "regular empty file" else "regular file"
  | .directory => "directory"
  | .link => "symbolic link"
  | .device => "character special file"
  | .pipe => "fifo"

/-- Compares two files, or all that two directories have, down to a depth. -/
def comparePaths (plan : Plan) : Nat → Bool → String → String → ToolM Unit
  | 0, _, _, _ => return
  | depth + 1, nested, path, other => do
    let look (path : String) : ToolM (Except SystemError FileInfo) := do
      if path = "-" then ask (.inspectOpen 0) else ask (.inspect path true)
    let here ← look path
    let there ← look other
    let missing (info : Except SystemError FileInfo) : Bool :=
      match info with
      | .error .missing => true
      | _ => false
    let now : Nat ← ask .clock
    let modified (path : String) (info : FileInfo) : Nat := if path = "-" then now else info.modified
    match here, there with
    | .ok info, .ok otherInfo =>
      if info.sort = .directory && otherInfo.sort = .directory then
        if nested && !plan.recursive then print ("Common subdirectories: " ++ path ++ " and " ++ other ++ "\n")
        else
          let names (path : String) : ToolM (Option (List String)) := do
            match ← namesIn path with
            | .ok names =>
              return some (names.filter fun name => !plan.excluded.any fun pattern => Wildcard.fits pattern name)
            | .error error =>
              trouble (path ++ ": " ++ error.text)
              return none
          match ← names path, ← names other with
          | some left, some right =>
            let all := (left ++ right.filter (!left.contains ·)).mergeSort fun one other => one ≤ other
            for name in all do
              let inFirst := left.contains name
              let inSecond := right.contains name
              if (inFirst && inSecond) || plan.absent || (plan.firstAbsent && inSecond) then
                let known := inside (if inFirst then path else other) name
                match inFirst && inSecond, ← ask (.inspect known true) with
                | false, .error error => trouble (known ++ ": " ++ error.text)
                | _, _ => comparePaths plan depth true (inside path name) (inside other name)
              else
                print ("Only in " ++ (if inFirst then path else other) ++ ": " ++ name ++ "\n")
                noteStatus 1
          | _, _ => return
      else if info.sort = .directory || otherInfo.sort = .directory then
        print ("File " ++ path ++ " is a " ++ kindName info ++ " while file " ++ other ++ " is a " ++
          kindName otherInfo ++ "\n")
        noteStatus 1
      else if info.id = otherInfo.id && path ≠ "-" && other ≠ "-" && plan.form ≠ .columns &&
          plan.form ≠ .merged then
        if plan.tellsSame then
          print ("Files " ++ plan.labels.headD path ++ " and " ++ (plan.labels[1]?).getD other ++ " are identical\n")
      else if path = "-" && other = "-" then
        if plan.tellsSame then print "Files - and - are identical\n"
      else
        match ← contentOf path true, ← contentOf other true with
        | some text, some otherText =>
          compareTexts plan nested path other text otherText (modified path info) (modified other otherInfo)
        | _, _ => return
    | _, _ =>
      let isAllowed := missing here != missing there && (plan.absent || (plan.firstAbsent && missing here))
      match isAllowed, here.toOption.orElse fun _ => there.toOption with
      | true, some info =>
        let known := if missing there then path else other
        if info.sort = .directory then
          -- What is in the directory is compared with nothing.
          if nested && !plan.recursive then
            print ("Only in " ++ directoryName known ++ ": " ++ lastName known ++ "\n")
            noteStatus 1
          else
            match ← namesIn known with
            | .ok names =>
              for name in names.filter fun name => !plan.excluded.any fun pattern => Wildcard.fits pattern name do
                comparePaths plan depth true (inside path name) (inside other name)
            | .error error => trouble (known ++ ": " ++ error.text)
        else
          match ← contentOf path (!missing here), ← contentOf other (!missing there) with
          | some text, some otherText =>
            compareTexts plan nested path other text otherText (if missing here then 0 else modified path info)
              (if missing there then 0 else modified other info)
          | _, _ => return
      | _, _ =>
        for (name, found) in [(path, here), (other, there)] do
          match found with
          | .error error => trouble (name ++ ": " ++ error.text)
          | .ok _ => pure ()

/-- The options of `diff`. -/
def compareOptions : List String := [
  "a,text", "b,ignore-space-change", "B,ignore-blank-lines", "c,", ",context,?", "C,,:", "d,minimal",
  "D,ifdef,:", "e,ed",
  "E,ignore-tab-expansion", "f,forward-ed", "F,show-function-line,:", "H,speed-large-files", "i,ignore-case",
  "I,ignore-matching-lines,:", "l,paginate", "L,label,:", "n,rcs", "N,new-file", "p,show-c-function",
  "P,unidirectional-new-file", "q,brief", "r,recursive", "s,report-identical-files", "S,starting-file,:",
  "t,expand-tabs", "T,initial-tab", "u,", ",unified,?", "U,,:", "v,version", "w,ignore-all-space", "W,width,:",
  "x,exclude,:", "X,exclude-from,:", "y,side-by-side", "Z,ignore-trailing-space", ",normal", ",left-column",
  ",suppress-common-lines", ",suppress-blank-empty", ",strip-trailing-cr", ",color,?", ",palette,:", ",tabsize,:",
  ",horizon-lines,:", ",from-file,:", ",to-file,:", ",no-dereference", ",ignore-file-name-case",
  ",no-ignore-file-name-case", ",old-group-format,:", ",new-group-format,:", ",changed-group-format,:",
  ",unchanged-group-format,:", ",line-format,:", ",old-line-format,:", ",new-line-format,:", ",unchanged-line-format,:",
  "0,", "1,", "2,", "3,", "4,", "5,", "6,", "7,", "8,", "9,"]

/-- Ends the program because it was called in a wrong way. -/
def refuse {α : Type} (text : String) : ToolM α := do
  report text
  report "Try 'diff --help' for more information."
  abort 2

/-- The options among arguments, as they were given. -/
def givenOptions (table : OptionTable) : Nat → List String → List String
  | 0, _ => []
  | _, [] => []
  | fuel + 1, first :: rest =>
    if first = "--" then ["--"]
    else if first.startsWith "-" && first ≠ "-" then
      match table.read [first, "x"] with
      | .ok { operands := [], .. } => first :: rest.take 1 ++ givenOptions table fuel (rest.drop 1)
      | _ => first :: givenOptions table fuel rest
    else givenOptions table fuel rest

/-- A number of lines, or the end of the program. -/
def contextLength (text : String) : ToolM Nat := do
  match Numeral.natural? text with
  | some count => return count
  | none => refuse ("invalid context length " ++ "'" ++ text ++ "'")

/-- The forms that options without a length ask for. -/
def formNames : List (String × Form) := [
  ("c", .context 3), ("C", .context 3), ("context", .context 3), ("u", .unified 3), ("U", .unified 3),
  ("unified", .unified 3), ("e", .commands), ("f", .forward), ("n", .counted), ("y", .columns), ("normal", .plain),
  ("D", .merged), ("old-group-format", .merged), ("new-group-format", .merged), ("changed-group-format", .merged),
  ("unchanged-group-format", .merged), ("line-format", .merged), ("old-line-format", .merged),
  ("new-line-format", .merged), ("unchanged-line-format", .merged)]

/-- The form that options ask for. Different ones do not go together. -/
def formOf (arguments : Arguments) : ToolM Form := do
  let forms := (arguments.options.filterMap fun option => formNames.lookup option.name).eraseDups
  let lengths := arguments.options.filter fun option =>
    ["C", "U"].contains option.name || (["context", "unified"].contains option.name && !option.value.isEmpty)
  let given ← lengths.mapM fun option => contextLength option.value
  let digits := String.join (arguments.options.filterMap fun option =>
    if option.name.toList.all Char.isDigit then some option.name else none)
  let counts := given ++ digits.toNat?.toList
  let count := if counts.isEmpty then 3 else counts.foldl max 0
  match forms with
  | [] => return if arguments.has "p" then .context 3 else .plain
  | [.unified _] => return .unified count
  | [.context _] => return .context count
  | [form] => return form
  | _ => refuse "conflicting output style options"

/-- The expressions that options give. -/
def expressions (texts : List String) : ToolM (List Regex) :=
  texts.mapM fun text => do
    match Regex.read { extended := false } text with
    | .ok (regex, _) => return regex
    | .error fault =>
      report (text ++ ": " ++ fault.message)
      abort 2

/-- Shows what files do not have in common. -/
def diff : ToolM Unit := do
  let table := OptionTable.ofEntries false compareOptions
  let given := (← get).arguments
  let arguments ← match table.read given with
    | .ok arguments => pure arguments
    | .error text => refuse text
  let form ← formOf arguments
  let number (name what : String) (default : Nat) : ToolM Nat := do
    match arguments.value? name with
    | none => return default
    | some text =>
      match Numeral.natural? text with
      | some value => if value ≠ 0 || name = "horizon-lines" then return value
      | none => pure ()
      refuse ("invalid " ++ what ++ " '" ++ text ++ "'")
  let width ← number "W" "width" 130
  discard (number "tabsize" "tabsize" 8)
  discard (number "horizon-lines" "horizon length" 0)
  let colored ← match arguments.value? "color" with
    | none | some "" | some "auto" | some "never" => pure false
    | some "always" => pure true
    | some other => refuse ("invalid color '" ++ other ++ "'")
  let mut excluded := arguments.values "x"
  for path in arguments.values "X" do
    match ← openInput path with
    | .error error =>
      report (path ++ ": " ++ error.text)
      abort 2
    | .ok descriptor =>
      let (text, _) ← readAll descriptor
      closeInput descriptor
      excluded := excluded ++ linesOf text
  let label := (arguments.value? "D").getD ""
  let value (name default : String) : String := (arguments.value? name).getD default
  let line := value "line-format" "%l\n"
  let isNamed := arguments.has "D"
  let old := value "old-group-format"
    (if isNamed then "#ifndef " ++ label ++ "\n%<#endif /* ! " ++ label ++ " */\n" else "%<")
  let new := value "new-group-format"
    (if isNamed then "#ifdef " ++ label ++ "\n%>#endif /* " ++ label ++ " */\n" else "%>")
  let merge : MergeFormat := {
    old, new
    changed := value "changed-group-format" (if isNamed then
        "#ifndef " ++ label ++ "\n%<#else /* " ++ label ++ " */\n%>#endif /* " ++ label ++ " */\n"
      else old ++ new)
    unchanged := value "unchanged-group-format" "%="
    oldLine := value "old-line-format" line
    newLine := value "new-line-format" line
    unchangedLine := value "unchanged-line-format" line }
  let skipped ← expressions (arguments.values "I")
  let headings ← expressions
    ((if arguments.has "p" then ["^[[:alpha:]$_]"] else []) ++ arguments.values "F")
  let given := givenOptions table (given.length + 1) given
  let plan : Plan := {
    form, width, colored, excluded, merge, skipped, headings
    brief := arguments.has "q"
    tellsSame := arguments.has "s"
    recursive := arguments.has "r"
    absent := arguments.has "N"
    firstAbsent := arguments.has "P"
    blanks :=
      if arguments.has "w" then .none
      else if arguments.has "b" then .amount
      else if arguments.has "Z" then .trailing
      else if arguments.has "E" then .tabs else .exact
    anyCase := arguments.has "i"
    skipsEmpty := arguments.has "B"
    text := arguments.has "a"
    dropsReturns := arguments.has "strip-trailing-cr"
    labels := arguments.values "L"
    expands := arguments.has "t"
    leftOnly := arguments.has "left-column"
    changedOnly := arguments.has "suppress-common-lines"
    tab := arguments.has "T"
    options := String.join (given.map fun text => " " ++ Quote.ifNeeded text) }
  if 2 < plan.labels.length then
    report "too many file label options"
    abort 2
  let pairs : List (String × String) ← match arguments.value? "from-file", arguments.value? "to-file" with
    | some _, some _ =>
      report "--from-file and --to-file both specified"
      abort 2
    | some first, none => pure (arguments.operands.map fun other => (first, other))
    | none, some other => pure (arguments.operands.map fun first => (first, other))
    | none, none =>
      match arguments.operands with
      | [first, other] => pure [(first, other)]
      | _ :: _ :: extra :: _ => refuse ("extra operand '" ++ extra ++ "'")
      | operands =>
        let call ← get
        refuse ("missing operand after '" ++ operands.head?.getD (call.arguments.getLast?.getD call.name) ++ "'")
  for (first, other) in pairs do
    let isFirst ← isDirectory first
    let isOther ← isDirectory other
    let there (path : String) : ToolM Bool := do
      if path = "-" then return true else return (← inspect? path true).isSome
    if isFirst && !isOther && (← there other) then
      if other = "-" then
        report "cannot compare '-' to a directory"
        abort 2
      comparePaths plan maxDepth false (inside first (lastName other)) other
    else if !isFirst && isOther && (← there first) then
      if first = "-" then
        report "cannot compare '-' to a directory"
        abort 2
      comparePaths plan maxDepth false first (inside other (lastName first))
    else comparePaths plan maxDepth false first other

end ToolM

end Shell.Machine
