import Shell.Machine.Script.Syntax
import Shell.Machine.Utility.Numeral
import Shell.Machine.Script.Expand

/-! # Paths and fields

How the words of a command are divided into fields, and how fields that are patterns become the paths that match.
-/

/-! ## Braces

Words in which braces stand around alternatives or around the ends of a sequence are many words at once.
-/

namespace Shell.Machine.Script.Braces

/-- A character of a word that is not quoted, or another part of it. -/
inductive Atom where
  | char (c : Char)
  | part (part : Part)

def atoms (word : Word) : List Atom :=
  word.flatMap fun
    | .text text false => text.toList.map .char
    | part => [.part part]

def wordOf : List Atom → Word
  | [] => []
  | .part part :: rest => part :: wordOf rest
  | .char c :: rest =>
    match wordOf rest with
    | .text text false :: parts => .text (String.singleton c ++ text) false :: parts
    | parts => .text (String.singleton c) false :: parts

def textOf? (items : List Atom) : Option String :=
  String.ofList <$> items.mapM fun
    | .char c => some c
    | .part _ => none

/-- The alternatives up to the brace that closes them, and what follows. The current one is in reverse. -/
def alternatives? : Nat → List Atom → List Atom → Option (List (List Atom) × List Atom)
  | _, _, [] => none
  | depth, current, atom :: rest =>
    let goOn (depth : Nat) : Option (List (List Atom) × List Atom) := alternatives? depth (atom :: current) rest
    match atom, depth with
    | .char '\x7d', 0 => some ([current.reverse], rest)
    | .char '\x7d', depth + 1 => goOn depth
    | .char ',', 0 => (alternatives? 0 [] rest).map fun (others, rest) => (current.reverse :: others, rest)
    | .char '\x7b', depth => goOn (depth + 1)
    | _, depth => goOn depth

def number? (text : String) : Option Int :=
  match text.toList with
  | '-' :: digits => (String.ofList digits).toNat?.map fun value => -(value : Int)
  | '+' :: digits => (String.ofList digits).toNat?.map Int.ofNat
  | _ => text.toNat?.map Int.ofNat

/-- So many words a sequence has at most. -/
def maxLength : Nat := 1000000

/-- The numbers from one to another one. -/
def steps (first last step : Int) : List Int :=
  let size := if step = 0 then 1 else step.natAbs
  let count := min maxLength ((last - first).natAbs / size)
  (List.range (count + 1)).map fun (place : Nat) =>
    if first ≤ last then first + (place * size : Nat) else first - (place * size : Nat)

/-- A number with as many digits as a width asks for. -/
def padded (width : Nat) (value : Int) : String :=
  let sign := if value < 0 then "-" else ""
  sign ++ Numeral.padLeft (width - sign.length) '0' (toString value.natAbs)

/-- True for a number that begins with a zero which does not count. -/
def isPadded (text : String) : Bool :=
  let digits := if text.startsWith "-" then (text.drop 1).toString else text
  1 < digits.length && digits.startsWith "0"

/-- The words of a sequence, if a text between braces is one. -/
def sequence? (text : String) : Option (List String) := do
  let (first, last, step) ← match text.splitOn ".." with
    | [first, last] => some (first, last, some 1)
    | [first, last, step] => some (first, last, number? step)
    | _ => none
  let step ← step
  match number? first, number? last with
  | some low, some high =>
    let width := if isPadded first || isPadded last then max first.length last.length else 0
    return (steps low high step).map (padded width)
  | _, _ =>
    match first.toList, last.toList with
    | [low], [high] =>
      if low.isAlpha && high.isAlpha then
        return (steps low.toNat high.toNat step).map fun code => String.singleton (Char.ofNat code.toNat)
      else none
    | _, _ => none

/-- The words that atoms stand for. What is at the front, in reverse, has no braces that count. -/
def expandFrom : Nat → List Atom → List Atom → List (List Atom)
  | 0, front, rest => [front.reverse ++ rest]
  | _, front, [] => [front.reverse]
  | fuel + 1, front, atom :: rest =>
    let plain (_ : Unit) : List (List Atom) := expandFrom fuel (atom :: front) rest
    match atom with
    | .char '\x7b' =>
      match alternatives? 0 [] rest with
      | none => plain ()
      | some (found, after) =>
        let choices : Option (List (List Atom)) := match found with
          | [inner] => ((textOf? inner).bind sequence?).map fun texts => texts.map fun text => text.toList.map .char
          | choices => some (choices.flatMap (expandFrom fuel []))
        match choices with
        | none => plain ()
        | some choices =>
          let ends := expandFrom fuel [] after
          choices.flatMap fun choice => ends.map fun rest => front.reverse ++ choice ++ rest
    | _ => plain ()

def expand (word : Word) : List Word :=
  let hasBraces := word.any fun
    | .text text false => text.contains '\x7b'
    | _ => false
  if !hasBraces then [word]
  else
    let items := atoms word
    (expandFrom (items.length + 1) [] items).map wordOf

end Shell.Machine.Script.Braces

/-! ## Fields -/

namespace Shell.Machine.Script.ScriptM

/-- The names in a directory. A path that leads to no directory has none. -/
def namesIn (directory : String) : ScriptM (List String) := do
  match ← ask (.list (if directory.isEmpty then "." else directory)) with
  | .ok names => return "." :: ".." :: names
  | .error _ => return []

/-- Divides characters at slashes. -/
def splitAtSlashes : List Glyph → List (List Glyph)
  | [] => [[]]
  | glyph :: rest =>
    match splitAtSlashes rest with
    | [] => [[glyph]]
    | first :: others =>
      if glyph.char = '/' then [] :: first :: others else (glyph :: first) :: others

/-- The text of characters, where a backslash that is not quoted takes the meaning from the next one. -/
def literalText : List Glyph → List Char
  | [] => []
  | [glyph] => [glyph.char]
  | glyph :: next :: rest =>
    if glyph.is '\\' then next.char :: literalText rest else glyph.char :: literalText (next :: rest)

/-- How paths are matched. -/
structure PathRules where
  /-- Whether names that begin with a point match too. -/
  showsHidden : Bool := false
  /-- Whether the directory itself and the one above match. -/
  hasDots : Bool := true
  hasLists : Bool := false
  folds : Bool := false
  /-- Whether two asterisks stand for any number of directories. -/
  descends : Bool := false

/-- The rules that hold in a script. -/
def pathRules (state : State) : PathRules :=
  if state.dialect = .plain then {}
  else
    let has (name : String) : Bool := state.switches.contains name
    { showsHidden := has "dotglob", hasDots := !has "globskipdots", hasLists := has "extglob", folds := has "nocaseglob"
      descends := has "globstar" }

/-- True when characters have a meaning of their own in the name of a file. -/
def isActiveName (rules : PathRules) (glyphs : List Glyph) : Bool :=
  Pattern.isActive glyphs ||
    (rules.hasLists && (List.range glyphs.length).any fun place => Pattern.opensList (glyphs.drop place))

/-- The directories below a path that has been reached, and that path; so deep at most. -/
def directoriesBelow (rules : PathRules) : Nat → String → ScriptM (List String)
  | 0, reached => return [reached]
  | fuel + 1, reached => do
    let names := (← namesIn reached).filter fun name =>
      name ≠ "." && name ≠ ".." && (rules.showsHidden || !name.startsWith ".")
    let inner ← names.mapM fun name => do
      match ← ask (.inspect (reached ++ name) false) with
      | .ok info => if info.sort = .directory then directoriesBelow rules fuel (reached ++ name ++ "/") else pure []
      | .error _ => pure []
    return reached :: inner.flatten

/-- The paths that match components, after a path that has been reached. -/
def matchPaths (rules : PathRules) : String → List (List Glyph) → ScriptM (List String)
  | _, [] => return []
  | reached, component :: rest => do
    let go (name : String) : ScriptM (List String) := do
      let path := reached ++ name
      match rest with
      | [] =>
        match ← ask (.inspect path false) with
        | .ok _ => return [path]
        | .error _ => return []
      | _ => matchPaths rules (path ++ "/") rest
    let isDescent := rules.descends && component.length = 2 && component.all fun glyph => glyph.is '*'
    if isDescent then
      let found ← directoriesBelow rules 64 reached
      match rest with
      | [] =>
        let below ← found.mapM fun directory => do
          let names := (← namesIn directory).filter fun name =>
            name ≠ "." && name ≠ ".." && (rules.showsHidden || !name.startsWith ".")
          return names.map (directory ++ ·)
        let own := if reached.isEmpty then [] else [reached]
        return own ++ below.flatten
      | _ => return (← found.mapM fun directory => matchPaths rules directory rest).flatten
    else if isActiveName rules component then
      let test := Pattern.testOf rules.hasLists rules.folds component
      let startsHidden := component.head?.any fun glyph => glyph.char = '.'
      let names := (← namesIn reached).filter fun name =>
        (startsHidden || (rules.showsHidden && name ≠ "." && name ≠ "..") || !name.startsWith ".") &&
          (rules.hasDots || (name ≠ "." && name ≠ "..")) && test.accepts name.toList
      let found ← names.mapM go
      return found.flatten
    else go (String.ofList (literalText component))

/-- What a field stands for: the paths that match if it is a pattern, else itself. -/
def pathsOf (field : List Glyph) : ScriptM (List String) := do
  let state ← get
  let rules := pathRules state
  if !isActiveName rules field || state.hasOption 'f' then return [Glyph.text field]
  match ← matchPaths rules "" (splitAtSlashes field) with
  | [] =>
    if state.switches.contains "failglob" then drop ("no match: " ++ Glyph.text field)
    else if state.switches.contains "nullglob" then return []
    else return [Glyph.text field]
  | paths => return paths.mergeSort

/-- The words that a word with braces stands for, where braces count. -/
def withoutBraces (word : Word) : ScriptM (List Word) := do
  let state ← get
  return if state.dialect = .extended && state.hasOption 'B' then Braces.expand word else [word]

/-- The fields of a word without braces. -/
def fieldsOfWord (run : Runner) (word : Word) : ScriptM (List String) := do
  let items ← expand run { tildes := .atStart, divides := true } word
  let fields := fieldsOf (← get).separators items
  return (← fields.mapM pathsOf).flatten

def expandFields (run : Runner) (word : Word) : ScriptM (List String) := do
  return (← (← withoutBraces word).mapM (fieldsOfWord run)).flatten

/-- The elements that words between parentheses give an array. -/
def expandElements (run : Runner) : List Word → ScriptM (List GivenElement)
  | [] => return []
  | word :: rest => do
    let here ← match word with
      | .target "" (some subscript) appends :: value => do
        let subscript ← expandText run .nowhere subscript
        let text ← expandText run .inAssignment value
        pure [{ subscript := some subscript, text, appends }]
      | _ => pure ((← expandFields run word).map fun text => ({ text } : GivenElement))
    return here ++ (← expandElements run rest)

end Shell.Machine.Script.ScriptM
