import Shell.Machine.Tools.Perl.Handles

/-! # Patterns of general programs

How texts are searched for patterns, divided by them, and changed where they match.
-/

namespace Shell.Machine.Perl.PerlM

/-! ## Patterns -/

/-- What is wrong with a pattern, which is shown up to where that is. -/
def faultReport (text : String) (fault : Ordered.Fault) : String :=
  let chars := text.toList
  let at_ (message : String) (count : Nat) : String :=
    message ++ " in regex; marked by <-- HERE in m/" ++ String.ofList (chars.take count) ++ " <-- HERE " ++
      String.ofList (chars.drop count) ++ "/"
  match fault with
  | .openGroup => at_ "Unmatched (" (openPlace chars 0 [] + 1)
  | .closedGroup => at_ "Unmatched )" (closePlace chars 0 0 + 1)
  | .openSet => at_ "Unmatched [" ((chars.takeWhile (· ≠ '[')).length)
  | .badRepeat => at_ "Quantifier follows nothing" ((chars.takeWhile fun c => !"*+?".contains c).length + 1)
  | .badReference => at_ "Reference to nonexistent group" chars.length
  | other => other.message ++ " in regex m/" ++ text ++ "/"
where
  /-- The place of the last parenthesis that is not closed. -/
  openPlace : List Char → Nat → List Nat → Nat
    | [], _, stack => stack.headD 0
    | '\\' :: _ :: rest, place, stack => openPlace rest (place + 2) stack
    | '(' :: rest, place, stack => openPlace rest (place + 1) (place :: stack)
    | ')' :: rest, place, stack => openPlace rest (place + 1) (stack.drop 1)
    | _ :: rest, place, stack => openPlace rest (place + 1) stack
  /-- The place of the first parenthesis that closes nothing. -/
  closePlace : List Char → Nat → Nat → Nat
    | [], place, _ => place
    | '\\' :: _ :: rest, place, depth => closePlace rest (place + 2) depth
    | '(' :: rest, place, depth => closePlace rest (place + 1) (depth + 1)
    | ')' :: rest, place, depth => if depth = 0 then place else closePlace rest (place + 1) (depth - 1)
    | _ :: rest, place, depth => closePlace rest (place + 1) depth

def shownPattern (text : String) (letters : List Char) : String :=
  "(?^" ++ String.ofList (["m", "s", "i", "x", "n"].flatMap fun letter =>
    if letters.contains (letter.toList.headD 'm') then letter.toList else []) ++ ":" ++ text ++ ")"

def patternNumber (text : String) (letters : List Char) : PerlM Nat := do
  let key := (text, String.ofList letters)
  match ← look fun world => world.known[key]? with
  | some id => return id
  | none =>
    let flags : Ordered.Flags := {
      folds := letters.contains 'i', byLine := letters.contains 'm', dotAll := letters.contains 's'
      spaced := letters.contains 'x', unnumbered := letters.contains 'n' }
    match Ordered.read flags text with
    | .error fault => die (faultReport text fault)
    | .ok (regex, reading) =>
      let pattern : Pattern := {
        regex, names := reading.names, groups := reading.groups, text := shownPattern text letters, letters }
      let id := (← look (·.patterns)).size
      modify fun world =>
        { world with patterns := world.patterns.push pattern, known := world.known.insert key id }
      return id

def patternAt (id : Nat) : PerlM Pattern := do
  return (← look fun world => world.patterns[id]?).getD default

def patternOf (value : Value) (letters : List Char) : PerlM Pattern := do
  match value, letters with
  | .reference (.pattern id), [] => patternAt id
  | value, letters => patternAt (← patternNumber (← textOf value) letters)

/-! ## Matches -/

/-- Notes the last match. -/
def setFound (pattern : Pattern) (text : Array Char) (found : Regex.Match) : PerlM Unit :=
  modify fun world =>
    { world with
      found := some {
        text, span := found.span, groups := found.groups, names := pattern.names, count := pattern.groups } }

def partOf (text : Array Char) (span : Regex.Span) : String :=
  String.ofList (text.extract span.start span.stop).toList

/-- What a group of the last match has matched. -/
def groupValue (number : Nat) : PerlM Value := do
  match ← look (·.found) with
  | none => return .undefined
  | some found =>
    if number = 0 then return .string (partOf found.text found.span)
    match found.groups.lookup number with
    | some span => return .string (partOf found.text span)
    | none => return .undefined

/-- What all groups of the last match have matched. -/
def allGroups : PerlM (Array Value) := do
  match ← look (·.found) with
  | none => return #[]
  | some found => return (← (List.range found.count).mapM fun number => groupValue (number + 1)).toArray

/-- Looks for a match from a place on and notes it. -/
def search (pattern : Pattern) (text : Array Char) (place : Nat) : PerlM (Option Regex.Match) := do
  if text.size < place then return none
  match Ordered.find? { text } pattern.regex place with
  | some found =>
    setFound pattern text found
    return some found
  | none => return none

/-- All matches from a place on: what groups have matched, or the whole matches if there are no groups. -/
def searchAll (pattern : Pattern) (text : Array Char) :
    Nat → Nat → Option Nat → Array Value → PerlM (Array Value)
  | 0, _, _, sofar => return sofar
  | fuel + 1, place, last, sofar => do
    match ← search pattern text place with
    | none => return sofar
    | some found =>
      let isEmpty := found.span.start = found.span.stop
      if isEmpty && last = some found.span.start then searchAll pattern text fuel (place + 1) none sofar
      else
        let values ← if pattern.groups = 0 then do pure #[← groupValue 0] else allGroups
        searchAll pattern text fuel found.span.stop (some found.span.stop) (sofar ++ values)

/-- Replaces matches from a place on. Also counts them. What comes out is collected. -/
def replaceFrom (pattern : Pattern) (all : Bool) (by_ : PerlM String) (text : Array Char) :
    Nat → Nat → Option Nat → Nat → String → PerlM (Nat × String)
  | 0, place, _, count, sofar => return (count, sofar ++ partOf text ⟨place, text.size⟩)
  | fuel + 1, place, last, count, sofar => do
    match ← search pattern text place with
    | none => return (count, sofar ++ partOf text ⟨place, text.size⟩)
    | some found =>
      let span := found.span
      if span.start = span.stop && last = some span.start then
        if text.size ≤ span.stop then return (count, sofar)
        else
          let next := partOf text ⟨place, span.stop + 1⟩
          replaceFrom pattern all by_ text fuel (span.stop + 1) none count (sofar ++ next)
      else
        let sofar := sofar ++ partOf text ⟨place, span.start⟩ ++ (← by_)
        if all then replaceFrom pattern all by_ text fuel span.stop (some span.stop) (count + 1) sofar
        else return (count + 1, sofar ++ partOf text ⟨span.stop, text.size⟩)

/-- The parts of a text between matches, with what groups have matched. At most so many parts, if that is given. -/
def divideFrom (pattern : Pattern) (text : Array Char) :
    Nat → Option Nat → Nat → Array Value → PerlM (Array Value)
  | 0, _, _, sofar => return sofar
  | fuel + 1, limit, start, sofar => do
    let rest : Array Value := sofar.push (.string (partOf text ⟨start, text.size⟩))
    if limit = some 1 || text.size ≤ start then return rest
    let find (place : Nat) : Option Regex.Match := Ordered.find? { text } pattern.regex place
    let found := match find start with
      | some found => if found.span.stop ≤ start then find (start + 1) else some found
      | none => none
    match found with
    | none => return rest
    | some found =>
      if text.size ≤ found.span.start && found.span.start = found.span.stop then return rest
      let groups := (List.range pattern.groups).map fun number =>
        match found.groups.lookup (number + 1) with
        | some span => Value.string (partOf text span)
        | none => .undefined
      let sofar := (sofar.push (.string (partOf text ⟨start, found.span.start⟩))) ++ groups.toArray
      divideFrom pattern text fuel (limit.map (· - 1)) found.span.stop sofar

/-- Values without the empty ones at the end. -/
def withoutEmptyEnd (values : Array Value) : Array Value :=
  values.popWhile fun
    | .undefined => true
    | .string text => text = ""
    | _ => false

def divide (pattern : Pattern) (text : String) (limit : Int) : PerlM (Array Value) := do
  let chars := text.toList.toArray
  if chars.isEmpty then return #[]
  let most := if 0 < limit then some limit.toNat else none
  let parts ← divideFrom pattern chars (chars.size + 2) most 0 #[]
  return if limit = 0 then withoutEmptyEnd parts else parts

/-- The words of a text between blanks; at most so many parts, if that is given. -/
def divideWords (text : String) (limit : Int) : PerlM (Array Value) := do
  let pattern ← patternAt (← patternNumber "\\s+" [])
  divide pattern (text.trimAsciiStart).toString limit

/-! ## Other changes -/

/-- Letters of one text in place of those of another one. The result is how many there were, and the text. -/
def transliterate (from_ to_ letters : List Char) (text : String) : Nat × String :=
  let inverted := letters.contains 'c'
  let deletes := letters.contains 'd'
  let squeezes := letters.contains 's'
  let targets := if to_.isEmpty && !deletes then (if inverted then [] else from_) else to_
  let last := targets.getLast?
  let change (c : Char) : Option (Option Char) :=
    if inverted then
      if from_.contains c then none
      else if deletes && to_.isEmpty then some none
      else some (some (last.getD c))
    else
      match from_.findIdx? (· = c) with
      | none => none
      | some place =>
        match targets[place]? with
        | some d => some (some d)
        | none => if deletes then some none else some (some (last.getD c))
  let step (state : Nat × List Char × Option Char) (c : Char) : Nat × List Char × Option Char :=
    let (count, sofar, before) := state
    match change c with
    | none => (count, c :: sofar, none)
    | some none => (count + 1, sofar, before)
    | some (some d) =>
      if squeezes && before = some d then (count + 1, sofar, before) else (count + 1, d :: sofar, some d)
  let (count, sofar, _) := text.toList.foldl step (0, [], none)
  (count, String.ofList sofar.reverse)

end Shell.Machine.Perl.PerlM
