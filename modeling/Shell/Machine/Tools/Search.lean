import Shell.Machine.Regex.Ordered.Read
import Shell.Machine.Regex.Read
import Shell.Machine.Tools.Lines
import Shell.Machine.Script.Pattern

/-! # Searching files

The program that shows the lines of files in which something matches.
-/

namespace Shell.Machine

namespace Finding

/-- What to look for and what to show. -/
structure Plan where
  regexes : List Regex
  /-- An expression with an order, which then counts instead. -/
  ordered : Option Ordered := none
  foldsCase : Bool
  /-- Whether matches have to be whole words. -/
  words : Bool
  /-- Whether matches have to be whole lines. -/
  whole : Bool
  /-- Whether lines without a match are wanted. -/
  inverted : Bool
  counts : Bool
  namesFound : Bool
  namesMissing : Bool
  quiet : Bool
  onlyMatches : Bool
  numbers : Bool
  offsets : Bool
  named : Bool
  /-- Where a file counts as text whatever is in it. -/
  asText : Bool
  skipsBinary : Bool
  zeroAfterName : Bool
  most : Option Nat
  before : Nat
  after : Nat
  hasContext : Bool
  last : Char
  label : String
  /-- What comes between groups of lines, if anything does. -/
  separator : Option String := some "--"
  colors : Bool := false
  tabs : Bool := false

/-- True when a match that ends at a place is a whole word. -/
def isWord (subject : Regex.Subject) (start stop : Nat) : Bool :=
  (start = 0 || !subject.isWordAt (start - 1)) && !subject.isWordAt stop

/-- The match at a place that fits what is wanted. -/
def matchAt (plan : Plan) (subject : Regex.Subject) (place : Nat) : Option Regex.Span :=
  match plan.ordered with
  | some regex => (Ordered.matchAt { text := subject.text } regex place).map Regex.Match.span
  | none =>
  let stops := Regex.endsAt subject plan.regexes place
  (stops.find? fun stop =>
    if plan.whole then place = 0 && stop = subject.text.size
    else if plan.words then isWord subject place stop
    else true).map fun stop => ⟨place, stop⟩

/-- The first match from a place on; so many places are tried. -/
def findFrom (plan : Plan) (subject : Regex.Subject) : Nat → Nat → Option Regex.Span
  | 0, _ => none
  | count + 1, place =>
    match matchAt plan subject place with
    | some span => some span
    | none => findFrom plan subject count (place + 1)

/-- All matches from a place on that are not empty. -/
def matches_ (plan : Plan) (subject : Regex.Subject) : Nat → Nat → List Regex.Span
  | 0, _ => []
  | fuel + 1, place =>
    match findFrom plan subject (subject.text.size + 1 - place) place with
    | none => []
    | some span =>
      if span.stop = span.start then matches_ plan subject fuel (span.start + 1)
      else span :: matches_ plan subject fuel span.stop

/-- A text in a color, if colors are wanted. -/
def Plan.paint (plan : Plan) (color text : String) : String :=
  if plan.colors && !text.isEmpty then "\x1b[" ++ color ++ "m\x1b[K" ++ text ++ "\x1b[m\x1b[K" else text

def matchColor : String := "01;31"

def nameColor : String := "35"

def numberColor : String := "32"

def markColor : String := "36"

/-- How far the search in a file is. -/
structure Progress where
  number : Nat := 0
  offset : Nat := 0
  found : Nat := 0
  /-- The last lines that have not been shown, with their numbers and offsets, the last one first. -/
  before : List (Nat × Nat × String) := []
  /-- How many lines are still to be shown after a match. -/
  after : Nat := 0
  /-- The number of the line that was shown last. -/
  shown : Option Nat := none
  isBinary : Bool := false

/-- What was found in all files. -/
structure Tally where
  found : Bool := false
  failed : Bool := false
  /-- Whether something was shown for a file before. -/
  shown : Bool := false

end Finding

namespace ToolM

open Finding

/-- Writes a line, with what is known of it before it. -/
def showFound (plan : Plan) (path : String) (separator : Char) (number offset : Nat) (text : String) :
    ToolM Unit := do
  let mark := plan.paint markColor (String.singleton separator)
  let name := if plan.named then
      plan.paint nameColor path ++ (if plan.zeroAfterName then "\x00" else mark)
    else ""
  let wide (value : Nat) : String :=
    plan.paint numberColor (if plan.tabs then Numeral.padLeft 19 ' ' (toString value) else toString value) ++ mark
  let number := if plan.numbers then wide number else ""
  let offset := if plan.offsets then wide offset else ""
  let start := name ++ number ++ offset
  print (start ++ (if plan.tabs && !start.isEmpty then "\t" else "") ++ text ++ String.singleton plan.last)

def paintMatches (plan : Plan) (subject : Regex.Subject) (line : String) : String :=
  if !plan.colors then line
  else
    let spans := matches_ plan subject (subject.text.size + 1) 0
    let part (start stop : Nat) : String := String.ofList (subject.text.extract start stop).toList
    let (text, place) := spans.foldl
      (fun (text, place) span =>
        (text ++ part place span.start ++ plan.paint matchColor (part span.start span.stop), span.stop))
      ("", 0)
    text ++ part place subject.text.size

/-- Writes a line that is shown because others near it are wanted. -/
def showNear (plan : Plan) (path : String) (number offset : Nat) (line : String) : ToolM Unit := do
  let subject : Regex.Subject := { text := line.toList.toArray, foldsCase := plan.foldsCase }
  showFound plan path '-' number offset (if plan.inverted then paintMatches plan subject line else line)

/-- Writes a line that has matched, or its matches. -/
def showMatch (plan : Plan) (path : String) (subject : Regex.Subject) (progress : Progress)
    (line : String) : ToolM Unit := do
  if !plan.onlyMatches then
    let text := if plan.inverted then line else paintMatches plan subject line
    showFound plan path ':' progress.number progress.offset text
  else if !plan.inverted then
    for span in matches_ plan subject (subject.text.size + 1) 0 do
      let text := String.ofList (subject.text.extract span.start span.stop).toList
      showFound plan path ':' progress.number (progress.offset + span.start) (plan.paint matchColor text)

/-- Separates lines that are shown from those shown before, where others lie in between. -/
def separateShown (plan : Plan) (shownBefore : Bool) (progress : Progress) (first : Nat) : ToolM Unit := do
  match plan.separator with
  | none => return
  | some text =>
    if plan.hasContext then
      let line := plan.paint markColor text ++ "\n"
      match progress.shown with
      | some number => if number + 1 < first then print line
      | none => if shownBefore then print line

/-- Deals with the next line of a file. -/
def searchLine (plan : Plan) (path : String) (shownBefore : Bool) (text : String) (progress : Progress) :
    ToolM (Bool × Progress) := do
  let line := withoutEnd plan.last text
  let next : Progress :=
    { progress with offset := progress.offset + text.length }
  let progress := { progress with
    number := progress.number + 1
    isBinary := progress.isBinary || (!plan.asText && plan.last = '\n' && line.contains '\x00') }
  if progress.isBinary && plan.skipsBinary then return (false, progress)
  let subject : Regex.Subject := { text := line.toList.toArray, foldsCase := plan.foldsCase }
  let found := (findFrom plan subject (if plan.whole then 1 else subject.text.size + 1) 0).isSome
  let next := { next with number := progress.number, isBinary := progress.isBinary }
  if found != plan.inverted then
    if plan.quiet then quit 0
    let next := { next with found := next.found + 1 }
    if plan.namesFound || plan.namesMissing then return (false, next)
    let isLast := plan.most = some next.found
    if plan.counts then return (!isLast, next)
    if progress.isBinary then
      print ((← get).name ++ ": " ++ path ++ ": binary file matches\n")
      return (false, next)
    let before := (progress.before.take plan.before).reverse
    let first := (before.head?.map (·.1)).getD progress.number
    separateShown plan shownBefore progress first
    for (number, offset, line) in before do
      if !plan.onlyMatches then showNear plan path number offset line
    showMatch plan path subject progress line
    let next := { next with before := [], after := plan.after, shown := some progress.number }
    return (!isLast || plan.after ≠ 0, next)
  else if plan.counts || plan.namesFound || plan.namesMissing || plan.quiet then return (true, next)
  else if progress.after ≠ 0 then
    if !plan.onlyMatches then showNear plan path progress.number progress.offset line
    let ended := plan.most.any (· ≤ progress.found) && progress.after = 1
    return (!ended, { next with after := progress.after - 1, shown := some progress.number })
  else
    let before := ((progress.number, progress.offset, line) :: progress.before).take plan.before
    return (true, { next with before })

/-- Deals with the next line of a file unless enough have matched. -/
def searchNext (plan : Plan) (path : String) (shownBefore : Bool) (text : String) (progress : Progress) :
    ToolM (Bool × Progress) := do
  if plan.most.any (· ≤ progress.found) && progress.after = 0 then return (false, progress)
  else if plan.most.any (· ≤ progress.found) then
    -- After the last match that counts, others are shown as if they were none.
    let line := withoutEnd plan.last text
    let number := progress.number + 1
    if !plan.onlyMatches then showNear plan path number progress.offset line
    let progress := { progress with
      number, offset := progress.offset + text.length, after := progress.after - 1, shown := some number }
    return (progress.after ≠ 0, progress)
  else searchLine plan path shownBefore text progress

def searchFile (plan : Plan) (path : String) (descriptor : Nat) (outcome : Tally) :
    ToolM (Tally × Option SystemError) := do
  let shown := if path = "-" then plan.label else path
  let (progress, error) ← if plan.most = some 0 then pure (({} : Progress), none) else
    forLines descriptor (UInt8.ofNat plan.last.toNat) (searchNext plan shown outcome.shown) patience
      ({} : Progress)
  match error with
  | some error => return ({ outcome with failed := true }, some error)
  | none =>
    let found := progress.found ≠ 0
    let name := plan.paint nameColor shown ++ String.singleton (if plan.zeroAfterName then '\x00' else '\n')
    if plan.counts && !plan.namesFound && !plan.namesMissing then
      let mark := if plan.zeroAfterName then "\x00" else plan.paint markColor ":"
      let start := if plan.named then plan.paint nameColor shown ++ mark else ""
      print (start ++ toString progress.found ++ "\n")
    if plan.namesFound && found then print name
    if plan.namesMissing && !found then print name
    return ({ outcome with
      found := outcome.found || found, shown := outcome.shown || progress.shown.isSome }, none)

/-- The patterns in a file, one on each line. -/
def patternsIn (path : String) : ToolM (List String) := do
  match ← openInput path with
  | .error error => fail 2 (path ++ ": " ++ error.text)
  | .ok descriptor =>
    let (text, _) ← readAll descriptor
    closeInput descriptor
    return linesOf text

/-- Says how the program is called, and ends it. -/
def explainSearch {α : Type} : ToolM α := do
  discard (ask (.write 2 (Octets.toBytes
    "Usage: grep [OPTION]... PATTERNS [FILE]...\nTry 'grep --help' for more information.\n")))
  abort 2

def searchOptions : List String :=
  ["E,extended-regexp", "F,fixed-strings", "G,basic-regexp", "P,perl-regexp", "e,regexp,:", "f,file,:",
    "i,ignore-case", ",no-ignore-case", "y,", "w,word-regexp", "x,line-regexp", "z,null-data",
    "s,no-messages", "v,invert-match", "m,max-count,:", "b,byte-offset", "n,line-number",
    ",line-buffered", "H,with-filename", "h,no-filename", ",label,:", "o,only-matching", "q,quiet",
    ",silent", ",binary-files,:", "a,text", "I,", "d,directories,:", "D,devices,:", "r,recursive",
    "R,dereference-recursive", ",include,:", ",exclude,:", ",exclude-from,:", ",exclude-dir,:",
    "L,files-without-match", "l,files-with-matches", "c,count", "T,initial-tab", "Z,null",
    "A,after-context,:", "B,before-context,:", "C,context,:", "U,binary", ",color,?", ",colour,?",
    ",group-separator,:", ",no-group-separator"]

/-- Makes the number of lines around matches an option with a letter. -/
def expandContext (arguments : List String) : List String :=
  let (options, rest) := arguments.span (· ≠ "--")
  options.map (fun text => if isNumberOption text then "-C" ++ (text.drop 1).toString else text) ++ rest

def contextCount (arguments : Arguments) (name : String) : ToolM (Option Nat) := do
  match arguments.value? name with
  | none => return none
  | some text =>
    match text.toNat? with
    | some count => return some count
    | none => fail 2 (text ++ ": invalid context length argument")

def endName (path : String) : String :=
  ((path.splitOn "/").getLast?).getD path

/-- True when a file is left out by its name. -/
def isLeftOut (arguments : Arguments) (isOperand isDirectory : Bool) (path : String) : Bool :=
  let fits (pattern : String) : Bool :=
    Wildcard.fits pattern (endName path) || (isOperand && Wildcard.fits pattern path)
  if isDirectory then (arguments.values "exclude-dir").any fits
  else
    let decisive := arguments.options.reverse.find? fun option =>
      (option.name = "include" || option.name = "exclude") && fits option.value
    match decisive with
    | some option => option.name = "exclude"
    | none => ((arguments.options.filter fun option =>
        option.name = "include" || option.name = "exclude").head?).any fun option => option.name = "include"

/-- The files in a directory and in those in it. `follows` says whether links are followed. -/
def filesWithin (arguments : Arguments) (follows : Bool) : Nat → Bool → String → ToolM (List String)
  | 0, _, _ => return []
  | depth + 1, isOperand, path => do
    match ← ask (.inspect path (follows || isOperand)) with
    | .ok { sort := .directory, .. } =>
      if isLeftOut arguments isOperand true path then return []
      match ← ask (.list path) with
      | .error _ => return []
      | .ok names =>
        let mut all := []
        for name in names do
          let inner := if path.endsWith "/" then path ++ name else path ++ "/" ++ name
          all := all ++ (← filesWithin arguments follows depth false inner)
        return all
    | .ok { sort := .link, .. } => return []
    | _ => return if isLeftOut arguments isOperand false path then [] else [path]

/-- True when directories are searched with all that is in them. -/
def searchesWithin (arguments : Arguments) : Bool :=
  match arguments.last? ["r", "R", "d"] with
  | some "d" => arguments.value? "d" = some "recurse"
  | other => other.isSome

def searchedFiles (arguments : Arguments) (operands : List String) : ToolM (List String) := do
  if searchesWithin arguments then
    let follows := arguments.has "R"
    match operands with
    | [] => return (← filesWithin arguments follows 64 true ".").map fun path => (path.drop 2).toString
    | operands =>
      let mut all := []
      for operand in operands do
        all := all ++ (← if operand = "-" then pure ["-"] else filesWithin arguments follows 64 true operand)
      return all
  else
    return (if operands.isEmpty then ["-"] else operands).filter fun path =>
      path = "-" || !isLeftOut arguments true false path

/-- The one of some words that the value of an option is. -/
def choiceOf (arguments : Arguments) (name long : String) (words : List String) : ToolM Unit := do
  match arguments.value? name with
  | none => return
  | some text =>
    if !(words.any fun word => word.startsWith text) then
      report ("invalid argument " ++ Quote.text text ++ " for '--" ++ long ++ "'")
      explainChoices words
      explainSearch

/-- The expression with an order that texts stand for, where a whole word or a whole line may be wanted. -/
def orderedSearch (arguments : Arguments) (folds : Bool) (texts : List String) : ToolM Ordered := do
  let text := match texts with
    | [text] => text
    | texts => "|".intercalate (texts.map fun text => "(?:" ++ text ++ ")")
  match Ordered.read { folds } text with
  | .error fault => fail 2 fault.message
  | .ok (regex, _) =>
    let beside (ahead : Bool) : Ordered :=
      .look ahead true (.set false false [(false, .named "alnum"), (false, .range '_' '_')])
    let framed (start stop : Ordered) : Ordered := .sequence start (.sequence regex stop)
    return if arguments.has "x" then framed (.edge .textStart) (.edge .textEnd)
      else if arguments.has "w" then framed (beside false) (beside true)
      else regex

/-- Searches files. `extended` and `fixed` say how patterns are written unless options do. -/
def grep (extended fixed : Bool) : ToolM Unit := do
  let arguments ←
    match (OptionTable.ofEntries false searchOptions).read (expandContext (← get).arguments) with
    | .ok arguments => pure arguments
    | .error text =>
      report text
      explainSearch
  let whole := arguments.has "x"
  let (texts, operands) ← do
    let given := arguments.options.filter fun option => option.name = "e" || option.name = "f"
    if given.isEmpty then
      match arguments.operands with
      | [] => explainSearch
      | pattern :: operands => pure ([pattern], operands)
    else
      let mut texts := []
      for option in given do
        texts := texts ++ (← if option.name = "e" then pure [option.value] else patternsIn option.value)
      pure (texts, arguments.operands)
  choiceOf arguments "d" "directories" ["read", "recurse", "skip"]
  let kind := arguments.last? ["E", "F", "G", "P"]
  let own := if extended then ["E"] else if fixed then ["F"] else []
  let kinds := own ++ (arguments.options.map GivenOption.name).filter fun name => ["E", "F", "G", "P"].contains name
  if kinds.any fun name => some name ≠ kinds.head? then fail 2 "conflicting matchers specified"
  let fixed := kind = some "F" || (kind.isNone && fixed)
  let dialect : Regex.Dialect :=
    { extended := kind = some "E" || (kind.isNone && extended) }
  let folds := arguments.last? ["i", "y", "no-ignore-case"]
  let foldsCase := folds.any (· ≠ "no-ignore-case")
  let lines := texts.flatMap fun text => text.splitOn "\n"
  let ordered ← if kind = some "P" then some <$> orderedSearch arguments foldsCase lines else pure none
  let regexes ← lines.mapM fun text => do
    if ordered.isSome then return .empty
    if fixed then return Regex.ofText text
    match Regex.read dialect text with
    | .ok (regex, _) => return regex
    | .error fault => fail 2 fault.message
  let around ← contextCount arguments "C"
  let before ← contextCount arguments "B"
  let after ← contextCount arguments "A"
  let most ← match arguments.value? "m" with
    | none => pure none
    | some text =>
      match text.toNat? with
      | some count => pure (some count)
      | none => fail 2 "invalid max count"
  let recursive := searchesWithin arguments
  let binary := arguments.value? "binary-files"
  if binary.any fun kind => !(["binary", "text", "without-match"].contains kind) then
    fail 2 "unknown binary-files type"
  if (arguments.value? "D").any fun kind => kind ≠ "read" && kind ≠ "skip" then fail 2 "unknown devices method"
  let paths ← searchedFiles arguments operands
  let plan : Plan := {
    regexes, ordered, foldsCase
    words := arguments.has "w"
    whole
    inverted := arguments.has "v"
    counts := arguments.has "c"
    namesFound := arguments.has "l" && arguments.last? ["l", "L"] = some "l"
    namesMissing := arguments.has "L" && arguments.last? ["l", "L"] = some "L"
    quiet := arguments.has "q" || arguments.has "silent"
    onlyMatches := arguments.has "o"
    numbers := arguments.has "n"
    offsets := arguments.has "b"
    named := match arguments.last? ["H", "h"] with
      | some name => name = "H"
      | none => 1 < operands.length || recursive
    asText := arguments.has "a" || binary = some "text"
    skipsBinary := arguments.has "I" || binary = some "without-match"
    zeroAfterName := arguments.has "Z"
    most
    before := (before.orElse fun _ => around).getD 0
    after := (after.orElse fun _ => around).getD 0
    hasContext := (before.isSome || after.isSome) || around.isSome
    last := if arguments.has "z" then '\x00' else '\n'
    label := (arguments.value? "label").getD "(standard input)"
    separator := if arguments.has "no-group-separator" then none
      else some ((arguments.value? "group-separator").getD "--")
    colors := ((arguments.value? "color").orElse fun _ => arguments.value? "colour").any fun choice =>
      ["always", "yes", "force"].contains choice
    tabs := arguments.has "T" }
  let output : Option FileId ← match ← ask (.inspectOpen 1) with
    | .ok { sort := .plain, id, .. } => pure (some id)
    | _ => pure none
  let mayLoop := !plan.quiet && !plan.counts && !plan.namesFound && !plan.namesMissing && plan.most.all (1 < ·)
  let mut outcome : Tally := {}
  for path in paths do
    let error ← match ← openInput path with
      | .error error => pure (some error)
      | .ok descriptor =>
        let (isDirectory, isOutput) ← match ← ask (.inspectOpen descriptor) with
          | .ok { sort := .directory, .. } => pure (true, false)
          | .ok { id, sort := .plain, .. } => pure (false, descriptor ≠ 0 && mayLoop && output = some id)
          | _ => pure (false, false)
        if isOutput then
          closeInput descriptor
          outcome := { outcome with failed := true }
          if !arguments.has "s" then
            flush
            report (path ++ ": input file is also the output")
          continue
        if isDirectory && arguments.value? "d" = some "skip" then
          closeInput descriptor
          continue
        let (next, error) ← searchFile plan path descriptor outcome
        closeInput descriptor
        outcome := next
        pure error
    match error with
    | none => pure ()
    | some error =>
      outcome := { outcome with failed := true }
      if !arguments.has "s" then
        flush
        report (path ++ ": " ++ error.text)
  quit (if outcome.failed then 2 else if outcome.found then 0 else 1)

end ToolM

end Shell.Machine
