import Shell.Machine.CharSet
import Shell.Machine.Tools.Plain

/-! # Programs for text

Programs that read files, or their input if none is named, and write what they make of the lines or the bytes in them.
-/

namespace Shell.Machine.ToolM

/-- Reads one input after another. An input that cannot be opened or read is reported. -/
def forInputs (paths : List String) (refuse : String → Bool → SystemError → ToolM Unit)
    (read : String → Nat → ToolM (Option SystemError)) : ToolM Unit := do
  for path in if paths.isEmpty then ["-"] else paths do
    match ← openInput path with
    | .error error => refuse path false error
    | .ok descriptor =>
      let error ← read path descriptor
      closeInput descriptor
      match error with
      | some error => refuse path true error
      | none => pure ()

/-- Reports an input by its name. -/
def refuseInput (path : String) (_ : Bool) (error : SystemError) : ToolM Unit :=
  complain (Quote.ifNeeded path ++ ": " ++ error.text)

/-- Reports an input at more length. -/
def refuseReading (path : String) (opened : Bool) (error : SystemError) : ToolM Unit :=
  complain (if opened then "error reading " ++ Quote.always path ++ ": " ++ error.text
    else "cannot open " ++ Quote.always path ++ " for reading: " ++ error.text)

/-- All lines of some inputs, without their ends. -/
def allLines (last : Char) (paths : List String)
    (refuse : String → Bool → SystemError → ToolM Unit) : ToolM (List String) := do
  let mut lines := []
  for path in if paths.isEmpty then ["-"] else paths do
    match ← openInput path with
    | .error error => refuse path false error
    | .ok descriptor =>
      let (text, error) ← readAll descriptor
      closeInput descriptor
      let more := text.splitOn (String.singleton last)
      let more := if more.getLast? = some "" then more.dropLast else more
      lines := lines ++ [more]
      match error with
      | some error => refuse path true error
      | none => pure ()
  return lines.flatten

/-- The count that a text names, which may have a sign that says from where to count. -/
structure CountFrom where
  count : Nat
  /-- Whether the text has a sign, and which. -/
  sign : Option Char
deriving Repr, DecidableEq, Inhabited

/-- What a letter after a number multiplies it by. -/
def multiplier? : List Char → Option Nat
  | [] => some 1
  | ['b'] => some 512
  | ['k', 'B'] => some 1000
  | ['k'] | ['K'] | ['K', 'i', 'B'] => some 1024
  | ['M', 'B'] => some 1000000
  | ['M'] | ['M', 'i', 'B'] => some 1048576
  | _ => none

def countFrom? (text : String) : Option CountFrom := do
  let (sign, chars) := match text.toList with
    | '-' :: rest => (some '-', rest)
    | '+' :: rest => (some '+', rest)
    | chars => (none, chars)
  let (value, count, rest) := Numeral.digits 10 chars.length 0 0 chars
  if count = 0 then none
  else return { count := value * (← multiplier? rest), sign }

/-- Turns a number in the place of an option into an option. -/
def expandNumber (first : String → Bool) (arguments : List String) : List String :=
  match arguments with
  | text :: rest =>
    if first text then "-n" :: (text.drop 1).toString :: rest else text :: rest
  | [] => []

/-- True for a hyphen and digits. -/
def isNumberOption (text : String) : Bool :=
  match text.toList with
  | '-' :: digits => !digits.isEmpty && digits.all Char.isDigit
  | _ => false

/-! ## Whole files -/

/-- How lines are shown. -/
structure LineStyle where
  numbers : Bool := false
  numbersFilled : Bool := false
  ends : Bool := false
  tabs : Bool := false
  unseen : Bool := false
  squeezes : Bool := false

/-- A character with marks for what cannot be seen. -/
def visible (style : LineStyle) (c : Char) : String :=
  if c = '\t' then (if style.tabs then "^I" else "\t")
  else if c = '\n' || !style.unseen then String.singleton c
  else
    let low (code : Nat) : String :=
      if code < 32 then "^" ++ String.singleton (Char.ofNat (code + 64))
      else if code = 127 then "^?" else String.singleton (Char.ofNat code)
    if c.toNat < 128 then low c.toNat else "M-" ++ low (c.toNat - 128)

/-- Shows a line. The state is the number of the last line and how many empty ones came last. -/
def showLine (style : LineStyle) (line : String) (state : Nat × Nat) : ToolM (Bool × Nat × Nat) := do
  let (number, empties) := state
  let isEmpty := line = "\n"
  if style.squeezes && isEmpty && 1 ≤ empties then return (true, number, empties + 1)
  let counts := style.numbers && !(style.numbersFilled && isEmpty)
  let number := if counts then number + 1 else number
  let start := if counts then Numeral.padLeft 6 ' ' (toString number) ++ "\t" else ""
  let body := String.join ((withoutEnd '\n' line).toList.map (visible style))
  let finish := if line.endsWith "\n" then (if style.ends then "$\n" else "\n") else ""
  print (start ++ body ++ finish)
  return (true, number, if isEmpty then empties + 1 else 0)

/-- Writes files one after another. -/
def cat : ToolM Unit := do
  let arguments ← readArguments 1 false
    ["A,show-all", "b,number-nonblank", "e,", "E,show-ends", "n,number", "s,squeeze-blank", "t,",
      "T,show-tabs", "u,", "v,show-nonprinting"]
  let all := arguments.has "A"
  let style : LineStyle := {
    numbers := arguments.has "n" || arguments.has "b"
    numbersFilled := arguments.has "b"
    ends := all || arguments.has "e" || arguments.has "E"
    tabs := all || arguments.has "t" || arguments.has "T"
    unseen := all || arguments.has "e" || arguments.has "t" || arguments.has "v"
    squeezes := arguments.has "s" }
  let isPlain := arguments.options.all fun option => option.name = "u"
  let mut state := (0, 0)
  for path in if arguments.operands.isEmpty then ["-"] else arguments.operands do
    match ← openInput path with
    | .error error => refuseInput path false error
    | .ok descriptor =>
      let error ←
        if isPlain then
          let (_, error) ← forPieces descriptor
            (fun piece _ => do
              printNow (Octets.ofBytes piece)
              return (true, ()))
            patience ()
          pure error
        else
          let (after, error) ← forLines descriptor newline (showLine style) patience state
          state := after
          pure error
      closeInput descriptor
      match error with
      | some error => refuseInput path true error
      | none => pure ()

/-- Writes the input and also puts it into files. -/
def tee : ToolM Unit := do
  let arguments ← readArguments 1 false ["a,append", "i,ignore-interrupts", "p,"]
  let append := arguments.has "a"
  let mut outputs := []
  for path in arguments.operands do
    match ← ask (.openFile path
        { write := true, create := true, truncate := !append, append } 0o666) with
    | .ok descriptor => outputs := outputs ++ [descriptor]
    | .error error => complain (Quote.ifNeeded path ++ ": " ++ error.text)
  let descriptors := outputs
  let (_, error) ← forPieces 0
    (fun piece _ => do
      printNow (Octets.ofBytes piece)
      for descriptor in descriptors do
        discard (ask (.write descriptor piece))
      return (true, ()))
    patience ()
  match error with
  | some error => complain ("read error: " ++ error.text)
  | none => return

/-! ## Parts of files -/

def heading (isFirst : Bool) (path : String) : String :=
  (if isFirst then "" else "\n") ++ "==> " ++ (if path = "-" then "standard input" else path) ++ " <==\n"

def hasHeadings (arguments : Arguments) : Bool :=
  match arguments.last? ["q", "v"] with
  | some "q" => false
  | some _ => true
  | none => 1 < arguments.operands.length

/-- Writes so many lines from the start. A pipe is read in larger pieces. -/
def headLines (descriptor count : Nat) : ToolM (Option SystemError) := do
  if count = 0 then return none
  let isPipe : Bool ← match ← ask (.inspectOpen descriptor) with
    | .ok info => pure (info.sort = .pipe)
    | .error _ => pure false
  if isPipe then
    let (_, error) ← forPieces descriptor
      (fun piece left => do
        let lines := (Octets.ofBytes piece).splitOn "\n"
        let ended := lines.length - 1
        if ended < left then
          print (Octets.ofBytes piece)
          return (true, left - ended)
        else
          print (String.join ((lines.take left).map (· ++ "\n")))
          return (false, 0))
      patience count
    return error
  else
    let (_, error) ← forLines descriptor newline
      (fun line left => do
        print line
        return (1 < left, left - 1))
      patience count
    return error

/-- Writes so many bytes from the start. -/
def headBytes (descriptor : Nat) : Nat → Nat → ToolM (Option SystemError)
  | 0, _ => return none
  | _, 0 => return none
  | fuel + 1, count => do
    match ← ask (.read descriptor (min count maxRead)) with
    | .error error => return some error
    | .ok bytes =>
      if bytes.isEmpty then return none
      print (Octets.ofBytes bytes)
      headBytes descriptor fuel (count - bytes.size)

/-- Writes the starts of files. -/
def head : ToolM Unit := do
  modify fun tool => { tool with arguments := expandNumber isNumberOption tool.arguments }
  let arguments ← readArguments 1 false
    ["n,lines,:", "c,bytes,:", "q,quiet", "v,verbose", "z,zero-terminated", ",silent"]
  let unit := (arguments.last? ["n", "c"]).getD "n"
  let text := (arguments.value? unit).getD "10"
  let some count := countFrom? text
    | fail 1 ("invalid number of " ++ (if unit = "n" then "lines" else "bytes") ++ ": " ++ Quote.text text)
  let names := hasHeadings arguments
  let mut isFirst := true
  for path in if arguments.operands.isEmpty then ["-"] else arguments.operands do
    match ← openInput path with
    | .error error => refuseReading path false error
    | .ok descriptor =>
      if names then print (heading isFirst path)
      isFirst := false
      let error ←
        if count.sign = some '-' then
          let (text, error) ← readAll descriptor
          if unit = "c" then print (text.take (text.length - count.count)).toString
          else
            let lines := text.splitOn "\n"
            let whole := lines.dropLast.map (· ++ "\n") ++
              (lines.getLast?.filter fun line => !line.isEmpty).toList
            print (String.join (whole.take (whole.length - count.count)))
          pure error
        else if unit = "c" then headBytes descriptor patience count.count
        else headLines descriptor count.count
      closeInput descriptor
      match error with
      | some error => refuseReading path true error
      | none => pure ()

/-- Writes the ends of files. -/
def tail : ToolM Unit := do
  modify fun tool =>
    let isPlus (text : String) : Bool :=
      match text.toList with
      | '+' :: digits => !digits.isEmpty && digits.all Char.isDigit
      | _ => false
    match tool.arguments with
    | text :: rest =>
      if isPlus text then { tool with arguments := "-n" :: text :: rest }
      else { tool with arguments := expandNumber isNumberOption (text :: rest) }
    | [] => tool
  let arguments ← readArguments 1 false
    ["n,lines,:", "c,bytes,:", "q,quiet", "v,verbose", "f,follow,?", "z,zero-terminated", ",silent",
      "F,", "s,sleep-interval,:", ",pid,:"]
  let unit := (arguments.last? ["n", "c"]).getD "n"
  let text := (arguments.value? unit).getD "10"
  let some count := countFrom? text
    | fail 1 ("invalid number of " ++ (if unit = "n" then "lines" else "bytes") ++ ": " ++ Quote.text text)
  let fromStart := count.sign = some '+'
  let names := hasHeadings arguments
  let mut isFirst := true
  for path in if arguments.operands.isEmpty then ["-"] else arguments.operands do
    match ← openInput path with
    | .error error => refuseReading path false error
    | .ok descriptor =>
      if names then print (heading isFirst path)
      isFirst := false
      let (text, error) ← readAll descriptor
      closeInput descriptor
      match error with
      | some error => refuseReading path true error
      | none =>
        if unit = "c" then
          let dropped := if fromStart then count.count - 1 else text.length - count.count
          print (text.drop dropped).toString
        else
          let lines := text.splitOn "\n"
          let whole := lines.dropLast.map (· ++ "\n") ++
            (lines.getLast?.filter fun line => !line.isEmpty).toList
          let dropped := if fromStart then count.count - 1 else whole.length - count.count
          print (String.join (whole.drop dropped))

/-! ## Counting -/

/-- What is counted in a file. -/
structure Counts where
  lines : Nat := 0
  words : Nat := 0
  bytes : Nat := 0
  longest : Nat := 0
deriving Repr, DecidableEq, Inhabited

namespace Counts

def add (one other : Counts) : Counts :=
  { lines := one.lines + other.lines, words := one.words + other.words
    bytes := one.bytes + other.bytes, longest := max one.longest other.longest }

/-- Counts the words of a text. Only characters that are seen make up words. -/
def wordsOf : Nat → Bool → List Char → Nat
  | sofar, inWord, [] => if inWord then sofar + 1 else sofar
  | sofar, inWord, c :: rest =>
    if Numeral.isBlank c then wordsOf (if inWord then sofar + 1 else sofar) false rest
    else wordsOf sofar (inWord || SetMember.isGraphic c) rest

/-- The width of a line after so many characters, the greatest first. -/
def widthsOf : Nat × Nat → List Char → Nat
  | (greatest, width), [] => max greatest width
  | (greatest, width), c :: rest =>
    if c = '\n' || c = '\r' || c = '\x0c' then widthsOf (max greatest width, 0) rest
    else if c = '\t' then widthsOf (greatest, width + 8 - width % 8) rest
    else widthsOf (greatest, if ' ' ≤ c && c ≤ '~' then width + 1 else width) rest

def ofText (text : String) : Counts :=
  let chars := text.toList
  { lines := chars.countP (· = '\n'), words := wordsOf 0 false chars, bytes := chars.length
    longest := widthsOf (0, 0) chars }

def shown (arguments : Arguments) (counts : Counts) : List Nat :=
  let picks := ["l", "w", "c", "m", "L"].filter arguments.has
  let picks := if picks.isEmpty then ["l", "w", "c"] else picks
  ["l", "w", "m", "c", "L"].filterMap fun name =>
    if !picks.contains name then none
    else
      some (match name with
        | "l" => counts.lines
        | "w" => counts.words
        | "L" => counts.longest
        | _ => counts.bytes)

end Counts

def digitCount (value : Nat) : Nat := (toString value).length

/-- How wide counts are written. -/
def countWidth (arguments : Arguments) (paths : List String) : ToolM Nat := do
  if paths.length = 1 && (Counts.shown arguments {}).length = 1 then return 1
  let mut total := 0
  let mut least := 1
  for path in paths do
    let info ← if path = "-" then ask (.inspectOpen 0) else ask (.inspect path true)
    match info with
    | .ok info => if info.sort = .plain then total := total + info.size else least := 7
    | .error _ => pure ()
  return max least (digitCount total)

/-- Counts lines, words and bytes. -/
def wc : ToolM Unit := do
  let arguments ← readArguments 1 false
    ["l,lines", "w,words", "c,bytes", "m,chars", "L,max-line-length", ",files0-from,:"]
  let paths := if arguments.operands.isEmpty then ["-"] else arguments.operands
  let width ← countWidth arguments paths
  let line (counts : Counts) (name : String) : String :=
    " ".intercalate ((counts.shown arguments).map fun n => Numeral.padLeft width ' ' (toString n)) ++
      (if name.isEmpty then "" else " " ++ name) ++ "\n"
  let mut total : Counts := {}
  for path in paths do
    match ← openInput path with
    | .error error => refuseInput path false error
    | .ok descriptor =>
      let (text, error) ← readAll descriptor
      closeInput descriptor
      match error with
      | some error => refuseInput path true error
      | none => pure ()
      let counts := Counts.ofText text
      total := total.add counts
      print (line counts (if arguments.operands.isEmpty then "" else path))
  if 1 < paths.length then print (line total "total")

/-! ## Comparing -/

/-- Compares two files byte by byte. -/
def cmp : ToolM Unit := do
  let arguments ← readArguments 2 false ["s,quiet", "l,verbose", "b,print-bytes", "i,ignore-initial,:",
    "n,bytes,:", ",silent"]
  let (one, other) ← match arguments.operands with
    | [] =>
      let name := (← get).name
      report ("missing operand after " ++ Quote.text name)
      report ("Try '" ++ name ++ " --help' for more information.")
      abort 2
    | [one] => pure (one, "-")
    | one :: other :: _ => pure (one, other)
  let read (path : String) : ToolM String := do
    match ← openInput path with
    | .error error => fail 2 (path ++ ": " ++ error.text)
    | .ok descriptor =>
      let (text, error) ← readAll descriptor
      closeInput descriptor
      match error with
      | some error => fail 2 (path ++ ": " ++ error.text)
      | none => return text
  let left ← read one
  let right ← read other
  if left = right then return
  status 1
  if arguments.has "s" || arguments.has "silent" then return
  let pairs := left.toList.zip right.toList
  let same := (pairs.takeWhile fun pair => pair.1 = pair.2).map (·.1)
  let lines := same.countP (· = '\n')
  let shortest := pairs.length
  let name := if left.length < right.length then one else other
  let isCut := left.length ≠ right.length
  if arguments.has "l" then
    let width := (toString (max left.length right.length)).length
    let octal (c : Char) : String := Numeral.padLeft 3 ' ' (Numeral.inBase 8 c.toNat)
    for ((a, b), place) in pairs.zipIdx do
      if a ≠ b then
        print (Numeral.padLeft width ' ' (toString (place + 1)) ++ " " ++ octal a ++ " " ++ octal b ++ "\n")
    if isCut then
      flush
      report ("EOF on " ++ name ++
        (if shortest = 0 then " which is empty" else " after byte " ++ toString shortest))
  else if same.length < shortest then
    print (one ++ " " ++ other ++ " differ: char " ++ toString (same.length + 1) ++ ", line " ++
      toString (lines + 1) ++ "\n")
  else if shortest = 0 then report ("EOF on " ++ name ++ " which is empty")
  else
    let place := if same.getLast? = some '\n' then ", line " ++ toString lines
      else ", in line " ++ toString (lines + 1)
    report ("EOF on " ++ name ++ " after byte " ++ toString shortest ++ place)

/-! ## Columns -/

/-- Parts of lines that are picked, by first and last number. -/
abbrev Ranges := List (Nat × Option Nat)

/-- Why a text names no ranges. -/
inductive RangeError where
  | zero
  | decreasing
  | endless
  | doubled
  | notANumber (text : String)
deriving Repr, DecidableEq, Inhabited

/-- What is reported of an error in ranges of fields or of characters. -/
def RangeError.message (isFields : Bool) : RangeError → String
  | .zero => (if isFields then "fields" else "byte/character positions") ++ " are numbered from 1"
  | .decreasing => "invalid decreasing range"
  | .endless => "invalid range with no endpoint: -"
  | .doubled => if isFields then "invalid field range" else "invalid byte or character range"
  | .notANumber text =>
    "invalid " ++ (if isFields then "field value " else "byte/character position ") ++ Quote.text text

/-- Reads one range: a number, or two with a hyphen between them, one of which may be missing. -/
def readRange (text : String) : Except RangeError (Nat × Option Nat) :=
  let number (piece : String) : Option Nat :=
    if piece.all Char.isDigit then piece.toNat? else none
  match text.splitOn "-" with
  | [""] => .error .zero
  | [one] =>
    match number one with
    | none => .error (.notANumber text)
    | some 0 => .error .zero
    | some value => .ok (value, some value)
  | ["", ""] => .error .endless
  | [one, other] =>
    match if one.isEmpty then some 1 else number one, if other.isEmpty then some none else (number other).map some with
    | some 0, _ => .error .zero
    | some low, some none => .ok (low, none)
    | some low, some (some high) => if high < low then .error .decreasing else .ok (low, some high)
    | _, _ => .error (.notANumber text)
  | _ => .error .doubled

/-- Reads ranges with commas or blanks between them. -/
def readRanges (text : String) : Except RangeError Ranges :=
  let parts := (text.splitOn ",").flatMap fun part => part.splitOn " "
  parts.mapM readRange

/-- True when a number is in one of some ranges. -/
def inRanges (ranges : Ranges) (number : Nat) : Bool :=
  ranges.any fun (low, high) => low ≤ number && high.all fun high => number ≤ high

/-- Writes parts of lines. -/
def cut : ToolM Unit := do
  let arguments ← readArguments 1 false
    ["b,bytes,:", "c,characters,:", "f,fields,:", "d,delimiter,:", "s,only-delimited", "n,",
      ",complement", ",output-delimiter,:", "z,zero-terminated"]
  let kinds := ["b", "c", "f"].filter arguments.has
  let kind ← match kinds with
    | [] => misuse 1 "you must specify a list of bytes, characters, or fields"
    | [kind] => pure kind
    | _ => misuse 1 "only one list may be specified"
  let text := (arguments.value? kind).getD ""
  let isFields := kind = "f"
  let ranges ← match readRanges text with
    | .ok ranges => pure ranges
    | .error error => misuse 1 (error.message isFields)
  if arguments.has "d" && !isFields then
    misuse 1 "an input delimiter may be specified only when operating on fields"
  let delimiter := (arguments.value? "d").getD "\t"
  if 1 < delimiter.length then misuse 1 "the delimiter must be a single character"
  let joiner := (arguments.value? "output-delimiter").getD delimiter
  let isPicked (number : Nat) : Bool := inRanges ranges number != arguments.has "complement"
  let pick {α : Type} (items : List α) : List α :=
    (items.zipIdx.filter fun (_, place) => isPicked (place + 1)).map (·.1)
  forInputs arguments.operands refuseInput fun _ descriptor => do
    let (_, error) ← forLines descriptor newline
      (fun line _ => do
        let body := withoutEnd '\n' line
        if isFields then
          if delimiter.isEmpty || !body.contains (delimiter.toList.headD '\t') then
            if !arguments.has "s" then print (body ++ "\n")
          else print (joiner.intercalate (pick (body.splitOn delimiter)) ++ "\n")
        else print (String.ofList (pick body.toList) ++ "\n")
        return (true, ()))
      patience ()
    return error

/-- The texts that come between columns in turn. A backslash and a zero stand for none. -/
def delimitersOf : List Char → List String
  | [] => []
  | '\\' :: c :: rest =>
    (match c with
    | '0' => ""
    | 'b' => "\x08"
    | 'f' => "\x0c"
    | 'n' => "\n"
    | 'r' => "\r"
    | 't' => "\t"
    | 'v' => "\x0b"
    | _ => String.singleton c) :: delimitersOf rest
  | c :: rest => String.singleton c :: delimitersOf rest

/-- Puts lines side by side. -/
def pasteLines (delimiters : List String) (columns : List (List String)) : List String :=
  let height := (columns.map List.length).foldl max 0
  let separators := if delimiters.isEmpty then [""] else delimiters
  (List.range height).map fun row =>
    let cells := columns.map fun column => (column[row]?).getD ""
    joinCells separators 0 cells
where
  /-- Joins cells with the separators in turn. -/
  joinCells (separators : List String) : Nat → List String → String
    | _, [] => ""
    | _, [cell] => cell
    | place, cell :: rest =>
      cell ++ (separators.getD (place % separators.length) "") ++ joinCells separators (place + 1) rest

/-- Writes the lines of files side by side. -/
def paste : ToolM Unit := do
  let arguments ← readArguments 1 false ["d,delimiters,:", "s,serial", "z,zero-terminated"]
  let given := (arguments.value? "d").getD "\t"
  let isHanging := (given.toList.reverse.takeWhile (· = '\\')).length % 2 = 1
  if isHanging then fail 1 ("delimiter list ends with an unescaped backslash: " ++ Quote.text given)
  let delimiters := delimitersOf given.toList
  let refuse (path : String) (_ : Bool) (error : SystemError) : ToolM Unit :=
    fail 1 (Quote.ifNeeded path ++ ": " ++ error.text)
  let paths := if arguments.operands.isEmpty then ["-"] else arguments.operands
  let inputs := (paths.filter (· = "-")).length
  let own ← if inputs = 0 then pure [] else allLines '\n' ["-"] refuse
  let mut columns := []
  let mut seen := 0
  for path in paths do
    if path = "-" && 1 < inputs && !arguments.has "s" then
      let turn := seen
      let mine := (own.zipIdx.filter fun (_, place) => place % inputs = turn).map (·.1)
      columns := columns ++ [mine]
      seen := seen + 1
    else if path = "-" then columns := columns ++ [own]
    else columns := columns ++ [← allLines '\n' [path] refuse]
  if arguments.has "s" then
    for column in columns do
      print (String.join ((pasteLines delimiters (column.map fun cell => [cell])).map (· ++ "\n")))
  else
    print (String.join ((pasteLines delimiters columns).map (· ++ "\n")))

/-! ## Single characters -/

/-- A set of characters as `tr` reads it: characters in order, the last of which may be repeated to fill up. -/
structure CharList where
  chars : List Char := []
  /-- Where characters are repeated as often as it takes: their place and which one. -/
  filler : Option (Nat × Char) := none
deriving Inhabited

def classChars (name : String) : Option (List Char) :=
  if (SetMember.inClass? name 'a').isNone then none
  else some (((List.range 256).map Char.ofNat).filter fun c => (SetMember.named name).contains c)

/-- A text as characters, where a backslash has taken the meaning from some. -/
def markEscapes : Nat → List Char → List (Char × Bool)
  | 0, _ => []
  | _, [] => []
  | fuel + 1, c :: rest =>
    if c ≠ '\\' then (c, false) :: markEscapes fuel rest
    else
      match rest with
      | [] => [('\\', false)]
      | d :: _ =>
        match Escape.replace {} rest with
        | .text [e] after =>
          if d = 'e' then ('e', true) :: markEscapes fuel (rest.drop 1)
          else (e, true) :: markEscapes fuel after
        | _ => (d, true) :: markEscapes fuel (rest.drop 1)

/-- The characters from one to another. -/
def charsBetween (low high : Char) : List Char :=
  (List.range (high.toNat + 1 - low.toNat)).map fun n => Char.ofNat (low.toNat + n)

/-- Reads a set of characters. Errors are reports. -/
def readChars : Nat → CharList → List (Char × Bool) → Except String CharList
  | 0, list, _ => .ok list
  | _, list, [] => .ok list
  | fuel + 1, list, (c, quoted) :: rest =>
    let add (chars : List Char) : CharList := { list with chars := list.chars ++ chars }
    let inner (stop : Char) (items : List (Char × Bool)) : Option (String × List (Char × Bool)) :=
      let (name, after) := items.span fun item => item.1 ≠ stop
      match after with
      | _ :: (d, _) :: after => if d = ']' then some (String.ofList (name.map (·.1)), after) else none
      | _ => none
    let bracket : Option (Except String (CharList × List (Char × Bool))) :=
      if c ≠ '[' || quoted then none
      else
        match rest with
        | (':', false) :: items =>
          (inner ':' items).map fun (name, after) =>
            match classChars name with
            | some chars => .ok (add chars, after)
            | none => .error ("invalid character class " ++ Quote.text name)
        | ('=', false) :: items =>
          (inner '=' items).map fun (name, after) => .ok (add name.toList, after)
        | (d, _) :: ('*', false) :: items =>
          let (digits, after) := items.span fun item => item.1.isDigit
          match after with
          | (']', _) :: after =>
            let text := String.ofList (digits.map (·.1))
            let count := if text.startsWith "0" then (Numeral.readInt (some 8) text).value.toNat
              else text.toNat?.getD 0
            some (.ok (if count = 0 then { list with filler := some (list.chars.length, d) }
              else add (List.replicate count d), after))
          | _ => none
        | _ => none
    match bracket with
    | some (.ok (list, after)) => readChars fuel list after
    | some (.error text) => .error text
    | none =>
      match rest with
      | ('-', false) :: (d, _) :: after =>
        if d < c then
          .error ("range-endpoints of '" ++ String.ofList [c, '-', d] ++
            "' are in reverse collating sequence order")
        else readChars fuel (add (charsBetween c d)) after
      | _ => readChars fuel (add [c]) rest

/-- The characters of a set, made so long if it can be. -/
def CharList.fill (length : Nat) (list : CharList) : List Char :=
  match list.filler with
  | none => list.chars
  | some (place, c) =>
    list.chars.take place ++ List.replicate (length - list.chars.length) c ++ list.chars.drop place

/-- A set of characters that an argument names. -/
def charsOf (text : String) : ToolM CharList := do
  match readChars (text.length + 1) {} (markEscapes (text.length + 1) text.toList) with
  | .ok list => return list
  | .error report => fail 1 report

/-- Writes the input with characters replaced, removed, or not repeated. -/
def tr : ToolM Unit := do
  let arguments ← readArguments 1 true
    ["c,complement", "C,", "d,delete", "s,squeeze-repeats", "t,truncate-set1"]
  let operands := arguments.operands
  let deletes := arguments.has "d"
  let squeezes := arguments.has "s"
  let least := if deletes = squeezes then 2 else 1
  let most := if deletes && !squeezes then 1 else 2
  let also (text : String) : ToolM Unit := do
    discard (ask (.write 2 (Octets.toBytes (text ++ "\n"))))
  if operands.length < least then
    match operands.getLast? with
    | none => missingOperand
    | some last =>
      report ("missing operand after " ++ Quote.text last)
      also (if squeezes then "Two strings must be given when both deleting and squeezing repeats."
        else "Two strings must be given when translating.")
      advise 1
  if most < operands.length then
    report ("extra operand " ++ Quote.text (operands.getD most ""))
    if operands.length = 2 then
      also "Only one string may be given when deleting without squeezing repeats."
    advise 1
  let one ← charsOf (operands.headD "")
  let complement := arguments.has "c" || arguments.has "C"
  let chars := if complement
    then ((List.range 256).map Char.ofNat).filter fun c => !one.chars.contains c
    else one.fill 0
  let second ← match operands[1]? with
    | none => pure none
    | some text => pure (some (← charsOf text))
  let translates := !deletes && second.isSome
  let targets := (second.map fun list => list.fill chars.length).getD []
  if translates && targets.isEmpty && !arguments.has "t" then
    fail 1 "when not truncating set1, string2 must be non-empty"
  let map := if !translates then []
    else
      let last := targets.getLastD ' '
      let filled := targets ++ List.replicate (chars.length - targets.length) last
      (if arguments.has "t" then chars.zip targets else chars.zip filled)
  let table : Array Char := ((List.range 256).map fun code =>
    let c := Char.ofNat code
    ((map.reverse.lookup c).getD c)).toArray
  let squeezed := if !squeezes then []
    else if second.isSome then targets else chars
  let (_, error) ← forPieces 0
    (fun piece (before : Option Char) => do
      let kept := (Octets.ofBytes piece).toList.filter fun c => !(deletes && chars.contains c)
      let mapped := if translates then kept.map fun c => table.getD c.toNat c else kept
      let (text, before) := mapped.foldl
        (fun (text, before) c =>
          if some c = before && squeezed.contains c then (text, before)
          else (c :: text, some c))
        (([] : List Char), before)
      print (String.ofList text.reverse)
      return (true, before))
    patience none
  match error with
  | some error => fail 1 ("read error: " ++ error.text)
  | none => return

/-! ## Bytes by number -/

/-- How a group of bytes is written. -/
inductive DumpFormat where
  | char
  | named
  | number (base bytes : Nat) (signed : Bool)
deriving Repr, DecidableEq, Inhabited

/-- A byte as a character or an escape. -/
def dumpChar (c : Char) : String :=
  match c with
  | '\x00' => "\\0"
  | '\x07' => "\\a"
  | '\x08' => "\\b"
  | '\t' => "\\t"
  | '\n' => "\\n"
  | '\x0b' => "\\v"
  | '\x0c' => "\\f"
  | '\r' => "\\r"
  | _ => if ' ' ≤ c && c ≤ '~' then String.singleton c
    else Numeral.padLeft 3 '0' (Numeral.inBase 8 c.toNat)

/-- The names of the bytes that are not seen. -/
def byteNames : List String := [
  "nul", "soh", "stx", "etx", "eot", "enq", "ack", "bel", "bs", "ht", "nl", "vt", "ff", "cr", "so",
  "si", "dle", "dc1", "dc2", "dc3", "dc4", "nak", "syn", "etb", "can", "em", "sub", "esc", "fs", "gs",
  "rs", "us", "sp"]

/-- How wide a number of so many bytes is written. -/
def dumpWidth (base bytes : Nat) (signed : Bool) : Nat :=
  if base = 8 then (8 * bytes + 2) / 3
  else if base = 16 then 2 * bytes
  else (match bytes with
    | 1 => 3
    | 2 => 5
    | 4 => 10
    | _ => 20) + (if signed then 1 else 0)

/-- The cells of a line of bytes. -/
def dumpCells (format : DumpFormat) : Nat → List Char → List String
  | 0, _ => []
  | _, [] => []
  | fuel + 1, c :: rest =>
    match format with
    | .char => Numeral.padLeft 4 ' ' (dumpChar c) :: dumpCells format fuel rest
    | .named =>
      let code := c.toNat % 128
      let name := if code = 127 then "del" else byteNames.getD code (String.singleton (Char.ofNat code))
      Numeral.padLeft 4 ' ' name :: dumpCells format fuel rest
    | .number base bytes signed =>
      let group := (c :: rest).take bytes
      let value := group.reverse.foldl (fun value d => value * 256 + d.toNat) 0
      let limit := Nat.pow 256 bytes
      let width := dumpWidth base bytes signed
      let text :=
        if base = 10 then
          if signed && limit ≤ 2 * value then "-" ++ toString (limit - value) else toString value
        else Numeral.padLeft width '0' (Numeral.inBase base value)
      (" " ++ Numeral.padLeft width ' ' text) :: dumpCells format fuel ((c :: rest).drop bytes)

def dumpFormat? (text : String) : Option DumpFormat :=
  match text.toList with
  | ['c'] => some .char
  | ['a'] => some .named
  | kind :: size =>
    let bytes := match size with
      | [] => some 4
      | ['1'] | ['C'] => some 1
      | ['2'] | ['S'] => some 2
      | ['4'] | ['I'] => some 4
      | ['8'] | ['L'] => some 8
      | _ => none
    match kind with
    | 'x' => bytes.map fun bytes => .number 16 bytes false
    | 'o' => bytes.map fun bytes => .number 8 bytes false
    | 'u' => bytes.map fun bytes => .number 10 bytes false
    | 'd' => bytes.map fun bytes => .number 10 bytes true
    | _ => none
  | [] => none

/-- The lines for bytes, sixteen to a line. -/
def dumpLines (formats : List DumpFormat) (base : Option Nat) (showsAll : Bool) :
    Nat → Nat → Option (List Char) → Bool → List Char → List String
  | 0, _, _, _, _ => []
  | fuel + 1, offset, before, starred, chars =>
    let address (offset : Nat) : String :=
      match base with
      | none => ""
      | some base =>
        Numeral.padLeft (if base = 16 then 6 else 7) '0' (Numeral.inBase base offset)
    if chars.isEmpty then
      if base.isNone then [] else [address offset ++ "\n"]
    else
      let line := chars.take 16
      let rest := chars.drop 16
      if !showsAll && some line = before && line.length = 16 && !rest.isEmpty then
        (if starred then [] else ["*\n"]) ++
          dumpLines formats base showsAll fuel (offset + 16) before true rest
      else
        let shown := formats.mapIdx fun place format =>
          let start := if place = 0 then address offset else "".pushn ' ' (address offset).length
          start ++ String.join (dumpCells format 17 line) ++ "\n"
        shown ++ dumpLines formats base showsAll fuel (offset + line.length) (some line) false rest

/-- Writes bytes by number. -/
def od : ToolM Unit := do
  let arguments ← readArguments 1 false
    ["A,address-radix,:", "t,format,:", "c,", "b,", "x,", "d,", "o,", "v,output-duplicates",
      "N,read-bytes,:", "j,skip-bytes,:", "a,", "w,width,?", "s,", "i,"]
  let formats ← arguments.options.filterMapM fun option => do
    match option.name with
    | "c" => return some DumpFormat.char
    | "a" => return some .named
    | "b" => return some (.number 8 1 false)
    | "x" => return some (.number 16 2 false)
    | "d" => return some (.number 10 2 false)
    | "o" => return some (.number 8 2 false)
    | "s" => return some (.number 10 2 true)
    | "i" => return some (.number 10 4 true)
    | "t" =>
      match dumpFormat? option.value with
      | some format => return some format
      | none => fail 1 ("invalid type string " ++ Quote.text option.value)
    | _ => return none
  let formats := if formats.isEmpty then [DumpFormat.number 8 2 false] else formats
  let base := match (arguments.value? "A").getD "o" with
    | "n" => none
    | "x" => some 16
    | "d" => some 10
    | _ => some 8
  let mut text := ""
  for path in if arguments.operands.isEmpty then ["-"] else arguments.operands do
    match ← openInput path with
    | .error error => refuseInput path false error
    | .ok descriptor =>
      let (more, error) ← readAll descriptor
      closeInput descriptor
      text := text ++ more
      match error with
      | some error => refuseInput path true error
      | none => pure ()
  let number (name : String) : Option Nat := (arguments.value? name).bind String.toNat?
  let skipped := (number "j").getD 0
  let chars := text.toList.drop skipped
  let chars := match number "N" with
    | some count => chars.take count
    | none => chars
  print (String.join (dumpLines formats base (arguments.has "v") (chars.length + 2) skipped none false chars))

end Shell.Machine.ToolM
