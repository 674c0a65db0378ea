import Shell.Machine.Tools.Perl.Matching
import Shell.Machine.Utility.Calendar
import Shell.Machine.Script.Pattern

/-! # Functions of general programs

The functions that are there from the beginning and only need the values of their arguments, and those of modules.
-/

namespace Shell.Machine.Perl.PerlM

/-! ## Texts -/

/-- The place of a text in another one from a place on, if it is there. -/
def placeOf (part : List Char) : Nat → List Char → Option Nat
  | place, [] => if part.isEmpty then some place else none
  | place, c :: rest =>
    if (c :: rest).take part.length = part then some place else placeOf part (place + 1) rest

/-- The last place of a text in another one that is not after a place. -/
def lastPlaceOf (part whole : List Char) : Nat → Option Nat
  | 0 => if whole.take part.length = part then some 0 else none
  | place + 1 =>
    if (whole.drop (place + 1)).take part.length = part then some (place + 1) else lastPlaceOf part whole place

/-- A text with its first letter changed. -/
def withFirst (change : Char → Char) (text : String) : String :=
  match text.toList with
  | [] => ""
  | c :: rest => String.ofList (change c :: rest)

/-- A text in which everything stands for itself in a pattern. -/
def quoted (text : String) : String :=
  String.ofList (text.toList.flatMap fun c =>
    if Reader.isNamePart c || 128 ≤ c.toNat then [c] else ['\\', c])

/-- Where a part of a text starts and stops, given where it should start and how long it should be. -/
def partPlaces (size : Nat) (start : Int) (length : Option Int) : Option (Nat × Nat) :=
  let first := if start < 0 then start + size else start
  let last := match length with
    | none => (size : Int)
    | some length => if length < 0 then size + length else first + length
  let first' := max first 0
  if (size : Int) < first || (first < 0 && last < 0) then none
  else
    let last := min (max last first') size
    some (first'.toNat, last.toNat)

/-- The number that digits of a base stand for, up to what is none. -/
def inBase (base : Nat) (text : List Char) : Value :=
  let digits := text.filter (· ≠ '_')
  let (value, _, _) := Numeral.digits base digits.length 0 0 digits
  Value.ofInt value

/-- The number that a text with or without a sign for its base stands for. -/
def octal (text : String) : Value :=
  match (text.trimAsciiStart).toString.toList with
  | '0' :: 'x' :: rest | '0' :: 'X' :: rest | 'x' :: rest | 'X' :: rest => inBase 16 rest
  | '0' :: 'b' :: rest | '0' :: 'B' :: rest | 'b' :: rest | 'B' :: rest => inBase 2 rest
  | '0' :: 'o' :: rest | 'o' :: rest => inBase 8 rest
  | rest => inBase 8 rest

/-! ## Time -/

/-- The parts of a moment, each as a number. -/
def momentParts (seconds : Int) : List Int :=
  let moment : Calendar.Moment := { seconds }
  let time := moment.secondOfDay
  let date := moment.date
  [time % 60, time / 60 % 60, time / 3600, date.day, (date.month : Int) - 1, date.year - 1900, moment.weekday,
    moment.dayOfYear, 0]

/-- The seconds since the beginning of 1970. -/
def seconds : PerlM Int := do
  let now : Nat ← ask .clock
  return (now / 1000000 : Nat)

/-- A moment as its parts or as a text. -/
def momentValues (want : Want) (arguments : List Value) : PerlM (Array Value) := do
  let time ← match arguments with
    | value :: _ => pure value.int
    | [] => seconds
  if want = .all then return ((momentParts time).map Value.whole).toArray
  else return #[.string (Calendar.format "%a %b %e %H:%M:%S %Y" { seconds := time })]

/-! ## Numbers by chance -/

def chanceModulus : Nat := 281474976710656

/-- Where the numbers by chance start. -/
def seeded (seed : Nat) : Nat := (seed % 4294967296 * 65536 + 13070) % chanceModulus

/-- The next number by chance that is less than a bound. -/
def random (bound : Float) : PerlM Value := do
  let before ← match ← look (·.chance) with
    | some chance => pure chance
    | none => do
      let now : Nat ← ask .clock
      pure (seeded now)
  let next := (before * 25214903917 + 11) % chanceModulus
  modify fun world => { world with chance := some next }
  return .decimal (bound * (Float.ofNat next / Float.ofNat chanceModulus))

/-! ## Files -/

/-- Whether the system did what it was asked to do. -/
def succeeded {α : Type} (result : Except SystemError α) : PerlM Bool := do
  match result with
  | .ok _ => return true
  | .error error =>
    noteError error
    return false

def testFile (letter : Char) (path : String) (handle : Option Nat) : PerlM Value := do
  let descriptor ← match handle with
    | some id => pure (← handleAt id).descriptor
    | none => pure none
  if letter = 't' then return .truth false
  let result : Except SystemError FileInfo ← match descriptor with
    | some descriptor => ask (.inspectOpen descriptor)
    | none => ask (.inspect path (letter ≠ 'l'))
  match result with
  | .error error =>
    noteError error
    return .undefined
  | .ok info =>
    let now ← seconds
    let days : Value := .decimal (Float.ofInt (now - (info.modified / 1000000 : Nat)) / 86400)
    return match letter with
      | 'd' => .truth (info.sort = .directory)
      | 'f' => .truth (info.sort = .plain)
      | 'l' => .truth (info.sort = .link)
      | 'p' => .truth (info.sort = .pipe)
      | 'c' => .truth (info.sort = .device)
      | 'b' | 'S' | 'u' | 'g' | 'k' => .truth false
      | 's' => if info.size = 0 then .truth false else .whole info.size
      | 'z' => .truth (info.size = 0)
      | 'x' | 'X' =>
        .truth (info.sort = .directory || [1, 8, 64].any fun bit => info.mode / bit % 2 = 1)
      | 'M' | 'A' | 'C' => days
      | _ => .truth true

/-- All that there is to know about a file. -/
def statusValues (path : String) (follow : Bool) : PerlM (Array Value) := do
  match ← ask (.inspect path follow) with
  | .error error =>
    noteError error
    return #[]
  | .ok info =>
    let kind := match info.sort with
      | .directory => 0o040000
      | .link => 0o120000
      | .device => 0o020000
      | .pipe => 0o010000
      | .plain => 0o100000
    let time := info.modified / 1000000
    return #[.whole 0, .ofNat 0, .ofNat (kind + info.mode), .ofNat info.names, .whole 0, .whole 0, .whole 0,
      .ofNat info.size, .ofNat time, .ofNat time, .ofNat time, .whole 4096, .ofNat ((info.size + 511) / 512)]

/-- The names that fit the parts of a path one after another. -/
def globFrom : Nat → String → List String → PerlM (List String)
  | 0, _, _ => return []
  | _, sofar, [] => return [sofar]
  | fuel + 1, sofar, part :: rest => do
    let join (name : String) : String :=
      if sofar = "" then name else if sofar.endsWith "/" then sofar ++ name else sofar ++ "/" ++ name
    if part = "" then globFrom fuel (if sofar = "" then "/" else sofar) rest
    else if !(part.toList.any fun c => "*?[".contains c) then
      let path := join part
      let known : Except SystemError FileInfo ← ask (.inspect path false)
      match known with
      | .ok _ => globFrom fuel path rest
      | .error _ => return []
    else
      match ← ask (.list (if sofar = "" then "." else sofar)) with
      | .error _ => return []
      | .ok names =>
        let names := (names.filter fun name => Wildcard.fitsName part name && name ≠ "." && name ≠ "..").mergeSort
        let found ← names.mapM fun name => globFrom fuel (join name) rest
        return found.flatten

/-- The alternatives between braces in a text. -/
def alternatives : Nat → String → List String
  | 0, text => [text]
  | fuel + 1, text =>
    let chars := text.toList
    let before := chars.takeWhile (· ≠ '\x7b')
    match chars.drop before.length with
    | [] => [text]
    | _ :: rest =>
      let inner := rest.takeWhile (· ≠ '\x7d')
      let after := rest.drop (inner.length + 1)
      (String.ofList inner).splitOn "," |>.flatMap fun choice =>
        alternatives fuel (String.ofList before ++ choice ++ String.ofList after)

/-- The files whose names fit patterns. -/
def globValues (text : String) : PerlM (Array Value) := do
  let words := (text.splitOn " ").filter (· ≠ "")
  let patterns := words.flatMap fun word => alternatives (word.length + 1) word
  let found ← patterns.mapM fun pattern => do
    if pattern.toList.any fun c => "*?[".contains c then globFrom (pattern.length + 2) "" (pattern.splitOn "/")
    else pure [pattern]
  return (found.flatten.map Value.string).toArray

/-! ## Ends -/

def systemErrors : List SystemError :=
  [.notPermitted, .missing, .noProcess, .interrupted, .noDevice, .argumentsTooLong, .notAProgram, .badDescriptor,
    .noChildren, .denied, .alreadyExists, .notADirectory, .isDirectory, .invalid, .notATerminal, .noSpace,
    .notSeekable, .brokenPipe, .nameTooLong, .notEmpty, .tooManyLinks]

/-- The value that stands for the error with a number. -/
def errorValue (number : Int) : Value :=
  match systemErrors.find? fun error => error.number = number.toNat with
  | some error => .dual number error.text
  | none => .dual number (if number = 0 then "" else "Unknown error " ++ toString number)

/-- What a program dies of or warns about. -/
def reportOf (values : Array Value) (usual : String) : PerlM Value := do
  match values.toList with
  | [.reference target] => return .reference target
  | values =>
    let text := String.join (← values.mapM textOf)
    let before ← specialText "@"
    let text := if text ≠ "" then text
      else if before = "" then usual
      else before ++ (if usual = "Died" then "\t...propagated" else "\t...caught")
    if text.endsWith "\n" then return .string text else return .string (text ++ (← whereabouts))

/-! ## Functions on values -/

/-- The value of a function of numbers. -/
def numeric? (name : String) (x : Float) : Option Float :=
  match name with
  | "sqrt" => some x.sqrt
  | "sin" => some x.sin
  | "cos" => some x.cos
  | "exp" => some x.exp
  | "log" => some x.log
  | _ => none

def textual? (name text : String) : Option Value :=
  match name with
  | "uc" => some (.string text.toUpper)
  | "lc" | "fc" => some (.string text.toLower)
  | "ucfirst" => some (.string (withFirst Char.toUpper text))
  | "lcfirst" => some (.string (withFirst Char.toLower text))
  | "quotemeta" => some (.string (quoted text))
  | "ord" => some (.ofNat ((text.toList.headD '\x00').toNat))
  | "hex" =>
    some (octal ("0x" ++
      (if text.startsWith "0x" || text.startsWith "0X" then (text.drop 2).toString else text)))
  | "oct" => some (octal text)
  | _ => none

def knownHandle (value : Value) : PerlM Nat := do
  match ← handleOf value with
  | some id => return id
  | none => die "Bad filehandle"

/-- The value of a function whose arguments are single values. -/
def applyScalars (name : String) (arguments : List Value) : PerlM (Option Value) := do
  let first := arguments.headD .undefined
  let text (place : Nat) : PerlM String := textOf (arguments.getD place .undefined)
  let done {α : Type} (result : Except SystemError α) : PerlM (Option Value) := do
    return some (.truth (← succeeded result))
  if (numeric? name 1).isSome then
    if name = "sqrt" && first.float < 0 then die ("Can't take sqrt of " ++ (← text 0))
    if name = "log" && first.float <= 0 then die ("Can't take log of " ++ (← text 0))
    return (numeric? name first.float).map fun value => Value.decimal value
  if (textual? name "").isSome then return textual? name (← text 0)
  match name with
  | "length" =>
    let text ← text 0
    return some (if first.isDefined then .ofNat text.length else .undefined)
  | "abs" =>
    return some (match first.number with
      | .whole value => .ofInt value.natAbs
      | value => .decimal value.float.abs)
  | "int" =>
    return some (match first.number with
      | .decimal value =>
        if value.abs < 1.0e15 then .whole (Double.clamp Value.leastWhole greatestWhole value)
        else .decimal (Double.truncate value)
      | value => value)
  | "atan2" => return some (.decimal (Float.atan2 first.float (arguments.getD 1 .undefined).float))
  | "chr" =>
    let code := first.int
    if 0 ≤ code && code < 256 then return some (.string (String.singleton (Char.ofNat code.toNat)))
    let bytes := (String.singleton (Char.ofNat code.toNat)).toUTF8.toList
    return some (.string (String.ofList (bytes.map fun byte => Char.ofNat byte.toNat)))
  | "index" =>
    let whole := (← text 0).toList
    let part := (← text 1).toList
    let from_ := min whole.length (arguments.getD 2 (.whole 0)).nat
    return some (match placeOf part from_ (whole.drop from_) with
      | some place => .ofNat place
      | none => .whole (-1))
  | "rindex" =>
    let whole := (← text 0).toList
    let part := (← text 1).toList
    let last : Int := match arguments with
      | _ :: _ :: place :: _ => place.int
      | _ => whole.length
    if last < 0 && !part.isEmpty then return some (.whole (-1))
    return some (match lastPlaceOf part whole (min last.toNat whole.length) with
      | some place => .ofNat place
      | none => .whole (-1))
  | "ref" =>
    match ← packageOf? first with
    | some package => return some (.string package)
    | none => return some (.string (← sortOf first))
  | "rand" =>
    let bound := if first.float == 0 then 1 else first.float
    return some (← random bound)
  | "srand" =>
    let seed ← match arguments with
      | [] => do pure (← seconds).toNat
      | value :: _ => pure value.nat
    modify fun world => { world with chance := some (seeded seed) }
    return some (.ofNat seed)
  | "time" => return some (.whole (← seconds))
  | "sleep" =>
    tool ToolM.flush
    ask (.pause (first.nat * 1000000))
    return some (.whole first.int)
  | "getppid" =>
    let number : Nat ← ask .parentNumber
    return some (.ofNat number)
  | "chdir" =>
    let home ← do
      match ← entryAt (← mainVariable .hash "ENV") "HOME" with
      | some cell => textOf (← load cell)
      | none => pure ""
    let path ← if arguments.isEmpty then pure home else text 0
    done (← ask (.changeDirectory path))
  | "mkdir" =>
    let mode := match arguments with
      | _ :: mode :: _ => mode.nat
      | _ => 0o777
    done (← ask (.makeDirectory (← text 0) mode))
  | "rmdir" => done (← ask (.removeDirectory (← text 0)))
  | "rename" => done (← ask (.rename (← text 0) (← text 1)))
  | "link" => done (← ask (.linkFile (← text 0) (← text 1)))
  | "symlink" => done (← ask (.makeLink (← text 0) (← text 1)))
  | "readlink" =>
    match ← ask (.readLink (← text 0)) with
    | .ok path => return some (.string path)
    | .error error =>
      noteError error
      return some .undefined
  | "truncate" => done (← ask (.truncate (← text 0) (arguments.getD 1 .undefined).nat))
  | "umask" =>
    let mask : Nat ← ask (.mask (if arguments.isEmpty then none else some first.nat))
    return some (.ofNat mask)
  | "bless" =>
    match first with
    | .reference target =>
      let class_ ← if arguments.length < 2 then do pure (← look (·.package)) else text 1
      modify fun world => { world with blessed := world.blessed.insert target class_ }
      return some first
    | _ => die "Can't bless non-reference value"
  | "binmode" | "flock" | "study" | "lock" | "alarm" => return some (.truth true)
  | "close" =>
    let id ← if arguments.isEmpty then do pure (← look (·.selected)) else knownHandle first
    return some (.truth (← closeHandle id))
  | "fileno" =>
    let id ← knownHandle first
    match (← handleAt id).descriptor with
    | some descriptor => return some (.ofNat descriptor)
    | none => return some .undefined
  | "opendir" => return some (.truth false)
  | "closedir" =>
    let id ← knownHandle first
    changeHandle id fun handle => { name := handle.name }
    return some (.truth true)
  | "rewinddir" => return some (.truth true)
  | "exit" => throw (.exit (first.int % 256).toNat)
  | "isa" =>
    let class_ ← text 1
    match ← packageOf? first with
    | some package => return some (.truth ((← ancestors 100 package).contains class_))
    | none => return some (.truth false)
  | "word" => return some first
  | "wait" =>
    match ← ask (.await none .untilEnded) with
    | .ok (some (number, ending)) =>
      setSpecial "?" (.whole (statusOf (some ending)))
      return some (.ofNat number)
    | _ => return some (.whole (-1))
  | "waitpid" =>
    let _ ← wait first.nat
    return some first
  | _ => return none

/-- The value of a function whose arguments are one list. -/
def applyList (name : String) (want : Want) (arguments : Array Value) : PerlM (Option (Array Value)) := do
  let one (value : Value) : Option (Array Value) := some #[value]
  match name with
  | "join" =>
    match arguments.toList with
    | [] => return one (.string "")
    | between :: rest =>
      let between ← textOf between
      return one (.string (between.intercalate (← rest.mapM textOf)))
  | "sprintf" =>
    match arguments.toList with
    | [] => return one (.string "")
    | format :: rest =>
      let format ← textOf format
      return one (.string (← formatWith textOf (format.length + 1) format.toList rest ""))
  | "reverse" =>
    if want = .all then return some arguments.reverse
    let text := String.join (← arguments.toList.mapM textOf)
    return one (.string (String.ofList text.toList.reverse))
  | "die" =>
    throw (.die (← reportOf arguments "Died"))
  | "warn" =>
    complain (← textOf (← reportOf arguments "Warning: something's wrong"))
    return one (.truth true)
  | "unlink" =>
    let mut count := 0
    for value in arguments do
      if ← succeeded (← ask (.remove (← textOf value))) then count := count + 1
    return one (.ofNat count)
  | "chmod" =>
    let mut count := 0
    for value in arguments.toList.drop 1 do
      if ← succeeded (← ask (.changeMode (← textOf value) ((arguments.toList.headD .undefined).nat))) then
        count := count + 1
    return one (.ofNat count)
  | "utime" =>
    let mut count := 0
    let time := arguments.toList.getD 1 .undefined
    for value in arguments.toList.drop 2 do
      let stamp := if time.isDefined then some (time.nat * 1000000) else none
      if ← succeeded (← ask (.stamp (← textOf value) stamp)) then count := count + 1
    return one (.ofNat count)
  | "chown" => return one (.ofNat (arguments.size - 2))
  | "kill" =>
    match arguments.toList with
    | [] => return one (.whole 0)
    | signal :: processes =>
      let name ← textOf signal
      let number := (name.toNat?.getD ((Signal.ofName? name).getD 0))
      let mut count := 0
      for process in processes do
        if ← succeeded (← ask (.send process.int number)) then count := count + 1
      return one (.ofNat count)
  | "system" =>
    let command ← arguments.toList.mapM textOf
    if !(← isKnownCommand command) then
      noteError .missing
      setSpecial "?" (.whole (-1))
      return one (.whole (-1))
    let child ← start command (pure ())
    return one (.whole (← wait child))
  | "exec" =>
    let command ← arguments.toList.mapM textOf
    flushAll
    let settings ← environment
    let error ← tool (ToolM.become (argumentsOf command) settings)
    noteError error
    return one (.truth false)
  | _ => return none

/-! ## Functions of modules -/

/-- Values without those whose texts have come before. -/
def uniqueBy (values : List Value) : PerlM (List Value) := do
  let texts ← values.mapM textOf
  let step (state : List Value × Std.HashMap String Unit) (pair : Value × String) :
      List Value × Std.HashMap String Unit :=
    if state.2.contains pair.2 then state else (pair.1 :: state.1, state.2.insert pair.2 ())
  return ((values.zip texts).foldl step ([], {})).1.reverse

/-- The last part of a path, and what is before it. -/
def pathParts (path : String) : String × String :=
  let trimmed := (path.dropEndWhile (· = '/')).toString
  let trimmed := if trimmed = "" && path ≠ "" then "/" else trimmed
  let base := (trimmed.splitOn "/").getLastD ""
  let before := (trimmed.dropEnd base.length).toString
  (base, before)

/-- The value of a function of a module. -/
def applyNative (name : String) (want : Want) (arguments : Array Value) : PerlM (Array Value) := do
  let values := arguments.toList
  let first := values.headD .undefined
  let number (change : Value → Value → Value) : Array Value :=
    match values with
    | [] => #[.undefined]
    | first :: rest => #[rest.foldl change first.number]
  let add := Value.calculate (· + ·) (· + ·)
  let pick (wanted : Ordering) (one other : Value) : Value :=
    if Value.numberOrder other one = some wanted then other.number else one
  let pickText (wanted : Ordering) : PerlM (Array Value) := do
    match ← values.mapM textOf with
    | [] => return #[.undefined]
    | first :: rest =>
      return #[.string (rest.foldl (fun one other => if compare other one = wanted then other else one) first)]
  let short := (name.splitOn "::").getLastD ""
  match short with
  | "sum" => return number add
  | "sum0" => return if values.isEmpty then #[.whole 0] else number add
  | "product" => return #[values.foldl (Value.calculate (· * ·) (· * ·)) (.whole 1)]
  | "min" => return number (pick .lt)
  | "max" => return number (pick .gt)
  | "minstr" => pickText .lt
  | "maxstr" => pickText .gt
  | "uniq" | "uniqnum" | "uniqstr" =>
    let found ← uniqueBy values
    return if want = .all then found.toArray else #[.ofNat found.length]
  | "shuffle" =>
    let mut left := values
    let mut sofar : Array Value := #[]
    for _ in values do
      let place := (← random (Float.ofNat left.length)).nat
      sofar := sofar.push (left.getD place .undefined)
      left := left.eraseIdx place
    return sofar
  | "pairs" | "pairkeys" | "pairvalues" =>
    let mut sofar : Array Value := #[]
    let mut rest := values
    for _ in List.range ((values.length + 1) / 2) do
      let key := rest.headD .undefined
      let value := (rest.drop 1).headD .undefined
      rest := rest.drop 2
      if short = "pairkeys" then sofar := sofar.push key
      else if short = "pairvalues" then sofar := sofar.push value
      else
        let id ← makeArray (← makeCells #[key, value])
        sofar := sofar.push (.reference (.array id))
    return sofar
  | "blessed" =>
    match ← packageOf? first with
    | some package => return #[.string package]
    | none => return #[.undefined]
  | "reftype" =>
    match first with
    | .reference _ => return #[.string (← sortOf first)]
    | _ => return #[.undefined]
  | "refaddr" =>
    match first with
    | .reference target => return #[.ofNat target.address]
    | _ => return #[.undefined]
  | "looks_like_number" => return #[.truth first.looksNumeric]
  | "weaken" => return #[]
  | "floor" => return #[wholeOf first.float.floor]
  | "ceil" => return #[wholeOf first.float.ceil]
  | "fmod" => return #[.decimal (Double.remainder first.float (values.getD 1 .undefined).float)]
  | "pow" => return #[Value.power first (values.getD 1 .undefined)]
  | "INT_MAX" => return #[.whole 2147483647]
  | "INT_MIN" => return #[.whole (-2147483648)]
  | "UINT_MAX" => return #[.whole 4294967295]
  | "DBL_MAX" => return #[.decimal 1.7976931348623157e308]
  | "EXIT_SUCCESS" => return #[.whole 0]
  | "EXIT_FAILURE" => return #[.whole 1]
  | "isatty" => return #[.truth false]
  | "strtol" =>
    let text ← textOf first
    let base := match values with
      | _ :: base :: _ => base.nat
      | _ => 10
    let reading := Numeral.readInt (some base) text
    return #[.whole reading.value]
  | "strftime" =>
    let format ← textOf first
    let part (place : Nat) : Int := (values.getD place .undefined).int
    let day := Calendar.dayNumber (part 6 + 1900) (part 5 + 1) 1 + part 4 - 1
    let time := day * 86400 + part 3 * 3600 + part 2 * 60 + part 1
    return #[.string (Calendar.format format { seconds := time })]
  | "basename" =>
    let (base, _) := pathParts (← textOf first)
    let suffixes ← (values.drop 1).mapM textOf
    let found := suffixes.find? fun suffix => base.endsWith suffix && base ≠ suffix
    return #[.string (match found with
      | some suffix => (base.dropEnd suffix.length).toString
      | none => base)]
  | "dirname" =>
    let (_, before) := pathParts (← textOf first)
    let trimmed := (before.dropEndWhile (· = '/')).toString
    return #[.string (if before = "" then "." else if trimmed = "" then "/" else trimmed)]
  | "cwd" | "getcwd" | "abs_path" | "realpath" =>
    let directory : String ← ask .workingDirectory
    return #[.string directory]
  | "time" =>
    let now : Nat ← ask .clock
    return #[.decimal (Float.ofNat now / 1000000)]
  | "sleep" | "usleep" =>
    let time := first.float * (if short = "sleep" then 1000000 else 1)
    tool ToolM.flush
    ask (.pause (Double.clamp 0 1000000000000 time).toNat)
    return #[first]
  | "croak" | "confess" => throw (.die (← reportOf arguments "Died"))
  | "carp" | "cluck" =>
    complain (← textOf (← reportOf arguments "Warning: something's wrong"))
    return #[.truth true]
  | _ => return #[.undefined]
where
  /-- A decimal number without a fraction as a whole one. -/
  wholeOf (value : Float) : Value :=
    if value.abs < 1.0e15 then .whole (Double.clamp Value.leastWhole greatestWhole value) else .decimal value

end Shell.Machine.Perl.PerlM
