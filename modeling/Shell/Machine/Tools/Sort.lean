import Shell.Machine.Tools.Lines

/-! # Sorting

Orders of lines by keys, and the program that sorts by them. A key is a part of a line with its own way of comparing.
Lines whose keys are all the same are compared as a whole, unless only the keys count.
-/

namespace Shell.Machine.Sort

/-- How parts of lines are compared. -/
structure Manner where
  numeric : Bool := false
  general : Bool := false
  human : Bool := false
  version : Bool := false
  month : Bool := false
  folds : Bool := false
  dictionary : Bool := false
  printable : Bool := false
  skipsBlanks : Bool := false
  reverse : Bool := false
deriving Repr, DecidableEq, Inhabited

/-- A place in a line: the number of a field and of a character in it. -/
structure Position where
  field : Nat
  char : Nat
  skipsBlanks : Bool := false
deriving Repr, DecidableEq, Inhabited

/-- A part of a line and how it is compared. -/
structure Key where
  start : Position
  stop : Option Position
  manner : Manner
deriving Repr, DecidableEq, Inhabited

/-- Adds what a letter says about how parts are compared. -/
def Manner.add? (manner : Manner) : Char → Option Manner
  | 'n' => some { manner with numeric := true }
  | 'g' => some { manner with general := true }
  | 'h' => some { manner with human := true }
  | 'V' => some { manner with version := true }
  | 'M' => some { manner with month := true }
  | 'f' => some { manner with folds := true }
  | 'd' => some { manner with dictionary := true }
  | 'i' => some { manner with printable := true }
  | 'b' => some { manner with skipsBlanks := true }
  | 'r' => some { manner with reverse := true }
  | _ => none

/-- Reads a place in a line and the letters after it. -/
def readPosition (default : Nat) (text : String) : Option (Position × List Char) := do
  let (field, count, rest) := Numeral.digits 10 text.length 0 0 text.toList
  if count = 0 then none
  else
    match rest with
    | '.' :: rest =>
      let (char, _, rest) := Numeral.digits 10 rest.length 0 0 rest
      return ({ field, char }, rest)
    | _ => return ({ field, char := default }, rest)

def readKey (all : Manner) (text : String) : Option Key := do
  let parts := text.splitOn ","
  let (start, letters) ← readPosition 1 (parts.headD "")
  if start.field = 0 || start.char = 0 then none
  else
    let manner ← letters.foldlM Manner.add? {}
    let startSkips := letters.contains 'b'
    let (stop, manner, own, stopSkips) ← match parts[1]? with
      | none => some (none, manner, letters, false)
      | some text => do
        let (stop, more) ← readPosition 0 text
        let manner ← more.foldlM Manner.add? manner
        some (some stop, manner, letters ++ more, more.contains 'b')
    let manner := if own.isEmpty then all else manner
    let inherits := own.isEmpty && all.skipsBlanks
    return {
      start := { start with skipsBlanks := startSkips || inherits }
      stop := stop.map fun stop => { stop with skipsBlanks := stopSkips || inherits }
      manner }

/-! ## Parts of lines -/

def isBlank (c : Char) : Bool := c = ' ' || c = '\t' || c = '\n'

/-- The characters from the start of a field on. Without a separator a field takes in the blanks before it. -/
def dropFields (separator : Option Char) : Nat → List Char → List Char
  | 0, chars => chars
  | count + 1, chars =>
    match separator with
    | some c => dropFields separator count ((chars.dropWhile (· ≠ c)).drop 1)
    | none => dropFields separator count ((chars.dropWhile isBlank).dropWhile (!isBlank ·))

/-- How many characters of a line come before a place. -/
def startOf (separator : Option Char) (position : Position) (line : List Char) : Nat :=
  let rest := dropFields separator (position.field - 1) line
  let rest := if position.skipsBlanks then rest.dropWhile isBlank else rest
  line.length - (rest.drop (position.char - 1)).length

/-- How many characters of a line come before the end of a part. -/
def stopOf (separator : Option Char) (position : Position) (line : List Char) : Nat :=
  if position.char = 0 then
    let rest := dropFields separator (position.field - 1) line
    let rest := match separator with
      | some c => rest.dropWhile (· ≠ c)
      | none => (rest.dropWhile isBlank).dropWhile (!isBlank ·)
    line.length - rest.length
  else
    let rest := dropFields separator (position.field - 1) line
    let rest := if position.skipsBlanks then rest.dropWhile isBlank else rest
    line.length - (rest.drop position.char).length

/-- The part of a line that a key is about. -/
def Key.part (separator : Option Char) (line : List Char) (key : Key) : List Char :=
  let start := startOf separator key.start line
  let stop := match key.stop with
    | some stop => stopOf separator stop line
    | none => line.length
  (line.take stop).drop start

/-! ## Comparing -/

/-- A number at the start of a text: whole part and digits after the point. -/
structure Amount where
  negative : Bool := false
  whole : Nat := 0
  fraction : List Char := []
deriving Repr, DecidableEq, Inhabited

/-- The number at the start of a text, and what follows it. -/
def amountOf (text : List Char) : Amount × List Char :=
  let (negative, chars) := match text.dropWhile isBlank with
    | '-' :: rest => (true, rest)
    | chars => (false, chars)
  let (whole, _, rest) := Numeral.digits 10 chars.length 0 0 chars
  let (fraction, rest) := match rest with
    | '.' :: rest => rest.span Char.isDigit
    | _ => ([], rest)
  let fraction := (fraction.reverse.dropWhile (· = '0')).reverse
  ({ negative := negative && !(whole = 0 && fraction.isEmpty), whole, fraction }, rest)

/-- Compares two texts character by character. -/
def compareChars : List Char → List Char → Ordering
  | [], [] => .eq
  | [], _ => .lt
  | _, [] => .gt
  | a :: rest, b :: rest' => if a < b then .lt else if b < a then .gt else compareChars rest rest'

/-- Compares amounts without their signs. -/
def compareSizes (one other : Amount) : Ordering :=
  (compare one.whole other.whole).then (compareChars one.fraction other.fraction)

def compareAmounts (one other : Amount) : Ordering :=
  match one.negative, other.negative with
  | true, false => .lt
  | false, true => .gt
  | false, false => compareSizes one other
  | true, true => (compareSizes one other).swap

/-- Compares numbers of any form. Texts that begin with no number come first, then what is undefined. -/
def compareGeneral (one other : List Char) : Ordering :=
  let rank (value : Option (Decimal.Value × List Char)) : Nat :=
    match value with
    | none => 0
    | some (.undefined _, _) => 1
    | some (.infinite true, _) => 2
    | some (.finite _ _, _) => 3
    | some (.infinite false, _) => 4
  let left := Decimal.read 64 (String.ofList one)
  let right := Decimal.read 64 (String.ofList other)
  match left, right with
  | some (.finite negative ratio, _), some (.finite negative' ratio', _) =>
    let signed (negative : Bool) (dividend : Nat) : Int := if negative then -(dividend : Int) else dividend
    Ord.compare (signed negative (ratio.dividend * ratio'.divisor))
      (signed negative' (ratio'.dividend * ratio.divisor))
  | _, _ => Ord.compare (rank left) (rank right)

/-- The place of a unit that may follow a number. -/
def unitOf (rest : List Char) : Nat :=
  match rest.head? with
  | some c => ("kKMGTPEZY".toList.idxOf? c).elim 0 fun place => if place = 0 then 1 else place
  | none => 0

/-- Compares numbers with units. -/
def compareHuman (one other : List Char) : Ordering :=
  let (a, rest) := amountOf one
  let (b, rest') := amountOf other
  let sign (amount : Amount) : Int :=
    if amount.negative then -1 else if amount.whole = 0 && amount.fraction.isEmpty then 0 else 1
  let order := (compare (sign a) (sign b)).then
    (let units := compare (unitOf rest) (unitOf rest')
    if a.negative then units.swap else units)
  order.then (compareAmounts a b)

/-- The number of a month by the first letters of its name. -/
def monthOf (text : List Char) : Nat :=
  let name := String.ofList (((text.dropWhile isBlank).take 3).map Char.toUpper)
  let months := ["JAN", "FEB", "MAR", "APR", "MAY", "JUN", "JUL", "AUG", "SEP", "OCT", "NOV", "DEC"]
  (months.idxOf? name).elim 0 (· + 1)

/-- The rank of the first character of a text where it is compared with a character that is no digit. -/
def rankOf : List Char → Int
  | [] => -1
  | c :: _ =>
    if c.isDigit then 0
    else if c.isAlpha then c.toNat
    else if c = '~' then -2
    else 256 + c.toNat

/-- True when a text begins with a character that is no digit. -/
def startsOther (text : List Char) : Bool :=
  text.head?.any fun c => !c.isDigit

/-- Compares texts in which numbers count as such. -/
def compareVersions : Nat → List Char → List Char → Ordering
  | 0, _, _ => .eq
  | _, [], [] => .eq
  | fuel + 1, one, other =>
    if startsOther one || startsOther other then
      (compare (rankOf one) (rankOf other)).then (compareVersions fuel (one.drop 1) (other.drop 1))
    else
      let (left, one) := one.span Char.isDigit
      let (right, other) := other.span Char.isDigit
      let value (digits : List Char) : Nat := (Numeral.digits 10 digits.length 0 0 digits).1
      (compare (value left) (value right)).then (compareVersions fuel one other)

/-- True for a row of endings of a file name, each a point with a letter and what belongs to it. -/
def areEndings (text : List Char) : Bool :=
  let counts (c : Char) : Bool := c.isAlphanum || c = '~'
  match (String.ofList text).splitOn "." with
  | "" :: endings =>
    endings.all fun ending => ending.all counts && ending.toList.head?.any fun c => !c.isDigit
  | _ => false

/-- A file name without its endings. -/
def stemOf : List Char → List Char
  | [] => []
  | c :: rest => if areEndings rest then [c] else c :: stemOf rest

/-- Compares file names in which numbers count as such. Hidden files come first; endings count last. -/
def compareNames (one other : List Char) : Ordering :=
  let hidden (name : List Char) : Nat :=
    match name with
    | [] => 0
    | ['.'] => 1
    | ['.', '.'] => 2
    | '.' :: _ => 3
    | _ => 4
  let compareParts (one other : List Char) : Ordering :=
    compareVersions (one.length + other.length + 1) one other
  ((compare (hidden one) (hidden other)).then (compareParts (stemOf one) (stemOf other))).then
    (compareParts one other)

def Manner.normalize (manner : Manner) (text : List Char) : List Char :=
  let text := if manner.skipsBlanks then text.dropWhile isBlank else text
  let text := if manner.dictionary then text.filter fun c => c.isAlphanum || isBlank c else text
  let text := if manner.printable then text.filter fun c => ' ' ≤ c && c ≤ '~' else text
  if manner.folds then text.map Char.toUpper else text

/-- Compares two texts, the direction left aside. -/
def Manner.compareUp (manner : Manner) (one other : List Char) : Ordering :=
  if manner.general then compareGeneral one other
  else if manner.numeric then compareAmounts (amountOf one).1 (amountOf other).1
  else if manner.human then compareHuman one other
  else if manner.month then compare (monthOf one) (monthOf other)
  else if manner.version then compareNames one other
  else compareChars (manner.normalize one) (manner.normalize other)

/-- Compares two texts. -/
def Manner.compare (manner : Manner) (one other : List Char) : Ordering :=
  let order := manner.compareUp one other
  if manner.reverse then order.swap else order

/-- How lines are sorted. -/
structure Plan where
  all : Manner := {}
  keys : List Key := []
  separator : Option Char := none
  /-- Whether lines with the same keys count as the same. -/
  onlyKeys : Bool := false

def compareKeys (separator : Option Char) (one other : List Char) : List Key → Ordering
  | [] => .eq
  | key :: rest =>
    match key.manner.compare (key.part separator one) (key.part separator other) with
    | .eq => compareKeys separator one other rest
    | order => order

/-- Compares two lines. -/
def Plan.compare (plan : Plan) (one other : List Char) : Ordering :=
  let order :=
    if plan.keys.isEmpty then plan.all.compare one other
    else compareKeys plan.separator one other plan.keys
  match order with
  | .eq =>
    if plan.onlyKeys then .eq
    else
      let order := compareChars one other
      if plan.all.reverse then order.swap else order
  | order => order

/-- The first of neighbouring lines that count as the same. -/
def dropRepeated (plan : Plan) : List (List Char) → List (List Char)
  | one :: other :: rest =>
    if plan.compare one other = .eq then dropRepeated plan (one :: rest)
    else one :: dropRepeated plan (other :: rest)
  | lines => lines
termination_by lines => lines.length

/-- The number of the first line that is in the wrong place. -/
def firstDisorder (plan : Plan) (strict : Bool) : Nat → List (List Char) → Option (Nat × List Char)
  | number, one :: other :: rest =>
    let order := plan.compare one other
    if order = .gt || (strict && order = .eq) then some (number + 1, other)
    else firstDisorder plan strict (number + 1) (other :: rest)
  | _, _ => none

end Shell.Machine.Sort

namespace Shell.Machine.ToolM

def sort : ToolM Unit := do
  let arguments ← readArguments 2 false
    ["b,ignore-leading-blanks", "c,check,?", "C,", "d,dictionary-order", "f,ignore-case",
      "g,general-numeric-sort", "h,human-numeric-sort", "i,ignore-nonprinting", "k,key,:", "m,merge",
      "M,month-sort", "n,numeric-sort", "o,output,:", "r,reverse", "R,random-sort", "s,stable",
      "S,buffer-size,:", "t,field-separator,:", "T,temporary-directory,:", "u,unique",
      "V,version-sort", "z,zero-terminated", ",parallel,:"]
  let all := arguments.options.foldl
    (fun (manner : Sort.Manner) option =>
      match option.name.toList with
      | [c] => (manner.add? c).getD manner
      | _ => manner)
    {}
  let keys ← (arguments.values "k").mapM fun text => do
    match Sort.readKey all text with
    | some key => return key
    | none => fail 2 ("invalid number at field start: invalid count at start of " ++ Quote.text text)
  let separator ← match arguments.value? "t" with
    | none => pure none
    | some "\\0" => pure (some '\x00')
    | some text =>
      match text.toList with
      | [c] => pure (some c)
      | [] => fail 2 "empty tab"
      | _ => fail 2 ("multi-character tab " ++ Quote.text text)
  let unique := arguments.has "u"
  let plan : Sort.Plan := { all, keys, separator, onlyKeys := unique || arguments.has "s" }
  let refuse (path : String) (opened : Bool) (error : SystemError) : ToolM Unit :=
    fail 2 ((if opened then "read failed: " else "cannot read: ") ++ Quote.ifNeeded path ++ ": " ++
      error.text)
  let last := if arguments.has "z" then '\x00' else '\n'
  let checks := arguments.has "c" || arguments.has "C"
  match checks, arguments.operands with
  | true, _ :: extra :: _ => misuse 2 ("extra operand " ++ Quote.text extra ++ " not allowed with -c")
  | _, _ => pure ()
  let lines ← allLines last arguments.operands refuse
  let lines := lines.map String.toList
  if checks then
    match Sort.firstDisorder plan unique 1 lines with
    | none => return
    | some (number, line) =>
      let path := arguments.operands.headD "-"
      if !arguments.has "C" then
        report (path ++ ":" ++ toString number ++ ": disorder: " ++ String.ofList line)
      status 1
  else
    let sorted := lines.mergeSort fun one other => plan.compare one other ≠ .gt
    let sorted := if unique then Sort.dropRepeated plan sorted else sorted
    match arguments.value? "o" with
    | none => pure ()
    | some path =>
      match ← ask (.openFile path { write := true, create := true, truncate := true } 0o666) with
      | .ok descriptor => discard (ask (.redirect descriptor 1))
      | .error error => fail 2 ("open failed: " ++ Quote.ifNeeded path ++ ": " ++ error.text)
    for line in sorted do
      print (String.ofList line ++ String.singleton last)

end Shell.Machine.ToolM
