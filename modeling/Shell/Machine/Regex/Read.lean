import Shell.Machine.Regex

/-! # Reading regular expressions

The two ways to write regular expressions down. In the basic one most signs are written with a backslash, in the
extended one without.
-/

namespace Shell.Machine.Regex

/-- What can be wrong with a regular expression. -/
inductive Fault where
  /-- There is nothing after a bracket that opens a set. -/
  | emptySet
  | openSet
  | openGroup
  | closedGroup
  | openInterval
  | badInterval
  | badReference
  | badRange
  | badClass
  /-- A class with a name stands where a set of characters should. -/
  | bareClass
  | badRepeat
  | hangingBackslash
deriving Repr, DecidableEq, Inhabited

def Fault.message : Fault → String
  | emptySet => "Invalid regular expression"
  | openSet => "Unmatched [, [^, [:, [., or [="
  | openGroup => "Unmatched ( or \\("
  | closedGroup => "Unmatched ) or \\)"
  | openInterval => "Unmatched \\\x7b"
  | badInterval => "Invalid content of \\\x7b\\\x7d"
  | badReference => "Invalid back reference"
  | badRange => "Invalid range end"
  | badClass => "Invalid character class name"
  | bareClass => "character class syntax is [[:space:]], not [:space:]"
  | badRepeat => "Invalid preceding regular expression"
  | hangingBackslash => "Trailing backslash"

/-- How regular expressions are written. -/
structure Dialect where
  extended : Bool := false
  /-- Whether signs without a meaning are errors in the extended way. -/
  strict : Bool := false
deriving Repr, DecidableEq, Inhabited

/-- A part of the text of a regular expression. -/
inductive Symbol where
  | atom (regex : Regex)
  | repetition (least : Nat) (most : Option Nat)
  | opening
  | closing
  | bar
deriving Repr, Inhabited

/-! ## Sets -/

/-- The text up to two characters in a row, and what follows. -/
def upToPair (first second : Char) : List Char → Option (List Char × List Char)
  | [] => none
  | c :: rest =>
    match rest with
    | d :: after =>
      if c = first && d = second then some ([], after)
      else (upToPair first second rest).map fun (text, rest) => (c :: text, rest)
    | [] => none

/-- Reads a character of a set. -/
def setChar (c : Char) (rest : List Char) : Except Fault (Char × List Char) :=
  match c, rest with
  | '[', '.' :: rest =>
    match upToPair '.' ']' rest with
    | some ([c], rest) => .ok (c, rest)
    | some _ => .error .badClass
    | none => .error .openSet
  | '[', '=' :: rest =>
    match upToPair '=' ']' rest with
    | some ([c], rest) => .ok (c, rest)
    | some _ => .error .badClass
    | none => .error .openSet
  | c, rest => .ok (c, rest)

/-- Reads the members of a set up to the bracket that closes it. -/
def members : Nat → Bool → List Char → Except Fault (List SetMember × List Char)
  | 0, _, _ => .error .openSet
  | _, _, [] => .error .openSet
  | fuel + 1, isFirst, c :: rest => do
    if c = ']' && !isFirst then return ([], rest)
    match c, rest with
    | '[', ':' :: rest =>
      match upToPair ':' ']' rest with
      | none => throw .openSet
      | some (name, rest) =>
        let name := String.ofList name
        if (SetMember.inClass? name 'a').isNone then throw .badClass
        let (more, rest) ← members fuel false rest
        return (.named name :: more, rest)
    | c, rest =>
      let (low, rest) ← setChar c rest
      match rest with
      | '-' :: d :: after =>
        if d = ']' then
          let (more, rest) ← members fuel false rest
          return (.range low low :: more, rest)
        else
          let (high, rest) ← setChar d after
          if high < low then throw .badRange
          let (more, rest) ← members fuel false rest
          return (.range low high :: more, rest)
      | _ =>
        let (more, rest) ← members fuel false rest
        return (.range low low :: more, rest)

/-- Reads a set after the bracket that opens it. -/
def readSet (chars : List Char) : Except Fault (Regex × List Char) := do
  let (inverted, chars) := match chars with
    | '^' :: rest => (true, rest)
    | chars => (false, chars)
  if chars.isEmpty then throw .emptySet
  let (found, rest) ← members (chars.length + 1) true chars
  let inner := chars.take (chars.length - rest.length - 1)
  if !inverted && 2 ≤ inner.length && inner.head? = some ':' && inner.getLast? = some ':' then
    throw .bareClass
  return (.set inverted found, rest)

/-! ## Signs -/

/-- The numbers of an interval and what follows them. -/
def interval? (chars : List Char) : Option (Nat × Option Nat × List Char) :=
  let (low, rest) := chars.span Char.isDigit
  let least := (String.ofList low).toNat?
  match rest with
  | ',' :: rest =>
    let (high, rest) := rest.span Char.isDigit
    some (least.getD 0, (String.ofList high).toNat?, rest)
  | rest => least.map fun count => (count, some count, rest)

/-- Reads an interval after the brace that opens it. -/
def readInterval (dialect : Dialect) (chars : List Char) : Except Fault (Symbol × List Char) := do
  match interval? chars with
  | none => throw (if chars.isEmpty then .openInterval else .badInterval)
  | some (least, most, rest) =>
    let rest ← match dialect.extended, rest with
      | true, '\x7d' :: rest => pure rest
      | false, '\\' :: '\x7d' :: rest => pure rest
      | _, [] => throw .openInterval
      | _, _ => throw .badInterval
    if most.any (· < least) then throw .badInterval
    return (.repetition least most, rest)

def wordMembers : List SetMember := [.named "alnum", .range '_' '_']

/-- What a character after a backslash stands for in both ways of writing. -/
def escaped (c : Char) : Regex :=
  match c with
  | 'w' => .set false wordMembers
  | 'W' => .set true wordMembers
  | 's' => .set false [.named "space"]
  | 'S' => .set true [.named "space"]
  | '<' => .anchor .wordStart
  | '>' => .anchor .wordEnd
  | 'b' => .anchor .boundary
  | 'B' => .anchor .noBoundary
  | '\x60' => .anchor .textStart
  | '\'' => .anchor .textEnd
  | c => if c.isDigit && c ≠ '0' then .again (c.toNat - 48) else .char c

/-- True when a `$` in front of a text is the end of an expression. -/
def endsBefore (dialect : Dialect) (rest : List Char) : Bool :=
  dialect.extended || rest.isEmpty ||
    match rest with
    | '\\' :: c :: _ => c = ')' || c = '|'
    | _ => false

/-- What comes before a sign. -/
structure Context where
  /-- Whether nothing that could be repeated comes before. -/
  isFirst : Bool := true
  /-- Whether the condition that a line starts comes before. -/
  afterStart : Bool := false
  /-- How many groups are open. -/
  depth : Nat := 0

/-- Reads the signs of a text. -/
def symbols (dialect : Dialect) : Nat → Context → List Char → Except Fault (List Symbol)
  | 0, _, _ => .ok []
  | _, _, [] => .ok []
  | fuel + 1, context, c :: rest => do
    let depth := context.depth
    let isFirst := context.isFirst
    let add (symbol : Symbol) (rest : List Char) : Except Fault (List Symbol) := do
      return symbol :: (← symbols dialect fuel { isFirst := false, depth } rest)
    let opening (rest : List Char) : Except Fault (List Symbol) := do
      return .opening :: (← symbols dialect fuel { depth := depth + 1 } rest)
    let closing (rest : List Char) : Except Fault (List Symbol) := do
      return .closing :: (← symbols dialect fuel { isFirst := false, depth := depth - 1 } rest)
    let bar (rest : List Char) : Except Fault (List Symbol) := do
      return .bar :: (← symbols dialect fuel { depth } rest)
    let start (rest : List Char) : Except Fault (List Symbol) := do
      let context : Context := { isFirst := dialect.extended, afterStart := true, depth }
      return .atom (.anchor .textStart) :: (← symbols dialect fuel context rest)
    match dialect.extended, c with
    | _, '[' =>
      let (regex, rest) ← readSet rest
      add (.atom regex) rest
    | _, '.' => add (.atom .any) rest
    | _, '$' => add (.atom (if endsBefore dialect rest then .anchor .textEnd else .char '$')) rest
    | _, '^' => if dialect.extended || isFirst then start rest else add (.atom (.char '^')) rest
    | false, '*' => add (if isFirst || context.afterStart then .atom (.char '*') else .repetition 0 none) rest
    | true, '*' | true, '+' | true, '?' =>
      if isFirst then
        if dialect.strict then throw .badRepeat
        symbols dialect fuel context rest
      else if c = '*' then add (.repetition 0 none) rest
      else if c = '+' then add (.repetition 1 none) rest
      else add (.repetition 0 (some 1)) rest
    | true, '(' => opening rest
    | true, ')' => if depth = 0 && !dialect.strict then add (.atom (.char ')')) rest else closing rest
    | true, '|' => bar rest
    | true, '\x7b' =>
      match readInterval dialect rest with
      | .ok (symbol, after) =>
        if isFirst then
          if dialect.strict then throw .badRepeat
          add (.atom (.char c)) rest
        else add symbol after
      | .error .badInterval => throw .badInterval
      | .error fault => if dialect.strict then throw fault else add (.atom (.char c)) rest
    | false, '\\' =>
      match rest with
      | [] => throw .hangingBackslash
      | '(' :: after => opening after
      | ')' :: after => closing after
      | '|' :: after => bar after
      | '\x7b' :: after =>
        if isFirst then throw .badRepeat
        let (symbol, after) ← readInterval dialect after
        add symbol after
      | '+' :: after => add (if isFirst then .atom (.char '+') else .repetition 1 none) after
      | '?' :: after => add (if isFirst then .atom (.char '?') else .repetition 0 (some 1)) after
      | d :: after => add (.atom (escaped d)) after
    | true, '\\' =>
      match rest with
      | [] => throw .hangingBackslash
      | d :: after => add (.atom (escaped d)) after
    | _, c => add (.atom (.char c)) rest

/-! ## Expressions -/

/-- What has been read of an expression: how many groups have begun, and which have ended. -/
structure Reading where
  groups : Nat := 0
  complete : List Nat := []

def sequenceOf : List Regex → Regex
  | [] => .empty
  | [one] => one
  | first :: rest => .sequence first (sequenceOf rest)

mutual

/-- Reads expressions with bars between them. -/
def readEither : Nat → List Symbol → Reading → Except Fault (Regex × List Symbol × Reading)
  | 0, symbols, reading => .ok (.empty, symbols, reading)
  | fuel + 1, symbols, reading => do
    let (first, symbols, reading) ← readSequence fuel symbols [] reading
    match symbols with
    | .bar :: symbols =>
      let (second, symbols, reading) ← readEither fuel symbols reading
      return (.either first second, symbols, reading)
    | symbols => return (first, symbols, reading)

/-- Reads an expression up to a bar or the end of a group. The ones read before come in reverse. -/
def readSequence :
    Nat → List Symbol → List Regex → Reading → Except Fault (Regex × List Symbol × Reading)
  | 0, symbols, sofar, reading => .ok (sequenceOf sofar.reverse, symbols, reading)
  | _, [], sofar, reading => .ok (sequenceOf sofar.reverse, [], reading)
  | fuel + 1, symbol :: symbols, sofar, reading => do
    match symbol with
    | .bar | .closing => return (sequenceOf sofar.reverse, symbol :: symbols, reading)
    | .repetition least most =>
      match sofar with
      | body :: before => readSequence fuel symbols (.repeated body least most :: before) reading
      | [] => readSequence fuel symbols [] reading
    | .atom (.again number) =>
      if reading.complete.contains number then readSequence fuel symbols (.again number :: sofar) reading
      else throw .badReference
    | .atom regex => readSequence fuel symbols (regex :: sofar) reading
    | .opening =>
      let number := reading.groups + 1
      let (body, symbols, reading) ← readEither fuel symbols { reading with groups := number }
      match symbols with
      | .closing :: symbols =>
        let reading := { reading with complete := number :: reading.complete }
        readSequence fuel symbols (.group number body :: sofar) reading
      | _ => throw .openGroup

end

/-- Reads a regular expression. The number says how many groups it has. -/
def read (dialect : Dialect) (text : String) : Except Fault (Regex × Nat) := do
  let chars := text.toList
  let found ← symbols dialect (chars.length + 1) {} chars
  let (regex, rest, reading) ← readEither (found.length * 2 + 4) found {}
  if rest.isEmpty then return (regex, reading.groups) else throw .closedGroup

end Shell.Machine.Regex
