import Shell.Machine.Regex.Ordered
import Shell.Machine.Utility.Escape

/-! # Reading expressions with an order

How regular expressions with an order are written down: signs, escapes for classes of characters, groups that begin
with a question mark, and letters that change how what follows is read.
-/

namespace Shell.Machine.Ordered

/-- What can be wrong with an expression. -/
inductive Fault where
  | openGroup
  | closedGroup
  | openSet
  | badRange
  | badClass
  | badRepeat
  | badInterval
  | badReference
  | badGroup
  | badName
  | badProperty
  | hangingBackslash
  | movingLook
deriving Repr, DecidableEq, Inhabited

def Fault.message : Fault → String
  | openGroup => "missing closing parenthesis"
  | closedGroup => "unmatched closing parenthesis"
  | openSet => "missing terminating ] for character class"
  | badRange => "range out of order in character class"
  | badClass => "unknown POSIX class name"
  | badRepeat => "quantifier does not follow a repeatable item"
  | badInterval => "numbers out of order in \x7b\x7d quantifier"
  | badReference => "reference to non-existent subpattern"
  | badGroup => "unrecognized character after (? or (?-"
  | badName => "syntax error in subpattern name (missing terminator?)"
  | badProperty => "malformed \\P or \\p sequence"
  | hangingBackslash => "\\ at end of pattern"
  | movingLook => "lookbehind assertion is not fixed length"

/-- How signs are read. -/
structure Flags where
  folds : Bool := false
  /-- Whether every line has a start and an end. -/
  byLine : Bool := false
  /-- Whether a point stands for a line break too. -/
  dotAll : Bool := false
  /-- Whether blanks and comments are left out. -/
  spaced : Bool := false
  /-- Whether groups without a name have no number. -/
  unnumbered : Bool := false
deriving Repr, DecidableEq, Inhabited

/-- What has been read of groups. -/
structure Reading where
  groups : Nat := 0
  names : List (String × Nat) := []
deriving Repr, Inhabited

/-- The class of characters that a letter stands for, which may be turned round. -/
def class? (letter : Char) : Option (List (Bool × SetMember)) :=
  match letter with
  | 'd' => some [(false, .named "digit")]
  | 'D' => some [(true, .named "digit")]
  | 's' => some [(false, .named "space")]
  | 'S' => some [(true, .named "space")]
  | 'h' => some [(false, .named "blank")]
  | 'v' => some [(false, .range '\n' '\r')]
  | 'N' => some [(true, .range '\n' '\n')]
  | _ => none

/-- The set that a letter after a backslash stands for: whether it is turned round, and its members. -/
def classSet? (letter : Char) : Option (Bool × List (Bool × SetMember)) :=
  let word : List (Bool × SetMember) := [(false, .named "alnum"), (false, .range '_' '_')]
  match letter with
  | 'w' => some (false, word)
  | 'W' => some (true, word)
  | 'H' => some (true, [(false, .named "blank")])
  | 'V' => some (true, [(false, .range '\n' '\r')])
  | letter => (class? letter).map (false, ·)

/-- The character that an escape stands for, and what follows it. -/
def escapedChar (c : Char) (rest : List Char) : Char × List Char :=
  match c with
  | 'n' => ('\n', rest)
  | 't' => ('\t', rest)
  | 'r' => ('\r', rest)
  | 'f' => ('\x0c', rest)
  | 'e' => ('\x1b', rest)
  | 'a' => ('\x07', rest)
  | 'c' =>
    match rest with
    | d :: rest => (Char.ofNat (d.toUpper.toNat ^^^ 64), rest)
    | [] => ('c', [])
  | 'x' =>
    match rest with
    | '\x7b' :: rest =>
      let (value, _, rest) := Numeral.digits 16 rest.length 0 0 rest
      (Escape.byte value, rest.drop 1)
    | rest =>
      let (value, _, rest) := Numeral.digits 16 2 0 0 rest
      (Escape.byte value, rest)
  | '0' =>
    let (value, _, rest) := Numeral.digits 8 2 0 0 rest
    (Escape.byte value, rest)
  | c => (c, rest)

/-- Reads an item of a set: a character that may begin a range, or members. -/
def setItem : List Char → Except Fault ((Char ⊕ List (Bool × SetMember)) × List Char)
  | [] => .error .openSet
  | '[' :: mark :: rest =>
    if mark = ':' then
      let (name, after) := rest.span fun c => c ≠ ':' && c ≠ ']'
      match after with
      | ':' :: ']' :: after =>
        let negative := name.head? = some '^'
        let name := String.ofList (if negative then name.drop 1 else name)
        if name = "word" then
          .ok (.inr [(negative, .named "alnum"), (negative, .range '_' '_')], after)
        else if (SetMember.inClass? name 'a').isNone then .error .badClass
        else .ok (.inr [(negative, .named name)], after)
      | _ => .ok (.inl '[', mark :: rest)
    else .ok (.inl '[', mark :: rest)
  | '\\' :: c :: rest =>
    match classSet? c with
    | some (false, members) => .ok (.inr members, rest)
    | some (true, members) =>
      -- All characters that are none of the members.
      let others := ((List.range 256).map Char.ofNat).filter fun d =>
        !members.any fun (negative, member) => member.contains d != negative
      .ok (.inr (others.map fun d => (false, .range d d)), rest)
    | none =>
      if c = 'b' then .ok (.inl '\x08', rest)
      else if c.isDigit && c ≠ '8' && c ≠ '9' then
        let (value, _, rest) := Numeral.digits 8 3 0 0 (c :: rest)
        .ok (.inl (Escape.byte value), rest)
      else
        let (d, rest) := escapedChar c rest
        .ok (.inl d, rest)
  | ['\\'] => .error .hangingBackslash
  | c :: rest => .ok (.inl c, rest)

/-- Reads the members of a set up to the bracket that closes it. -/
def setMembers : Nat → Bool → List Char → Except Fault (List (Bool × SetMember) × List Char)
  | 0, _, _ => .error .openSet
  | _, _, [] => .error .openSet
  | fuel + 1, isFirst, c :: rest => do
    if c = ']' && !isFirst then return ([], rest)
    let (item, rest) ← setItem (c :: rest)
    match item, rest with
    | .inl low, '-' :: d :: after =>
      if d = ']' then
        let (more, rest) ← setMembers fuel false rest
        return ((false, .range low low) :: more, rest)
      let (high, after) ← setItem (d :: after)
      match high with
      | .inl high =>
        if high < low then throw .badRange
        let (more, rest) ← setMembers fuel false after
        return ((false, .range low high) :: more, rest)
      | .inr members =>
        let (more, rest) ← setMembers fuel false after
        return ((false, .range low low) :: (false, .range '-' '-') :: (members ++ more), rest)
    | .inl low, rest =>
      let (more, rest) ← setMembers fuel false rest
      return ((false, .range low low) :: more, rest)
    | .inr members, rest =>
      let (more, rest) ← setMembers fuel false rest
      return (members ++ more, rest)

/-- A repetition at the start of a text: the least and the greatest number, and what follows. -/
def repetition? : List Char → Option (Nat × Option Nat × List Char)
  | '*' :: rest => some (0, none, rest)
  | '+' :: rest => some (1, none, rest)
  | '?' :: rest => some (0, some 1, rest)
  | '\x7b' :: rest =>
    let (low, after) := rest.span Char.isDigit
    if low.isEmpty then none
    else
      let least := (String.ofList low).toNat?.getD 0
      match after with
      | '\x7d' :: after => some (least, some least, after)
      | ',' :: after =>
        let (high, after) := after.span Char.isDigit
        match after with
        | '\x7d' :: after => some (least, (String.ofList high).toNat?, after)
        | _ => none
      | _ => none
  | _ => none

/-- What is tried first, by the sign after a repetition. -/
def greedOf : List Char → Greed × List Char
  | '?' :: rest => (.lazy, rest)
  | '+' :: rest => (.possessive, rest)
  | rest => (.greedy, rest)

/-- Leaves out blanks and comments where they do not count. -/
def skipSpace (flags : Flags) : Nat → List Char → List Char
  | 0, rest => rest
  | fuel + 1, rest =>
    if !flags.spaced then rest
    else
      match rest with
      | '#' :: rest => skipSpace flags fuel (rest.dropWhile (· ≠ '\n'))
      | c :: after => if Numeral.isBlank c then skipSpace flags fuel after else rest
      | [] => []

/-- Flags with letters, which are switched off after a hyphen. -/
def flagsOf? : Bool → Flags → List Char → Option Flags
  | _, flags, [] => some flags
  | on, flags, c :: rest =>
    match c with
    | '-' => flagsOf? false flags rest
    | '^' => flagsOf? on {} rest
    | 'i' => flagsOf? on { flags with folds := on } rest
    | 'm' => flagsOf? on { flags with byLine := on } rest
    | 's' => flagsOf? on { flags with dotAll := on } rest
    | 'x' => flagsOf? on { flags with spaced := on } rest
    | 'n' => flagsOf? on { flags with unnumbered := on } rest
    | 'a' | 'u' | 'l' | 'd' | 'p' => flagsOf? on flags rest
    | _ => none

/-- The lengths of what an expression matches, if it is only one. -/
def width? : Ordered → Option Nat
  | .empty | .edge _ | .look _ _ _ | .keep => some 0
  | .char _ _ | .any _ | .set _ _ _ => some 1
  | .sequence first second => do return (← width? first) + (← width? second)
  | .either first second => do
    let one ← width? first
    if (← width? second) = one then return one else none
  | .repeated body least most _ => do
    if most = some least then return (← width? body) * least else none
  | .group _ body | .atomic body => width? body
  | .again _ _ => none

/-- True when each alternative has one length. -/
def isFixed : Ordered → Bool
  | .either first second => isFixed first && isFixed second
  | .group _ body => isFixed body
  | regex => (width? regex).isSome

def sequenceOf : List Ordered → Ordered
  | [] => .empty
  | [one] => one
  | first :: rest => .sequence first (sequenceOf rest)

/-- A name up to a closing character, and what follows that. -/
def nameUpTo (close : Char) (rest : List Char) : Except Fault (String × List Char) :=
  let (name, after) := rest.span fun c => c.isAlphanum || c = '_'
  match after with
  | c :: after => if c = close && !name.isEmpty then .ok (String.ofList name, after) else .error .badName
  | [] => .error .badName

/-- The group that a text refers to: a number, one counted back from here, or a name. -/
def reference (reading : Reading) (text : String) : Except Fault Nat :=
  match text.toList with
  | '-' :: digits =>
    match (String.ofList digits).toNat? with
    | some back =>
      if back ≤ reading.groups && back ≠ 0 then .ok (reading.groups + 1 - back) else .error .badReference
    | none => .error .badReference
  | _ =>
    match text.toNat?, reading.names.lookup text with
    | some number, _ => .ok number
    | none, some number => .ok number
    | none, none => .error .badReference

/-- What is read next after a backslash. -/
def escaped (flags : Flags) (reading : Reading) (c : Char) (rest : List Char) :
    Except Fault (Ordered × List Char) := do
  let refer (close : Char) (rest : List Char) : Except Fault (Ordered × List Char) := do
    let (name, after) := rest.span (· ≠ close)
    if after.isEmpty then throw .badName
    return (.again flags.folds (← reference reading (String.ofList name)), after.drop 1)
  match classSet? c with
  | some (inverted, members) => return (.set false inverted members, rest)
  | none =>
    match c with
    | 'b' => return (.edge .boundary, rest)
    | 'B' => return (.edge .noBoundary, rest)
    | 'A' => return (.edge .textStart, rest)
    | 'z' => return (.edge .textEnd, rest)
    | 'Z' => return (.edge .lastLineEnd, rest)
    | 'G' => return (.edge .searchStart, rest)
    | 'K' => return (.keep, rest)
    | 'R' =>
      let pair := Ordered.sequence (.char false '\r') (.char false '\n')
      return (.atomic (.either pair (.set false false [(false, .range '\n' '\r')])), rest)
    | 'p' | 'P' => throw .badProperty
    | 'g' =>
      match rest with
      | '\x7b' :: rest => refer '\x7d' rest
      | rest =>
        let (digits, after) := rest.span fun c => c.isDigit || c = '-'
        return (.again flags.folds (← reference reading (String.ofList digits)), after)
    | 'k' =>
      match rest with
      | '<' :: rest => refer '>' rest
      | '\'' :: rest => refer '\'' rest
      | '\x7b' :: rest => refer '\x7d' rest
      | _ => throw .badName
    | c =>
      if c.isDigit && c ≠ '0' then
        let (digits, after) := (c :: rest).span Char.isDigit
        let number := (String.ofList digits).toNat?.getD 0
        if number < 10 || number ≤ reading.groups then return (.again flags.folds number, after)
        let (value, count, after) := Numeral.digits 8 3 0 0 (c :: rest)
        if count = 0 then return (.char flags.folds c, rest)
        return (.char flags.folds (Escape.byte value), after)
      let (d, rest) := escapedChar c rest
      return (.char flags.folds d, rest)

/-- The text up to the mark that ends quoting, and what follows. -/
def quoted : List Char → List Char × List Char
  | [] => ([], [])
  | '\\' :: 'E' :: rest => ([], rest)
  | c :: rest =>
    let (text, after) := quoted rest
    (c :: text, after)

/-- Passes over the end of a group. -/
def closed : List Char → Except Fault (List Char)
  | ')' :: rest => .ok rest
  | _ => .error .openGroup

/-- Letters for all that follows, in a group of their own. -/
def groupFlags? (flags : Flags) (rest : List Char) : Option (Flags × List Char) :=
  let (letters, after) := rest.span fun c => c.isAlpha || c = '-' || c = '^'
  match flagsOf? true flags letters, after with
  | some flags, ')' :: after => some (flags, after)
  | _, _ => none

/-- Reads the repetitions after a part. -/
def repeats (flags : Flags) : Nat → Ordered → List Char → Except Fault (Ordered × List Char)
  | 0, regex, rest => .ok (regex, rest)
  | fuel + 1, regex, rest =>
    match repetition? (skipSpace flags (rest.length + 1) rest) with
    | none => .ok (regex, rest)
    | some (least, most, rest) =>
      if most.any (· < least) then .error .badInterval
      else
        let (greed, rest) := greedOf rest
        repeats flags fuel (.repeated regex least most greed) rest

mutual

/-- Reads alternatives up to the end of a group. -/
def readEither : Nat → Flags → List Char → Reading → Except Fault (Ordered × List Char × Reading)
  | 0, _, rest, reading => .ok (.empty, rest, reading)
  | fuel + 1, flags, rest, reading => do
    let (first, rest, reading, flags) ← readSequence fuel flags [] rest reading
    match rest with
    | '|' :: rest =>
      let (second, rest, reading) ← readEither fuel flags rest reading
      return (.either first second, rest, reading)
    | rest => return (first, rest, reading)

/-- Reads a sequence up to a bar or the end of a group. The parts read before come in reverse. -/
def readSequence : Nat → Flags → List Ordered → List Char → Reading →
    Except Fault (Ordered × List Char × Reading × Flags)
  | 0, flags, sofar, rest, reading => .ok (sequenceOf sofar.reverse, rest, reading, flags)
  | fuel + 1, flags, sofar, rest, reading => do
    let rest := skipSpace flags (rest.length + 1) rest
    let add (regex : Ordered) (rest : List Char) (reading : Reading) := do
      let (regex, rest) ← repeats flags (rest.length + 1) regex rest
      readSequence fuel flags (regex :: sofar) rest reading
    match rest with
    | [] => return (sequenceOf sofar.reverse, [], reading, flags)
    | c :: after =>
      match c with
      | '|' | ')' => return (sequenceOf sofar.reverse, rest, reading, flags)
      | '.' => add (.any flags.dotAll) after reading
      | '^' => add (.edge (if flags.byLine then .lineStart else .textStart)) after reading
      | '$' => add (.edge (if flags.byLine then .lineEnd else .lastLineEnd)) after reading
      | '[' =>
        let (inverted, inner) := match after with
          | '^' :: inner => (true, inner)
          | inner => (false, inner)
        let (members, after) ← setMembers (inner.length + 1) true inner
        add (.set flags.folds inverted members) after reading
      | '\\' =>
        match after with
        | [] => throw .hangingBackslash
        | 'Q' :: after =>
          let (text, after) := quoted after
          match text.reverse with
          | [] => readSequence fuel flags sofar after reading
          | last :: before =>
            let before := before.map (Ordered.char flags.folds)
            let (regex, after) ← repeats flags (after.length + 1) (.char flags.folds last) after
            readSequence fuel flags (regex :: before ++ sofar) after reading
        | 'E' :: after => readSequence fuel flags sofar after reading
        | d :: after =>
          let (regex, after) ← escaped flags reading d after
          add regex after reading
      | '(' =>
        match after with
        | '?' :: '#' :: after => readSequence fuel flags sofar ((after.dropWhile (· ≠ ')')).drop 1) reading
        | '?' :: after =>
          match groupFlags? flags after with
          | some (flags, after) => readSequence fuel flags sofar after reading
          | none =>
            let (regex, after, reading) ← readGroup fuel flags after reading
            add regex after reading
        | after =>
          if flags.unnumbered then
            let (body, after, reading) ← readEither fuel flags after reading
            add body (← closed after) reading
          else
            let number := reading.groups + 1
            let (body, after, reading) ← readEither fuel flags after { reading with groups := number }
            add (.group number body) (← closed after) reading
      | c =>
        if (repetition? rest).isSome then throw .badRepeat
        add (.char flags.folds c) after reading

/-- Reads a group after its question mark. -/
def readGroup : Nat → Flags → List Char → Reading → Except Fault (Ordered × List Char × Reading)
  | 0, _, _, _ => .error .openGroup
  | fuel + 1, flags, rest, reading => do
    let inner (flags : Flags) (rest : List Char) (wrap : Ordered → Ordered) :
        Except Fault (Ordered × List Char × Reading) := do
      let (body, rest, reading) ← readEither fuel flags rest reading
      return (wrap body, ← closed rest, reading)
    let named (close : Char) (rest : List Char) : Except Fault (Ordered × List Char × Reading) := do
      let (name, rest) ← nameUpTo close rest
      let number := reading.groups + 1
      let reading : Reading := { groups := number, names := (name, number) :: reading.names }
      let (body, rest, reading) ← readEither fuel flags rest reading
      return (.group number body, ← closed rest, reading)
    let behind (negative : Bool) (rest : List Char) : Except Fault (Ordered × List Char × Reading) := do
      let (body, rest, reading) ← readEither fuel flags rest reading
      if !isFixed body then throw .movingLook
      return (.look false negative body, ← closed rest, reading)
    match rest with
    | ':' :: rest => inner flags rest id
    | '|' :: rest => inner flags rest id
    | '=' :: rest => inner flags rest (.look true false)
    | '!' :: rest => inner flags rest (.look true true)
    | '>' :: rest => inner flags rest .atomic
    | '<' :: '=' :: rest => behind false rest
    | '<' :: '!' :: rest => behind true rest
    | '<' :: rest => named '>' rest
    | '\'' :: rest => named '\'' rest
    | 'P' :: '<' :: rest => named '>' rest
    | 'P' :: '=' :: rest =>
      let (name, rest) ← nameUpTo ')' rest
      return (.again flags.folds (← reference reading name), rest, reading)
    | rest =>
      let (letters, after) := rest.span fun c => c.isAlpha || c = '-' || c = '^'
      match flagsOf? true flags letters, after with
      | some flags, ':' :: after => inner flags after id
      | _, _ => throw .badGroup

end
/-- True when all references are to groups that there are. -/
def refersWithin (groups : Nat) : Ordered → Bool
  | .again _ number => number ≤ groups
  | .sequence first second | .either first second => refersWithin groups first && refersWithin groups second
  | .repeated body _ _ _ | .group _ body | .look _ _ body | .atomic body => refersWithin groups body
  | _ => true

/-- Reads an expression. Also tells how many groups it has, and which names they have. -/
def read (flags : Flags) (text : String) : Except Fault (Ordered × Reading) := do
  let chars := text.toList
  let (regex, rest, reading) ← readEither (4 * chars.length + 8) flags chars {}
  if !rest.isEmpty then throw .closedGroup
  if !refersWithin reading.groups regex then throw .badReference
  return (regex, reading)

end Shell.Machine.Ordered
