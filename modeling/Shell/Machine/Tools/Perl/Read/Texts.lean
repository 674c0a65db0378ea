import Shell.Machine.Tools.Perl.Read.Places

/-! # Reading texts

How texts are written down in which variables are replaced, and patterns, which are read in nearly the same way.
-/

namespace Shell.Machine.Perl

namespace Reader

/-- What a character after a backslash stands for in a text, and what follows it. -/
def escapeAfter (c : Char) (rest : List Char) : List Char × List Char :=
  let code (base : Nat) (digits : List Char) : Char :=
    let (value, _, _) := Numeral.digits base digits.length 0 0 digits
    Char.ofNat value
  let encoded (value : Nat) : List Char :=
    if value < 256 then [Char.ofNat value]
    else ((String.singleton (Char.ofNat value)).toUTF8.toList).map fun byte => Char.ofNat byte.toNat
  match c with
  | 'n' => (['\n'], rest)
  | 't' => (['\t'], rest)
  | 'r' => (['\r'], rest)
  | 'a' => (['\x07'], rest)
  | 'e' => (['\x1b'], rest)
  | 'f' => (['\x0c'], rest)
  | 'b' => (['\x08'], rest)
  | 'x' =>
    match rest with
    | '\x7b' :: inner =>
      let digits := inner.takeWhile (· ≠ '\x7d')
      let (value, _, _) := Numeral.digits 16 digits.length 0 0 digits
      (encoded value, inner.drop (digits.length + 1))
    | rest =>
      let digits := (rest.take 2).takeWhile fun c => (Numeral.digit? 16 c).isSome
      ([code 16 digits], rest.drop digits.length)
  | 'c' => ([Char.ofNat (((rest.head?.map Char.toUpper).getD '@').toNat % 32)], rest.drop 1)
  | c =>
    if '0' ≤ c && c ≤ '7' then
      let digits := c :: (rest.take 2).takeWhile fun c => '0' ≤ c && c ≤ '7'
      ([code 8 digits], rest.drop (digits.length - 1))
    else ([c], rest)

def flagsOf (letters : List Char) : PatternFlags :=
  { letters := letters.filter fun c => "imsxn".contains c
    global := letters.contains 'g', keeps := letters.contains 'c', returns := letters.contains 'r'
    evaluates := (letters.filter (· = 'e')).length }

/-- The characters that a text for transliteration stands for, with its ranges written out. -/
def expandRanges : List Char → List Char
  | c :: '-' :: d :: rest =>
    if c = '\\' then c :: expandRanges ('-' :: d :: rest)
    else (List.range (d.toNat + 1 - c.toNat)).map (fun place => Char.ofNat (c.toNat + place)) ++ expandRanges rest
  | c :: rest => c :: expandRanges rest
  | [] => []
termination_by text => text.length

/-- The characters of a text for transliteration without its escapes. -/
def unescapeSet : Nat → List Char → List Char
  | 0, _ => []
  | fuel + 1, text =>
    match text with
    | '\\' :: '-' :: rest => '\\' :: '-' :: unescapeSet fuel rest
    | '\\' :: '\\' :: rest => '\\' :: unescapeSet fuel rest
    | '\\' :: c :: rest =>
      let (chars, rest) := escapeAfter c rest
      chars ++ unescapeSet fuel rest
    | c :: rest => c :: unescapeSet fuel rest
    | [] => []

/-- A pattern without the backslashes before slashes. -/
def unescapeDelimiter : List Char → List Char
  | '\\' :: '/' :: rest => '/' :: unescapeDelimiter rest
  | '\\' :: c :: rest => '\\' :: c :: unescapeDelimiter rest
  | c :: rest => c :: unescapeDelimiter rest
  | [] => []

/-- A text without the backslashes before a character. -/
def unescapeOnly (close : Char) : List Char → List Char
  | '\\' :: c :: rest =>
    if c = close && c ≠ '\\' then c :: unescapeOnly close rest
    else '\\' :: c :: unescapeOnly close rest
  | c :: rest => c :: unescapeOnly close rest
  | [] => []

/-- The second of two texts that a word quotes, after the first one, which a character has opened. -/
def secondPart (open_ : Char) : Reader (Char × List Char) := do
  if closerOf open_ ≠ open_ then
    skipSpace
    delimited
  else
    modify fun source => { source with input := open_ :: source.input }
    delimited

mutual

/-- The parts of a text whose characters come next. Those read before come in reverse. -/
def textParts (nested : Nested) : Nat → TextKind → Bool → List Expr → Reader (List Expr)
  | 0, _, _, sofar => return sofar.reverse
  | fuel + 1, kind, untilEnd, sofar => do
    match ← ahead with
    | [] => return sofar.reverse
    | '\\' :: 'E' :: _ =>
      skip 2
      if untilEnd then return sofar.reverse else textParts nested fuel kind untilEnd sofar
    | _ =>
      let part ← textPart nested fuel kind
      let sofar := match sofar, part with
        | .text before :: others, .text more => .text (before ++ more) :: others
        | sofar, part => part :: sofar
      textParts nested fuel kind untilEnd sofar

def textPart (nested : Nested) : Nat → TextKind → Reader Expr
  | 0, _ => misfit
  | fuel + 1, kind => do
    let input ← ahead
    match input with
    | '\\' :: c :: rest =>
      let changed (name : String) : Reader Expr := do
        skip 2
        return .builtin name [joinedParts (← textParts nested fuel kind true [])]
      let once (name : String) : Reader Expr := do
        skip 2
        return .builtin name [← textPart nested fuel kind]
      match c with
      | 'U' => changed "uc"
      | 'L' => changed "lc"
      | 'Q' => changed "quotemeta"
      | 'F' => changed "fc"
      | _ =>
        if kind = .pattern then
          skip 2
          return .text (String.ofList ['\\', c])
        else
          match c with
          | 'u' => once "ucfirst"
          | 'l' => once "lcfirst"
          | _ =>
            let (chars, after) := escapeAfter c rest
            skip (input.length - after.length)
            return .text (String.ofList chars)
    | '$' :: c :: rest =>
      let isVariable := isNameStart c || c.isDigit || c = '\x7b' || c = '$' || c = ':' ||
        (if kind = .pattern then c = '&' || (c = '#' && (rest.head? = some '\x7b' || rest.head? = some '$'))
          else isPunctuationName true c || c = '#')
      let isVariable := isVariable && !(c = ':' && rest.head? ≠ some ':') &&
        !(c = '$' && kind = .pattern && !(rest.head?.any isNameStart)) && !(c = '@' && kind = .pattern)
      if isVariable then scalarTerm nested kind
      else
        skip 1
        return .text "$"
    | '@' :: c :: _ =>
      if isNameStart c || c = '\x7b' || c = '$' || (c = ':' && kind = .text) then
        skip 1
        let base ← afterSign nested fuel
        let container (sort : Kind) : Reader Expr := do
          match base with
          | .inl name =>
            if kind = .text then requireDeclared ⟨sort, name⟩
            return .var ⟨sort, name⟩
          | .inr value => return .deref sort value
        match ← ahead with
        | '[' :: _ =>
          skip 1
          let places ← placeInBrackets nested
          return .spread (.elements (← container .array) places)
        | '\x7b' :: _ =>
          skip 1
          let keys ← keyInBraces nested
          return .spread (.entries (← container .hash) keys)
        | _ => return .spread (← container .array)
      else
        skip 1
        return .text "@"
    | c :: _ =>
      let run := input.takeWhile fun c => c ≠ '\\' && c ≠ '$' && c ≠ '@'
      if run.isEmpty then
        skip 1
        return .text (String.singleton c)
      else
        skip run.length
        return .text (String.ofList run)
    | [] => return .text ""

end

/-- A text in which variables are replaced. -/
def interpolated (nested : Nested) (kind : TextKind) (text : List Char) : Reader Expr := do
  let source ← get
  set { source with input := text, inText := true }
  let parts ← textParts nested patience kind false []
  modify fun inner =>
    { source with
      reports := inner.reports, functions := inner.functions, declared := inner.declared }
  return joinedParts parts

/-- A pattern between delimiters, with the letters after it. -/
def patternBetween (nested : Nested) : Reader (Expr × PatternFlags) := do
  let (open_, text) ← delimited
  let text := if open_ = '/' then unescapeDelimiter text else text
  let letters := (← ahead).takeWhile Char.isAlpha
  skip letters.length
  let parts ← if open_ = '\'' then pure (.text (String.ofList text)) else interpolated nested .pattern text
  return (parts, flagsOf letters)

/-- What is quoted after a word for quoting, which comes next. -/
def quoteLike (nested : Nested) (word : String) : Reader Expr := do
  mark
  skip word.length
  if ((← ahead).head?.any Char.isWhitespace) then skipSpace
  match word with
  | "q" =>
    let (open_, text) ← delimited
    return .text (String.ofList (plainText open_ text))
  | "qq" =>
    let (open_, text) ← delimited
    let text := if open_ = '"' || open_ = closerOf open_ then unescapeOnly (closerOf open_) text else text
    interpolated nested .text text
  | "qw" =>
    let (open_, text) ← delimited
    let words : Expr := .list ((wordsOf (plainText open_ text)).map Expr.text)
    if (← ahead).head? = some '[' then
      skip 1
      return .part words (← placeInBrackets nested)
    return words
  | "m" =>
    let (pattern, flags) ← patternBetween nested
    return .matches_ none false pattern flags
  | "qr" =>
    let (pattern, flags) ← patternBetween nested
    return .pattern pattern flags
  | "s" =>
    let (open_, text) ← delimited
    let text := if open_ = '/' then unescapeDelimiter text else text
    let pattern ← if open_ = '\'' then pure (.text (String.ofList text)) else interpolated nested .pattern text
    let (second, by_) ← secondPart open_
    let letters := (← ahead).takeWhile Char.isAlpha
    skip letters.length
    let flags := flagsOf letters
    let replacement ←
      if 0 < flags.evaluates then
        let source ← get
        set { source with input := by_, inText := false }
        let body ← inScope (nested.statements)
        modify fun inner => { source with reports := inner.reports }
        let value : Expr := match body with
          | [(_, .expr value)] => value
          | body => .block body
        pure (if 1 < flags.evaluates then Expr.builtin "eval" [value] else value)
      else if second = '\'' then pure (.text (String.ofList by_))
      else interpolated nested .text (if second = '/' then unescapeDelimiter by_ else by_)
    return .substitute none false pattern replacement flags
  | _ =>
    let (open_, text) ← delimited
    let (_, by_) ← secondPart open_
    let letters := (← ahead).takeWhile Char.isAlpha
    skip letters.length
    let expand (text : List Char) : List Char :=
      (expandRanges (unescapeSet (text.length + 1) (unescapeDelimiter text))).filter (· ≠ '\\')
    return .transliterate none false (expand text) (expand by_) letters

/-- What stands between angle brackets, or a here-document. -/
def angled (nested : Nested) : Reader Expr := do
  mark
  let input ← ahead
  match input with
  | '<' :: '<' :: rest =>
    let (indented, rest) := match rest with
      | '~' :: rest => (true, rest)
      | rest => (false, rest)
    match rest with
    | '>' :: '>' :: _ =>
      skip 4
      return .readLine (.text "ARGV")
    | c :: inner =>
      if c = '"' || c = '\'' then
        let ending := inner.takeWhile (· ≠ c)
        skip (input.length - inner.length + ending.length + 1)
        let text ← hereDocument ending indented
        if c = '"' then interpolated nested .text text else return .text (String.ofList text)
      else if isNameStart c then
        let ending := (c :: inner).takeWhile isNamePart
        skip (input.length - inner.length + ending.length - 1)
        let text ← hereDocument ending indented
        interpolated nested .text text
      else misfit
    | [] => misfit
  | _ =>
    let (_, text) ← delimited
    match text with
    | [] => return .readLine (.text "ARGV")
    | '$' :: name =>
      if name.all isNamePart then
        requireDeclared ⟨.scalar, String.ofList name⟩
        return .readLine (.var ⟨.scalar, String.ofList name⟩)
      else return .glob (← interpolated nested .text text)
    | name =>
      if name.all fun c => isNamePart c || c = ':' then return .readLine (.text (String.ofList name))
      else return .glob (← interpolated nested .text text)

end Reader

end Shell.Machine.Perl
