import Shell.Machine.CharSet

/-! # Patterns of scripts

Texts whose characters may be quoted, and the patterns that they make up. In a pattern a character that is not
quoted may stand for others.
-/

namespace Shell.Machine.Script

/-- A character, and whether it is quoted. -/
structure Glyph where
  char : Char
  quoted : Bool
deriving Repr, DecidableEq, Inhabited

namespace Glyph

/-- The characters of a text, all of them quoted or none. -/
def ofString (text : String) (quoted : Bool) : List Glyph :=
  text.toList.map fun char => { char, quoted }

/-- The characters without the knowledge what is quoted. -/
def text (glyphs : List Glyph) : String :=
  String.ofList (glyphs.map Glyph.char)

/-- True for a character that is not quoted and stands for itself no longer. -/
def is (c : Char) (glyph : Glyph) : Bool :=
  glyph.char = c && !glyph.quoted

end Glyph

/-- A part of a pattern. -/
inductive Piece where
  | char (c : Char)
  | anyChar
  | anyText
  | set (inverted : Bool) (members : List SetMember)
deriving Repr, DecidableEq, Inhabited

namespace Pattern

/-- The name of a class after `[:`, and what follows it. -/
def className? (glyphs : List Glyph) : Option (String × List Glyph) :=
  let (name, rest) := glyphs.span fun glyph => glyph.char.isAlpha
  match rest with
  | a :: b :: rest =>
    let name := Glyph.text name
    if a.char = ':' && b.char = ']' && (SetMember.inClass? name 'a').isSome then some (name, rest) else none
  | _ => none

/-- A character of a set, which a backslash may stand before. -/
def setChar : List Glyph → Option (Char × List Glyph)
  | [] => none
  | glyph :: rest =>
    match glyph.is '\\', rest with
    | true, next :: rest => some (next.char, rest)
    | _, _ => some (glyph.char, rest)

/-- The members of a set up to the bracket that closes it, and what follows. -/
def members : Nat → Bool → List Glyph → Option (List SetMember × List Glyph)
  | 0, _, _ => none
  | _, _, [] => none
  | fuel + 1, first, glyph :: rest => do
    if glyph.is ']' && !first then return ([], rest)
    match
      (if glyph.is '[' && (rest.head?.any fun next => next.char = ':') then className? (rest.drop 1)
      else none) with
    | some (name, rest) =>
      let (more, rest) ← members fuel false rest
      return (.named name :: more, rest)
    | none =>
      let (low, rest) ← setChar (glyph :: rest)
      match rest with
      | dash :: next :: after =>
        if dash.is '-' && !next.is ']' then
          let (high, rest) ← setChar (next :: after)
          let (more, rest) ← members fuel false rest
          return (.range low high :: more, rest)
        else
          let (more, rest) ← members fuel false rest
          return (.range low low :: more, rest)
      | _ =>
        let (more, rest) ← members fuel false rest
        return (.range low low :: more, rest)

/-- The set after an opening bracket, and what follows it, if the set is closed. -/
def set? (glyphs : List Glyph) : Option (Piece × List Glyph) := do
  let (inverted, rest) :=
    match glyphs with
    | glyph :: rest => if glyph.is '!' || glyph.is '^' then (true, rest) else (false, glyphs)
    | [] => (false, [])
  let (members, rest) ← members (rest.length + 1) true rest
  return (.set inverted members, rest)

/-- The pattern that characters make up. -/
def read : Nat → List Glyph → List Piece
  | 0, _ => []
  | _, [] => []
  | fuel + 1, glyph :: rest =>
    if glyph.is '*' then .anyText :: read fuel rest
    else if glyph.is '?' then .anyChar :: read fuel rest
    else if glyph.is '[' then
      match set? rest with
      | some (piece, rest) => piece :: read fuel rest
      | none => .char '[' :: read fuel rest
    else if glyph.is '\\' then
      match rest with
      | next :: rest => .char next.char :: read fuel rest
      | [] => [.char '\\']
    else .char glyph.char :: read fuel rest

/-- The pattern that characters make up. -/
def ofGlyphs (glyphs : List Glyph) : List Piece :=
  read (glyphs.length + 1) glyphs

/-- Whether one character is what a part of a pattern stands for. -/
def Piece.accepts (c : Char) : Piece → Bool
  | .char d => c = d
  | .anyChar => true
  | .anyText => false
  | .set inverted members => members.any (SetMember.contains c) != inverted

/-- Whether a text is what a pattern stands for. -/
def accepts : List Piece → List Char → Bool
  | [], text => text.isEmpty
  | .anyText :: rest, [] => accepts rest []
  | .anyText :: rest, c :: text => accepts rest (c :: text) || accepts (.anyText :: rest) text
  | _ :: _, [] => false
  | piece :: rest, c :: text => Piece.accepts c piece && accepts rest text
termination_by pieces text => (pieces.length, text.length)

/-- True when characters have a meaning of their own in a pattern. -/
def isActive (glyphs : List Glyph) : Bool :=
  glyphs.any fun glyph => glyph.is '*' || glyph.is '?' || glyph.is '['

/-- The text without what matches a pattern at its start; `counts` are the lengths to be tried. -/
def trimStart (pattern : List Piece) (text : List Char) (counts : List Nat) : List Char :=
  match counts.find? fun count => accepts pattern (text.take count) with
  | some count => text.drop count
  | none => text

/-- The text without what matches a pattern at its end; `counts` are the lengths to be tried. -/
def trimEnd (pattern : List Piece) (text : List Char) (counts : List Nat) : List Char :=
  let size := text.length
  match counts.find? fun count => accepts pattern (text.drop (size - count)) with
  | some count => text.take (size - count)
  | none => text

/-- A text without what matches a pattern at one of its ends. -/
def trim (atEnd longest : Bool) (pattern : List Piece) (text : String) : String :=
  let chars := text.toList
  let lengths := List.range (chars.length + 1)
  let counts := if longest then lengths.reverse else lengths
  String.ofList (if atEnd then trimEnd pattern chars counts else trimStart pattern chars counts)

end Pattern

end Shell.Machine.Script

/-! ## Lists in patterns

Patterns in which a mark before parentheses says how often one of the patterns between them is to match: once, at most
once, any number of times, at least once, or not at all.
-/

namespace Shell.Machine.Script.Pattern

/-- A part of a pattern that may have lists in it. -/
inductive Form where
  | piece (piece : Piece)
  | list (mark : Char) (choices : List (List Form))

def opensList : List Glyph → Bool
  | mark :: opening :: _ => ['?', '*', '+', '@', '!'].any mark.is && opening.is '('
  | _ => false

mutual

/-- Reads the parts of a pattern, up to a bar or a closing parenthesis if it is in a list. -/
def readForms : Nat → Bool → List Glyph → List Form × List Glyph
  | 0, _, glyphs => ([], glyphs)
  | _, _, [] => ([], [])
  | fuel + 1, nested, glyph :: rest =>
    if nested && (glyph.is '|' || glyph.is ')') then ([], glyph :: rest)
    else if opensList (glyph :: rest) then
      let (choices, after) := readChoices fuel (rest.drop 1)
      let (forms, after) := readForms fuel nested after
      (.list glyph.char choices :: forms, after)
    else
      let (piece, after) : Piece × List Glyph :=
        if glyph.is '*' then (.anyText, rest)
        else if glyph.is '?' then (.anyChar, rest)
        else if glyph.is '[' then (set? rest).getD (.char '[', rest)
        else if glyph.is '\\' then
          match rest with
          | next :: after => (.char next.char, after)
          | [] => (.char '\\', [])
        else (.char glyph.char, rest)
      let (forms, after) := readForms fuel nested after
      (.piece piece :: forms, after)

/-- Reads the patterns of a list and the parenthesis that closes it. -/
def readChoices : Nat → List Glyph → List (List Form) × List Glyph
  | 0, glyphs => ([], glyphs)
  | fuel + 1, glyphs =>
    let (first, rest) := readForms fuel true glyphs
    match rest with
    | glyph :: rest =>
      if glyph.is '|' then
        let (others, rest) := readChoices fuel rest
        (first :: others, rest)
      else ([first], rest)
    | [] => ([first], [])

end

/-- The pattern that characters make up, in which there may be lists. -/
def formsOf (glyphs : List Glyph) : List Form :=
  (readForms (2 * glyphs.length + 2) false glyphs).1

/-- Texts that are ends of one text, each of them once. -/
def distinctEnds (ends : List (List Char)) : List (List Char) :=
  ends.foldr
    (fun rest sofar => if sofar.any fun other => other.length = rest.length then sofar else rest :: sofar) []

def endsOf : List Char → List (List Char)
  | [] => [[]]
  | c :: rest => (c :: rest) :: endsOf rest

mutual

/-- What may be left of a text after what a pattern matches at its start. -/
def restsAfter : Nat → List Form → List Char → List (List Char)
  | 0, _, _ => []
  | _, [], text => [text]
  | fuel + 1, form :: more, text =>
    distinctEnds ((restsAfterOne fuel form text).flatMap (restsAfter fuel more))

/-- What may be left of a text after what a part of a pattern matches at its start. -/
def restsAfterOne : Nat → Form → List Char → List (List Char)
  | 0, _, _ => []
  | _, .piece .anyText, text => endsOf text
  | _, .piece _, [] => []
  | _, .piece piece, c :: rest => if Piece.accepts c piece then [rest] else []
  | fuel + 1, .list mark choices, text =>
    let once (text : List Char) : List (List Char) := choices.flatMap fun choice => restsAfter fuel choice text
    match mark with
    | '@' => distinctEnds (once text)
    | '?' => distinctEnds (text :: once text)
    | '*' => repeatedly fuel choices [text] [text]
    | '+' =>
      let first := distinctEnds (once text)
      repeatedly fuel choices first first
    | _ =>
      (endsOf text).filter fun rest =>
        let start := text.take (text.length - rest.length)
        !choices.any fun choice => (restsAfter fuel choice start).any List.isEmpty

/-- What may be left after any number of further matches, given what has been found and what is new. -/
def repeatedly : Nat → List (List Form) → List (List Char) → List (List Char) → List (List Char)
  | 0, _, found, _ => found
  | fuel + 1, choices, found, fresh =>
    let next := distinctEnds (fresh.flatMap fun text => choices.flatMap fun choice => restsAfter fuel choice text)
    let new := next.filter fun rest => !found.any fun other => other.length = rest.length
    if new.isEmpty then found else repeatedly fuel choices (found ++ new) new

end

/-- Whether a text is what a pattern with lists stands for. -/
def acceptsForms (forms : List Form) (text : List Char) : Bool :=
  (restsAfter 1000000 forms text).any List.isEmpty

/-- What a pattern says about texts. -/
structure Test where
  /-- Whether a text matches. -/
  accepts : List Char → Bool
  /-- The length of all texts that match, if they have one length. -/
  size? : Option Nat := none

/-- What characters say as a pattern, which may have lists in it and may not tell capital letters from small ones. -/
def testOf (hasLists folds : Bool) (glyphs : List Glyph) : Test :=
  let fold (c : Char) : Char := if folds then c.toLower else c
  let glyphs := glyphs.map fun glyph => { glyph with char := fold glyph.char }
  if hasLists && (List.range glyphs.length).any fun place => opensList (glyphs.drop place) then
    let forms := formsOf glyphs
    { accepts := fun text => acceptsForms forms (text.map fold) }
  else
    let pieces := ofGlyphs glyphs
    { accepts := fun text => Pattern.accepts pieces (text.map fold)
      size? := if pieces.contains .anyText then none else some pieces.length }

/-- The lengths that texts may have that match, the longest first. -/
def Test.lengths (test : Test) (most : Nat) : List Nat :=
  match test.size? with
  | some size => if size ≤ most then [size] else []
  | none => (List.range (most + 1)).reverse

/-- A text without what passes a test at one of its ends. -/
def trimTested (atEnd longest : Bool) (test : Test) (text : String) : String :=
  let chars := text.toList
  let size := chars.length
  let counts := if longest then test.lengths size else (test.lengths size).reverse
  let found := counts.find? fun count => test.accepts (if atEnd then chars.drop (size - count) else chars.take count)
  match found with
  | none => text
  | some count => String.ofList (if atEnd then chars.take (size - count) else chars.drop count)

/-- The length of the longest text at the start that passes a test. -/
def longestAt? (test : Test) (text : List Char) : Option Nat :=
  match test.size? with
  | some size =>
    let start := text.take size
    if start.length = size && test.accepts start then some size else none
  | none => (test.lengths text.length).find? fun count => test.accepts (text.take count)

/-- The text with what passes a test replaced, wherever it stands or at first. What is empty is not replaced. -/
def replaceFrom (test : Test) (all : Bool) (replacement : List Char → List Char) : Nat → List Char → List Char
  | 0, text => text
  | _, [] => []
  | fuel + 1, c :: rest =>
    match longestAt? test (c :: rest) with
    | some (count + 1) =>
      let after := rest.drop count
      replacement ((c :: rest).take (count + 1)) ++
        (if all then replaceFrom test all replacement fuel after else after)
    | _ => c :: replaceFrom test all replacement fuel rest

/-- The text with what passes a test at its start replaced. -/
def replaceStart (test : Test) (replacement : List Char → List Char) (text : List Char) : List Char :=
  match longestAt? test text with
  | some count => replacement (text.take count) ++ text.drop count
  | none => text

/-- The text with what passes a test at its end replaced. -/
def replaceEnd (test : Test) (replacement : List Char → List Char) (text : List Char) : List Char :=
  let size := text.length
  match (test.lengths size).find? fun count => test.accepts (text.drop (size - count)) with
  | some count => text.take (size - count) ++ replacement (text.drop (size - count))
  | none => text

end Shell.Machine.Script.Pattern

/-! ## Wildcards

Whether a name is one that a pattern with wildcards stands for.
-/

namespace Shell.Machine.Wildcard

def fits (pattern text : String) : Bool :=
  let pieces := Script.Pattern.ofGlyphs (Script.Glyph.ofString pattern false)
  Script.Pattern.accepts pieces text.toList

/-- Whether a text is what a pattern stands for, where capital letters and small ones are the same. -/
def fitsFolded (pattern text : String) : Bool :=
  fits pattern.toLower text.toLower

/-- Whether a name is what a pattern stands for, where a point at the start only stands for itself. -/
def fitsName (pattern name : String) : Bool :=
  (!name.startsWith "." || pattern.startsWith ".") && fits pattern name

end Shell.Machine.Wildcard
