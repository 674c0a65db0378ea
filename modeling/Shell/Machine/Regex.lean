import Shell.Machine.CharSet

/-! # Regular expressions

What a regular expression is and where it matches in a text. Of several matches that begin at the same place the
longest one counts, and of several ways to match so much that in which the parts to the left match most.
-/

namespace Shell.Machine

/-- A condition on a place in a text. -/
inductive Anchor where
  | textStart
  | textEnd
  | wordStart
  | wordEnd
  /-- Between a character of a word and one that is none. -/
  | boundary
  | noBoundary
deriving Repr, DecidableEq, Inhabited

/-- A regular expression. -/
inductive Regex where
  | empty
  | char (c : Char)
  | any
  | set (inverted : Bool) (members : List SetMember)
  | anchor (anchor : Anchor)
  | sequence (first second : Regex)
  | either (first second : Regex)
  /-- At least so many times and, if there is a bound, at most so many times. -/
  | repeated (body : Regex) (least : Nat) (most : Option Nat)
  /-- A part with a number, to which can be referred. -/
  | group (number : Nat) (body : Regex)
  /-- What a part has matched once more. -/
  | again (number : Nat)
deriving Repr, Inhabited

namespace Regex

/-- A text to search. -/
structure Subject where
  text : Array Char
  /-- Whether capital letters and small ones are the same. -/
  foldsCase : Bool := false
  /-- Whether lines inside of the text have starts and ends. -/
  hasLines : Bool := false

/-- A part of a text. -/
structure Span where
  start : Nat
  stop : Nat
deriving Repr, DecidableEq, Inhabited

/-- How far a match goes, and what the parts with numbers have matched. -/
structure Reached where
  place : Nat
  groups : List (Nat × Span) := []
deriving Repr, DecidableEq, Inhabited

def isWordChar (c : Char) : Bool :=
  c.isAlphanum || c = '_'

namespace Subject

/-- True when two characters count as the same. -/
def same (subject : Subject) (c d : Char) : Bool :=
  c = d || (subject.foldsCase && c.toLower = d.toLower)

/-- True when a character belongs to a set. -/
def inSet (subject : Subject) (inverted : Bool) (members : List SetMember) (c : Char) : Bool :=
  let holds := members.any fun member =>
    member.contains c || (subject.foldsCase && (member.contains c.toLower || member.contains c.toUpper))
  holds != inverted

/-- True when there is a character of a word at a place. -/
def isWordAt (subject : Subject) (place : Nat) : Bool :=
  (subject.text[place]?.map isWordChar).getD false

def holds (subject : Subject) (place : Nat) : Anchor → Bool
  | .textStart => place = 0 || (subject.hasLines && subject.text[place - 1]? = some '\n')
  | .textEnd => place = subject.text.size || (subject.hasLines && subject.text[place]? = some '\n')
  | .wordStart => subject.isWordAt place && (place = 0 || !subject.isWordAt (place - 1))
  | .wordEnd => !subject.isWordAt place && place ≠ 0 && subject.isWordAt (place - 1)
  | .boundary => subject.isWordAt place != (place ≠ 0 && subject.isWordAt (place - 1))
  | .noBoundary => subject.isWordAt place == (place ≠ 0 && subject.isWordAt (place - 1))

/-- True when the text from one place on is the text from another place on, for so many characters. -/
def repeats (subject : Subject) (one other : Nat) : Nat → Bool
  | 0 => true
  | count + 1 =>
    match subject.text[one]?, subject.text[other]? with
    | some c, some d => subject.same c d && subject.repeats (one + 1) (other + 1) count
    | _, _ => false

end Subject

/-- Adds a place to places in descending order, instead of the same one. -/
def insert (reached : Reached) : List Reached → List Reached
  | [] => [reached]
  | other :: rest =>
    if other.place = reached.place then reached :: rest
    else if other.place < reached.place then reached :: other :: rest
    else other :: insert reached rest

/-- Puts places in descending order. Of equal ones the first stays. -/
def arrange (all : List Reached) : List Reached :=
  all.foldr insert []

/-- Whether an expression stands for one character, and which characters it then accepts. -/
def single? (subject : Subject) : Regex → Option (Char → Bool)
  | char c => some (subject.same c)
  | any => some fun _ => true
  | set inverted members => some (subject.inSet inverted members)
  | _ => none

/-- How many characters in a row are accepted from a place on, of so many. -/
def countWhile (subject : Subject) (accepts : Char → Bool) (place : Nat) : Nat → Nat
  | 0 => 0
  | most + 1 =>
    match subject.text[place]? with
    | some c => if accepts c then countWhile subject accepts (place + 1) most + 1 else 0
    | none => 0

/-- Where one is after one more time, given where one is now. Only new places count. -/
def advance (step : Reached → List Reached) (known now : List Reached) : List Reached :=
  (arrange (now.flatMap step)).filter fun reached =>
    !known.any fun other => other.place = reached.place

/-- Goes on from some places at most so many times; the result is where one can be on the way. -/
def iterate (step : Reached → List Reached) : Nat → List Reached → List Reached → List Reached
  | 0, known, _ => known
  | count + 1, known, now =>
    match advance step known now with
    | [] => known
    | next => iterate step count (known ++ next) next

/-- Goes on from some places exactly so many times. -/
def times (step : Reached → List Reached) : Nat → List Reached → List Reached
  | 0, now => now
  | count + 1, now => times step count (arrange (now.flatMap step))

/-- Where matches end that begin where one is, in descending order. -/
def run (subject : Subject) : Regex → Reached → List Reached
  | empty, reached => [reached]
  | char c, reached =>
    match subject.text[reached.place]? with
    | some d => if subject.same c d then [{ reached with place := reached.place + 1 }] else []
    | none => []
  | any, reached =>
    if reached.place < subject.text.size then [{ reached with place := reached.place + 1 }] else []
  | set inverted members, reached =>
    match subject.text[reached.place]? with
    | some c =>
      if subject.inSet inverted members c then [{ reached with place := reached.place + 1 }] else []
    | none => []
  | anchor condition, reached => if subject.holds reached.place condition then [reached] else []
  | sequence first second, reached =>
    match run subject first reached with
    | [only] => run subject second only
    | several => arrange (several.flatMap (run subject second))
  | either first second, reached => arrange (run subject first reached ++ run subject second reached)
  | repeated body least most, reached =>
    match single? subject body with
    | some accepts =>
      let left := subject.text.size - reached.place
      let count := countWhile subject accepts reached.place (min left (most.getD left))
      ((List.range (count + 1 - least)).map fun fewer =>
        { reached with place := reached.place + count - fewer })
    | none =>
      let start := times (run subject body) least [reached]
      let count := match most with
        | none => subject.text.size + 1
        | some most => most - least
      arrange (iterate (run subject body) count start start)
  | group number body, reached =>
    (run subject body reached).map fun found =>
      { found with groups := (number, ⟨reached.place, found.place⟩) :: found.groups }
  | again number, reached =>
    match reached.groups.lookup number with
    | none => []
    | some span =>
      if subject.repeats span.start reached.place (span.stop - span.start) then
        [{ reached with place := reached.place + (span.stop - span.start) }]
      else []

/-- Where a regular expression has matched. -/
structure Match where
  span : Span
  groups : List (Nat × Span)
deriving Repr, DecidableEq, Inhabited

/-- The longest match of one of some regular expressions at a place. -/
def matchAt (subject : Subject) (all : List Regex) (place : Nat) : Option Match :=
  let reached := arrange (all.flatMap fun regex => (run subject regex { place }).take 1)
  reached.head?.map fun reached => { span := ⟨place, reached.place⟩, groups := reached.groups }

/-- All places where a match ends that begins at a place. -/
def endsAt (subject : Subject) (all : List Regex) (place : Nat) : List Nat :=
  (arrange (all.flatMap fun regex => run subject regex { place })).map Reached.place

/-- The first match, from a place on, of one of some regular expressions; so many places are tried. -/
def findFrom (subject : Subject) (all : List Regex) : Nat → Nat → Option Match
  | 0, _ => none
  | count + 1, place =>
    match matchAt subject all place with
    | some found => some found
    | none => findFrom subject all count (place + 1)

/-- The first match from a place on. -/
def find? (subject : Subject) (all : List Regex) (place : Nat) : Option Match :=
  findFrom subject all (subject.text.size + 1 - place) place

/-- A regular expression for a text that stands for itself. -/
def ofText (text : String) : Regex :=
  text.toList.foldr (fun c rest => sequence (char c) rest) empty

end Regex

end Shell.Machine
