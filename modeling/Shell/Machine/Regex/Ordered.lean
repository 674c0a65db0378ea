import Shell.Machine.Regex

/-! # Regular expressions with an order

Regular expressions whose alternatives are tried one after another: the first way to match counts, not the longest
one. How a part is repeated says what is tried first, and a part may look at what comes before or after it.
-/

namespace Shell.Machine

/-- What a repeated part tries first. -/
inductive Greed where
  /-- As often as possible. -/
  | greedy
  /-- As seldom as possible. -/
  | lazy
  /-- As often as possible, and nothing else after that. -/
  | possessive
deriving Repr, DecidableEq, Inhabited

/-- A condition on a place in a text, for expressions with an order. -/
inductive Edge where
  | textStart
  | textEnd
  /-- The end, or before a line break at the end. -/
  | lastLineEnd
  | lineStart
  | lineEnd
  | boundary
  | noBoundary
  /-- Where the search began. -/
  | searchStart
deriving Repr, DecidableEq, Inhabited

/-- A regular expression whose alternatives are tried in order. -/
inductive Ordered where
  | empty
  | char (folds : Bool) (c : Char)
  /-- Any character, or any but a line break. -/
  | any (withBreaks : Bool)
  | set (folds inverted : Bool) (members : List (Bool × SetMember))
  | edge (edge : Edge)
  | sequence (first second : Ordered)
  | either (first second : Ordered)
  | repeated (body : Ordered) (least : Nat) (most : Option Nat) (greed : Greed)
  | group (number : Nat) (body : Ordered)
  /-- What a group has matched once more. -/
  | again (folds : Bool) (number : Nat)
  /-- What comes after a place or before it, or does not. -/
  | look (ahead negative : Bool) (body : Ordered)
  /-- Only the first way to match counts. -/
  | atomic (body : Ordered)
  /-- The match begins here. -/
  | keep
deriving Repr, Inhabited

namespace Ordered

/-- A text to match. -/
structure Subject where
  text : Array Char
  /-- Where the search began. -/
  start : Nat := 0

/-- How far a match is. -/
structure State where
  place : Nat
  /-- Where the match begins, if that was moved. -/
  kept : Option Nat := none
  /-- What groups have matched, the latest first. -/
  groups : List (Nat × Regex.Span) := []
deriving Repr, DecidableEq, Inhabited

/-- True when two characters count as the same. -/
def same (folds : Bool) (c d : Char) : Bool :=
  c = d || (folds && c.toLower = d.toLower)

/-- True when a character belongs to a set. A member may stand for all characters that it does not contain. -/
def inSet (folds inverted : Bool) (members : List (Bool × SetMember)) (c : Char) : Bool :=
  let holds (c : Char) : Bool := members.any fun (negative, member) => member.contains c != negative
  (holds c || (folds && (holds c.toLower || holds c.toUpper))) != inverted

namespace Subject

/-- True when there is a character of a word at a place. -/
def isWordAt (subject : Subject) (place : Nat) : Bool :=
  (subject.text[place]?.map Regex.isWordChar).getD false

def holds (subject : Subject) (place : Nat) : Edge → Bool
  | .textStart => place = 0
  | .textEnd => place = subject.text.size
  | .lastLineEnd =>
    place = subject.text.size || (place + 1 = subject.text.size && subject.text[place]? = some '\n')
  | .lineStart => place = 0 || subject.text[place - 1]? = some '\n'
  | .lineEnd => place = subject.text.size || subject.text[place]? = some '\n'
  | .boundary => subject.isWordAt place != (place ≠ 0 && subject.isWordAt (place - 1))
  | .noBoundary => subject.isWordAt place == (place ≠ 0 && subject.isWordAt (place - 1))
  | .searchStart => place = subject.start

/-- True when the text from one place on is the text from another place on, for so many characters. -/
def repeats (subject : Subject) (folds : Bool) (one other : Nat) : Nat → Bool
  | 0 => true
  | count + 1 =>
    match subject.text[one]?, subject.text[other]? with
    | some c, some d => same folds c d && subject.repeats folds (one + 1) (other + 1) count
    | _, _ => false

end Subject

/-- Whether an expression stands for one character, and which characters it then accepts. -/
def single? : Ordered → Option (Char → Bool)
  | char folds c => some (same folds c)
  | any withBreaks => some fun c => withBreaks || c ≠ '\n'
  | set folds inverted members => some (inSet folds inverted members)
  | _ => none

/-- How many characters in a row are accepted from a place on, of so many. -/
def countWhile (subject : Subject) (accepts : Char → Bool) (place : Nat) : Nat → Nat
  | 0 => 0
  | most + 1 =>
    match subject.text[place]? with
    | some c => if accepts c then countWhile subject accepts (place + 1) most + 1 else 0
    | none => 0

/-- What a match goes on with. -/
abbrev Next := State → Option State

/-- Tries to go on after each of some numbers of characters, from one number up or from the other one down. -/
def tryCounts (state : State) (greed : Greed) (least : Nat) (next : Next) : Nat → Nat → Option State
  | 0, _ => none
  | fuel + 1, count =>
    let attempt (count : Nat) : Option State := next { state with place := state.place + count }
    match greed with
    | .possessive => attempt count
    | .greedy =>
      match attempt count with
      | some found => some found
      | none => if count ≤ least then none else tryCounts state greed least next fuel (count - 1)
    | .lazy =>
      match attempt (least + count - fuel) with
      | some found => some found
      | none => tryCounts state greed least next fuel count

/-- Repeats a step and goes on. A step that leads nowhere is not repeated once it need not be. -/
def iterate (step : State → Next → Option State) (greed : Greed) (least : Nat) (most : Option Nat) (next : Next) :
    Nat → Nat → State → Option State
  | 0, _, state => next state
  | fuel + 1, count, state =>
    let once (isFree : Bool) : Option State := step state fun after =>
      if isFree && after.place = state.place then none
      else iterate step greed least most next fuel (count + 1) after
    if count < least then once false
    else if most.any (· ≤ count) then next state
    else if greed = .lazy then
      match next state with
      | some found => some found
      | none => once true
    else
      match once true with
      | some found => some found
      | none => next state

/-- Matches an expression from where a match is, and goes on with what follows. -/
def run (subject : Subject) : Ordered → State → Next → Option State
  | empty, state, next => next state
  | char folds c, state, next =>
    match subject.text[state.place]? with
    | some d => if same folds c d then next { state with place := state.place + 1 } else none
    | none => none
  | any withBreaks, state, next =>
    match subject.text[state.place]? with
    | some c => if withBreaks || c ≠ '\n' then next { state with place := state.place + 1 } else none
    | none => none
  | set folds inverted members, state, next =>
    match subject.text[state.place]? with
    | some c => if inSet folds inverted members c then next { state with place := state.place + 1 } else none
    | none => none
  | edge condition, state, next => if subject.holds state.place condition then next state else none
  | sequence first second, state, next => run subject first state fun after => run subject second after next
  | either first second, state, next =>
    match run subject first state next with
    | some found => some found
    | none => run subject second state next
  | repeated body least most greed, state, next =>
    match single? body with
    | some accepts =>
      let left := subject.text.size - state.place
      let count := countWhile subject accepts state.place (min left (most.getD left))
      if count < least then none
      else tryCounts state greed least next (count - least + 1) (if greed = .lazy then count - least else count)
    | none =>
      let fuel := subject.text.size - state.place + least + 1
      match greed with
      | .possessive =>
        match iterate (run subject body) .greedy least most some fuel 0 state with
        | some after => next after
        | none => none
      | greed => iterate (run subject body) greed least most next fuel 0 state
  | group number body, state, next =>
    run subject body state fun after =>
      next { after with groups := (number, ⟨state.place, after.place⟩) :: after.groups }
  | again folds number, state, next =>
    match state.groups.lookup number with
    | none => none
    | some span =>
      let size := span.stop - span.start
      if subject.repeats folds span.start state.place size then next { state with place := state.place + size }
      else none
  | look ahead negative body, state, next =>
    let found : Option State :=
      if ahead then run subject body state some
      else
        (List.range (state.place + 1)).findSome? fun back =>
          run subject body { state with place := state.place - back } fun after =>
            if after.place = state.place then some after else none
    match negative, found with
    | true, some _ => none
    | true, none => next state
    | false, some after => next { after with place := state.place }
    | false, none => none
  | atomic body, state, next =>
    match run subject body state some with
    | some after => next after
    | none => none
  | keep, state, next => next { state with kept := some state.place }

def matchAt (subject : Subject) (regex : Ordered) (place : Nat) : Option Regex.Match :=
  (run subject regex { place } some).map fun state =>
    { span := ⟨state.kept.getD place, state.place⟩, groups := state.groups }

/-- The first match from a place on; so many places are tried. -/
def findFrom (subject : Subject) (regex : Ordered) : Nat → Nat → Option Regex.Match
  | 0, _ => none
  | count + 1, place =>
    match matchAt subject regex place with
    | some found => some found
    | none => findFrom subject regex count (place + 1)

/-- The first match from a place on. -/
def find? (subject : Subject) (regex : Ordered) (place : Nat) : Option Regex.Match :=
  findFrom { subject with start := place } regex (subject.text.size + 1 - place) place

end Ordered

end Shell.Machine
