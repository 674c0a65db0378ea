/-! # Differences of two sequences

The shortest way to turn one sequence into another by deleting and inserting. Searches from both ends meet in the
middle; what they find is then moved to where a reader expects it, as late as possible.
-/

namespace Shell.Machine

/-- Items that are deleted from one sequence and those that are inserted in their place from another. -/
structure Change where
  /-- How many items come before the change in the first sequence. -/
  start : Nat
  deleted : Nat
  /-- How many items come before the change in the second sequence. -/
  otherStart : Nat
  inserted : Nat
deriving Repr, DecidableEq, Inhabited

namespace Difference

/-- Two sequences, whose items are the same if their numbers are. -/
structure Pair where
  left : Array Nat
  right : Array Nat

/-- A part of both sequences: where it begins and where it ends in each. -/
structure Part where
  low : Nat
  high : Nat
  otherLow : Nat
  otherHigh : Nat
deriving Repr, DecidableEq, Inhabited

/-- True when the items at two places are the same. -/
def Pair.same (pair : Pair) (place other : Nat) : Bool :=
  pair.left[place]? == pair.right[other]?

/-- How many items are the same from two places on, of so many at most. -/
def Pair.forward (pair : Pair) : Nat → Nat → Nat → Nat
  | 0, _, _ => 0
  | most + 1, place, other =>
    if pair.same place other then pair.forward most (place + 1) (other + 1) + 1 else 0

/-- How many items are the same before two places, of so many at most. -/
def Pair.backward (pair : Pair) : Nat → Nat → Nat → Nat
  | 0, _, _ => 0
  | most + 1, place, other =>
    if pair.same (place - 1) (other - 1) then pair.backward most (place - 1) (other - 1) + 1 else 0

/-- A part without the same items at its beginning and at its end. -/
def Pair.trim (pair : Pair) (part : Part) : Part :=
  let least := min (part.high - part.low) (part.otherHigh - part.otherLow)
  let before := pair.forward least part.low part.otherLow
  let part := { part with low := part.low + before, otherLow := part.otherLow + before }
  let after := pair.backward (least - before) part.high part.otherHigh
  { part with high := part.high - after, otherHigh := part.otherHigh - after }

/-- A search from one end: how far it has come on each diagonal, and which diagonals it is on. -/
structure Front where
  reached : Array Int
  low : Int
  high : Int

/-- The place of a diagonal in the array of those reached. -/
def Pair.slot (pair : Pair) (diagonal : Int) : Nat :=
  (diagonal + pair.right.size + 1).toNat

/-- How far a search has come on a diagonal. -/
def Pair.at (pair : Pair) (front : Front) (diagonal : Int) : Int :=
  front.reached.getD (pair.slot diagonal) 0

/-- Notes how far a search has come on a diagonal. -/
def Pair.put (pair : Pair) (diagonal value : Int) (front : Front) : Front :=
  { front with reached := front.reached.setIfInBounds (pair.slot diagonal) value }

/-- Widens a search by one diagonal on each side, or narrows it where there is none. -/
def Pair.widen (pair : Pair) (part : Part) (border : Int) (front : Front) : Front :=
  let least : Int := part.low - part.otherHigh
  let greatest : Int := part.high - part.otherLow
  let front :=
    if least < front.low then pair.put (front.low - 2) border { front with low := front.low - 1 }
    else { front with low := front.low + 1 }
  if front.high < greatest then pair.put (front.high + 2) border { front with high := front.high + 1 }
  else { front with high := front.high - 1 }

/-- Goes on from the beginning on every second diagonal, so many. A place where the searches meet ends it. -/
def Pair.goForward (pair : Pair) (part : Part) (other : Front) (meets : Bool) :
    Nat → Int → Front → Front × Option (Nat × Nat)
  | 0, _, front => (front, none)
  | count + 1, diagonal, front =>
    let below := pair.at front (diagonal - 1)
    let above := pair.at front (diagonal + 1)
    let start := if below < above then above else below + 1
    let place := start.toNat
    let opposite := (start - diagonal).toNat
    let more := pair.forward (min (part.high - place) (part.otherHigh - opposite)) place opposite
    let front := pair.put diagonal (place + more : Nat) front
    if meets && other.low ≤ diagonal && diagonal ≤ other.high &&
        pair.at other diagonal ≤ (place + more : Nat) then
      (front, some (place + more, opposite + more))
    else pair.goForward part other meets count (diagonal - 2) front

/-- Goes on from the end on every second diagonal, so many. A place where the searches meet ends it. -/
def Pair.goBackward (pair : Pair) (part : Part) (other : Front) (meets : Bool) :
    Nat → Int → Front → Front × Option (Nat × Nat)
  | 0, _, front => (front, none)
  | count + 1, diagonal, front =>
    let below := pair.at front (diagonal - 1)
    let above := pair.at front (diagonal + 1)
    let start := if below < above then below else above - 1
    let place := start.toNat
    let opposite := (start - diagonal).toNat
    let more := pair.backward (min (place - part.low) (opposite - part.otherLow)) place opposite
    let front := pair.put diagonal (place - more : Nat) front
    if meets && other.low ≤ diagonal && diagonal ≤ other.high &&
        ((place - more : Nat) : Int) ≤ pair.at other diagonal then
      (front, some (place - more, opposite - more))
    else pair.goBackward part other meets count (diagonal - 2) front

/-- How many diagonals a search is on. -/
def Front.count (front : Front) : Nat :=
  ((front.high - front.low).fdiv 2 + 1).toNat

/-- Where two searches meet, each of which takes so many steps at most. -/
def Pair.meet (pair : Pair) (part : Part) (odd : Bool) : Nat → Front → Front → Nat × Nat
  | 0, _, _ => (part.high, part.otherHigh)
  | steps + 1, first, second =>
    let first := pair.widen part (-1) first
    match pair.goForward part second odd first.count first.high first with
    | (_, some place) => place
    | (first, none) =>
      let second := pair.widen part (pair.left.size + pair.right.size + 2 : Nat) second
      match pair.goBackward part first (!odd) second.count second.high second with
      | (_, some place) => place
      | (second, none) => pair.meet part odd steps first second

/-- A place in the middle of a shortest way. -/
def Pair.middle (pair : Pair) (part : Part) : Nat × Nat :=
  let forward : Int := part.low - part.otherLow
  let backward : Int := part.high - part.otherHigh
  let empty := Array.replicate (pair.left.size + pair.right.size + 4) (0 : Int)
  pair.meet part ((forward - backward) % 2 ≠ 0) (pair.left.size + pair.right.size + 1)
    (pair.put forward part.low ⟨empty, forward, forward⟩)
    (pair.put backward part.high ⟨empty, backward, backward⟩)

/-- Which items of both sequences are changed. -/
structure Marks where
  left : Array Bool
  right : Array Bool
deriving Inhabited

/-- Marks the items of the places from one on to another. -/
def markRange (low high : Nat) (marks : Array Bool) : Array Bool :=
  (List.range' low (high - low)).foldl (fun marks place => marks.setIfInBounds place true) marks

/-- Marks the changed items of a part, which is divided so often at most. -/
def Pair.mark (pair : Pair) : Nat → Part → Marks → Marks
  | 0, _, marks => marks
  | fuel + 1, part, marks =>
    let part := pair.trim part
    if part.low = part.high then { marks with right := markRange part.otherLow part.otherHigh marks.right }
    else if part.otherLow = part.otherHigh then { marks with left := markRange part.low part.high marks.left }
    else
      let (place, other) := pair.middle part
      pair.mark fuel { part with low := place, otherLow := other }
        (pair.mark fuel { part with high := place, otherHigh := other } marks)

/-! ## Moving changes -/

/-- A run of changed items on its way, and the place in the other sequence. -/
structure Run where
  own : Array Bool
  other : Array Bool
  start : Nat
  finish : Nat
  across : Nat

/-- Goes back over the marked items before a place. -/
def marksBefore (marks : Array Bool) : Nat → Nat
  | 0 => 0
  | place + 1 => if marks.getD place false then marksBefore marks place else place + 1

/-- Goes on over marked items from a place, so many at most. -/
def marksFrom (marks : Array Bool) : Nat → Nat → Nat
  | 0, place => place
  | fuel + 1, place => if marks.getD place false then marksFrom marks fuel (place + 1) else place

/-- Moves a run back by one, and over the changes that it meets. -/
def Run.back (run : Run) : Run :=
  let start := run.start - 1
  let own := (run.own.setIfInBounds start true).setIfInBounds (run.finish - 1) false
  { run with
    own, start := marksBefore own start, finish := run.finish - 1
    across := marksBefore run.other run.across - 1 }

/-- Moves a run back while the item before it is the same as its last one. -/
def Run.backWhile (items : Array Nat) : Nat → Run → Run
  | 0, run => run
  | fuel + 1, run =>
    if run.start ≠ 0 && items[run.start - 1]? == items[run.finish - 1]? then Run.backWhile items fuel run.back
    else run

/-- Moves a run on while the item after it is the same as its first one. The place where it last met
    a change of the other sequence is kept. -/
def Run.onWhile (items : Array Nat) : Nat → Option Nat → Run → Option Nat × Run
  | 0, met, run => (met, run)
  | fuel + 1, met, run =>
    if run.finish < items.size && items[run.start]? == items[run.finish]? then
      let own := (run.own.setIfInBounds run.start false).setIfInBounds run.finish true
      let finish := marksFrom own items.size (run.finish + 1)
      let across := marksFrom run.other run.other.size (run.across + 1)
      Run.onWhile items fuel (if across ≠ run.across + 1 then some finish else met)
        { run with own, start := run.start + 1, finish, across }
    else (met, run)

/-- Moves a run back and on until it grows no more. -/
def Run.settle (items : Array Nat) : Nat → Run → Option Nat × Run
  | 0, run => (none, run)
  | fuel + 1, run =>
    let length := run.finish - run.start
    let run := run.backWhile items items.size
    let met := if run.across ≠ 0 && run.other.getD (run.across - 1) false then some run.finish else none
    let (met, run) := run.onWhile items items.size met
    if run.finish - run.start = length then (met, run) else Run.settle items fuel run

def Run.backTo (place : Nat) : Nat → Run → Run
  | 0, run => run
  | fuel + 1, run =>
    if place < run.finish then
      let start := run.start - 1
      let own := (run.own.setIfInBounds start true).setIfInBounds (run.finish - 1) false
      Run.backTo place fuel
        { run with own, start, finish := run.finish - 1, across := marksBefore run.other run.across - 1 }
    else run

/-- Moves the changes of one sequence to where they are expected. -/
def settleFrom (items : Array Nat) (other : Array Bool) : Nat → Nat → Nat → Array Bool → Array Bool
  | 0, _, _, own => own
  | fuel + 1, place, across, own =>
    if items.size ≤ place then own
    else if !own.getD place false then
      settleFrom items other fuel (place + 1) (marksFrom other other.size across + 1) own
    else
      let finish := marksFrom own items.size place
      let across := marksFrom other other.size across
      let (met, run) := Run.settle items (items.size + 1) { own, other, start := place, finish, across }
      let run := match met with
        | some place => run.backTo place items.size
        | none => run
      settleFrom items other fuel run.finish run.across run.own

/-! ## All changes -/

/-- The items that also the other sequence has, with their places. -/
def shared (items others : Array Nat) : Array (Nat × Nat) :=
  items.zipIdx.filter fun (item, _) => others.contains item

/-- The changed items of both sequences. -/
def Pair.marks (pair : Pair) : Marks :=
  let left := shared pair.left pair.right
  let right := shared pair.right pair.left
  let inner : Pair := ⟨left.map (·.1), right.map (·.1)⟩
  let found := inner.mark (left.size + right.size + 1) ⟨0, left.size, 0, right.size⟩
    ⟨Array.replicate left.size false, Array.replicate right.size false⟩
  let all (size : Nat) (known : Array (Nat × Nat)) (marks : Array Bool) : Array Bool :=
    known.zipIdx.foldl (fun all ((_, place), index) => all.setIfInBounds place (marks.getD index true))
      (Array.replicate size true)
  let own := all pair.left.size left found.left
  let other := all pair.right.size right found.right
  let own := settleFrom pair.left other (2 * pair.left.size + 1) 0 0 own
  ⟨own, settleFrom pair.right own (2 * pair.right.size + 1) 0 0 other⟩

/-- The changes that marks amount to, from two places on. -/
def Marks.changes (marks : Marks) : Nat → Nat → Nat → List Change
  | 0, _, _ => []
  | fuel + 1, place, other =>
    if marks.left.size ≤ place && marks.right.size ≤ other then []
    else
      let after := marksFrom marks.left marks.left.size place
      let otherAfter := marksFrom marks.right marks.right.size other
      let rest := Marks.changes marks fuel (after + 1) (otherAfter + 1)
      if after = place && otherAfter = other then rest
      else ⟨place, after - place, other, otherAfter - other⟩ :: rest

/-- The changes between two sequences. What is exactly the same at both ends is set aside, up to so
    many items at each. -/
def changes (context : Nat) (exact pair : Pair) : List Change :=
  let left := pair.left
  let right := pair.right
  let inner := exact.trim ⟨0, left.size, 0, right.size⟩
  let before := inner.low - context
  let after := (left.size - inner.high) - context
  let part : Pair := ⟨left.extract before (left.size - after), right.extract before (right.size - after)⟩
  (part.marks.changes (left.size + right.size + 1) 0 0).map fun change =>
    { change with start := change.start + before, otherStart := change.otherStart + before }

end Difference

end Shell.Machine
