import Shell.Machine.Tools.Awk.Syntax

/-! # Arrays of programs for records

An array finds values by keys, which are texts or whole numbers; a whole number and the text of its digits are one
key. The keys are kept in buckets, where what was looked up last comes first, and the order of the buckets is the
order in which the keys are gone through. Texts and whole numbers have buckets of their own; whole numbers are entered
among the texts when a text is looked up for the first time, and what `split` made is entered among the whole numbers
when something else than one of its parts is looked up.
-/

namespace Shell.Machine.Awk

/-- A value of a program. -/
inductive Value where
  /-- What a variable has before anything is assigned to it. -/
  | none
  | number (value : Float)
  | text (text : String)
  /-- A text that came from outside and counts as a number, because it looks like one. -/
  | numeral (text : String) (value : Float)
deriving Repr, Inhabited

/-- What an array is looked up by. -/
inductive Key where
  | number (value : Int)
  | text (text : String)
deriving Repr, DecidableEq, Inhabited

/-- An entry of an array. -/
structure Entry where
  number : Option Int
  /-- The text of the key, if the entry is among the texts, and its bucket before it is cut to size. -/
  text : Option (String × Nat)
  value : Value := .none
deriving Repr, Inhabited

/-- An array. -/
structure Table where
  /-- The parts of a text, as long as nothing else has been asked for. -/
  parts : Option (Array Value) := none
  /-- All entries that there have been. -/
  entries : Array Entry := #[]
  /-- How many entries there are. -/
  size : Nat := 0
  /-- The places of entries in buckets by number. -/
  byNumber : Array (List Nat) := #[]
  /-- The places of entries in buckets by text. -/
  byText : Array (List Nat) := #[]
  hasNumbers : Bool := false
  hasTexts : Bool := false
deriving Repr, Inhabited

namespace Table

/-- How many buckets there are at first. -/
def firstBuckets : Nat := 64

/-- How many entries a bucket holds on average before there are more buckets. -/
def maxAverage : Nat := 12

def bucketOf (text : String) : Nat :=
  (text.foldl (fun (hash : UInt32) c => (hash ^^^ UInt32.ofNat c.toNat) * 16777619) 2166136261).toNat

/-- An array without entries, but with buckets. -/
def blank : Table :=
  { byNumber := Array.replicate firstBuckets [], byText := Array.replicate firstBuckets [] }

/-- The array with buckets, if it had none. -/
def withBuckets (table : Table) : Table :=
  if table.byText.isEmpty then { table with byNumber := blank.byNumber, byText := blank.byText } else table

/-- The bucket of a whole number among so many. -/
def indexOf (value : Int) (count : Nat) : Nat :=
  (value % count).toNat

def toFront (place : Nat) (bucket : List Nat) : List Nat :=
  place :: bucket.filter (· ≠ place)

/-- Divides buckets into twice as many, given the bucket that an entry belongs to among so many. -/
def divide (home : Nat → Nat → Nat) (buckets : Array (List Nat)) : Array (List Nat) :=
  let count := 2 * buckets.size
  let low := buckets.mapIdx fun index bucket => bucket.filter fun place => home place count = index
  let high := buckets.mapIdx fun index bucket => bucket.filter fun place => home place count ≠ index
  low ++ high

/-- Makes more buckets if there are too many entries. -/
def grow (table : Table) : Table :=
  if table.size ≤ maxAverage * table.byText.size then table
  else
    let numberOf (place : Nat) : Int := (table.entries[place]?.bind Entry.number).getD 0
    let hashOf (place : Nat) : Nat := ((table.entries[place]?.bind Entry.text).map (·.2)).getD 0
    { table with
      byNumber := divide (fun place count => indexOf (numberOf place) count) table.byNumber
      byText := divide (fun place count => hashOf place % count) table.byText }

/-- Adds an entry that is in no bucket yet. -/
def add (entry : Entry) (table : Table) : Nat × Table :=
  (table.entries.size,
    { table with entries := table.entries.push entry, size := table.size + 1 }.grow)

/-- Puts a place in front of the others in the bucket of a number. -/
def enterNumber (value : Int) (place : Nat) (table : Table) : Table :=
  { table with
    byNumber := table.byNumber.modify (indexOf value table.byNumber.size) (toFront place), hasNumbers := true }

/-- Puts a place in front of the others in the bucket of a text. -/
def enterText (hash place : Nat) (table : Table) : Table :=
  { table with byText := table.byText.modify (hash % table.byText.size) (toFront place) }

/-- Enters the parts of a text among the numbers. -/
def enterParts (table : Table) : Table :=
  match table.parts with
  | none => table.withBuckets
  | some parts =>
    parts.foldl
      (fun table value =>
        let number : Int := table.size + 1
        let (place, table) := table.add { number := some number, text := none, value }
        table.enterNumber number place)
      blank

def enterTexts (table : Table) : Table :=
  let table := table.enterParts
  if table.hasTexts then table
  else
    let places := table.byNumber.toList.flatten
    let table := places.foldl
      (fun table place =>
        match table.entries[place]? with
        | some { number := some number, text := none, .. } =>
          let text := toString number
          let hash := bucketOf text
          { table with
            entries := table.entries.modify place fun entry => { entry with text := some (text, hash) } }.enterText
              hash place
        | _ => table)
      table
    { table with hasTexts := true }

/-- The place of the entry with a text as its key, and whether it is to be made if there is none. -/
def findText (text : String) (create : Bool) (table : Table) : Option Nat × Table :=
  let table := table.enterTexts
  let hash := bucketOf text
  let bucket := (table.byText[hash % table.byText.size]?).getD []
  let isThere (place : Nat) : Bool := (table.entries[place]?.bind Entry.text) = some (text, hash)
  match bucket.find? isThere with
  | some place => (some place, table.enterText hash place)
  | none =>
    if create then
      let (place, table) := table.add { number := none, text := some (text, hash) }
      (some place, table.enterText hash place)
    else (none, table)

/-- The place of the entry with a number as its key. -/
def findNumber (value : Int) (create : Bool) (table : Table) : Option Nat × Table :=
  let table := table.withBuckets
  let bucket := (table.byNumber[indexOf value table.byNumber.size]?).getD []
  let isThere (place : Nat) : Bool := (table.entries[place]?.bind Entry.number) = some value
  match bucket.find? isThere with
  | some place => (some place, table.enterNumber value place)
  | none =>
    if table.hasTexts then
      let (found, table) := table.findText (toString value) create
      match found with
      | some place =>
        let table := { table with
          entries := table.entries.modify place fun entry => { entry with number := some value } }
        (some place, table.enterNumber value place)
      | none => (none, table)
    else if create then
      let (place, table) := table.add { number := some value, text := none }
      (some place, table.enterNumber value place)
    else (none, table)

/-- The place of the entry with a key. -/
def find (key : Key) (create : Bool) (table : Table) : Option Nat × Table :=
  match key with
  | .text text => if table.size = 0 && table.parts.isNone && !create then (none, table) else table.findText text create
  | .number value => table.enterParts.findNumber value create

/-- The part of a text that a key names, if the array consists of such parts. -/
def part? (key : Key) (table : Table) : Option (Nat × Value) :=
  match table.parts, key with
  | some parts, .number value => do
    if value < 1 then none
    let index := value.toNat - 1
    return (index, ← parts[index]?)
  | _, _ => none

/-- How many entries there are. -/
def count (table : Table) : Nat :=
  match table.parts with
  | some parts => parts.size
  | none => table.size

/-- The value with a key, which is there from then on. -/
def get (key : Key) (table : Table) : Value × Table :=
  match table.part? key with
  | some (_, value) => (value, table)
  | none =>
    let (place, table) := table.find key true
    (((place.bind fun place => table.entries[place]?).map Entry.value).getD .none, table)

def put (key : Key) (value : Value) (table : Table) : Table :=
  match table.part? key with
  | some (index, _) => { table with parts := table.parts.map fun parts => parts.setIfInBounds index value }
  | none =>
    let (place, table) := table.find key true
    { table with
      entries := table.entries.modify (place.getD table.entries.size) fun entry => { entry with value } }

def contains (key : Key) (table : Table) : Bool × Table :=
  if (table.part? key).isSome then (true, table)
  else if table.count = 0 then (false, table)
  else if table.parts.isSome && key matches .number _ then (false, table)
  else
    let (place, table) := table.find key false
    (place.isSome, table)

def erase (key : Key) (table : Table) : Table :=
  if table.count = 0 then table
  else
    let (place, table) := table.find key false
    match place with
    | none => table
    | some place =>
      if table.size ≤ 1 then {}
      else
        let without (buckets : Array (List Nat)) : Array (List Nat) := buckets.map (·.filter (· ≠ place))
        { table with size := table.size - 1, byNumber := without table.byNumber, byText := without table.byText }

/-- The keys, in the order in which they are gone through. -/
def keys (table : Table) : List String × Table :=
  if table.count = 0 then ([], table)
  else
    let table := table.enterTexts
    let places := table.byText.toList.flatten
    (places.filterMap fun place => (table.entries[place]?.bind Entry.text).map (·.1), table)

def ofParts (parts : Array Value) : Table :=
  if parts.isEmpty then {} else { parts := some parts }

end Table

end Shell.Machine.Awk
