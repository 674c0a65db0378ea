import Shell.Machine.Script.Pattern

/-! # Fields

What a word amounts to after expansion, and how that is divided into fields: at the separators in text that
expansion has brought in, but not in quoted text.
-/

namespace Shell.Machine.Script

/-- A piece of an expanded word. -/
inductive Item where
  /-- Text; `divisible` says whether separators count in it. Quoted text makes a field even if it is empty. -/
  | run (text : String) (quoted divisible : Bool)
  /-- Here one field ends and another one begins. -/
  | cut
deriving Repr, DecidableEq, Inhabited

namespace Item

/-- The characters of items that are not divided. -/
def glyphs (items : List Item) : List Glyph :=
  items.flatMap fun
    | .run text quoted _ => Glyph.ofString text quoted
    | .cut => []

/-- The text of items that are not divided. Where a field would end stands a separator. -/
def text (separator : String) (items : List Item) : String :=
  String.join <| items.map fun
    | .run text _ _ => text
    | .cut => separator

end Item

/-- Fields while they are being made. -/
structure Division where
  /-- Complete fields, the last one first. -/
  fields : List (List Glyph) := []
  /-- The field that is being made, in reverse, if one has begun. -/
  current : Option (List Glyph) := none
  /-- Whether the last field was ended by a blank, so that a separator may still follow. -/
  afterBlank : Bool := false

namespace Division

/-- Ends the field that is being made. -/
def finishField (division : Division) : Division :=
  match division.current with
  | none => division
  | some glyphs => { division with fields := glyphs.reverse :: division.fields, current := none }

/-- Adds a character to the field that is being made. -/
def push (glyph : Glyph) (division : Division) : Division :=
  { division with current := some (glyph :: division.current.getD []), afterBlank := false }

/-- Begins a field, though there is nothing in it yet. -/
def begin_ (division : Division) : Division :=
  { division with current := some (division.current.getD []), afterBlank := false }

/-- True for blanks, which separate fields only together. -/
def isBlank (c : Char) : Bool :=
  c = ' ' || c = '\t' || c = '\n'

def add (separators : String) (quoted : Bool) (division : Division) (c : Char) : Division :=
  if !separators.contains c then division.push { char := c, quoted }
  else if isBlank c then
    if division.current.isSome then { division.finishField with afterBlank := true } else division
  else if division.current.isSome then { division.finishField with afterBlank := false }
  else if division.afterBlank then { division with afterBlank := false }
  else { division with fields := [] :: division.fields }

def addItem (separators : String) (division : Division) : Item → Division
  | .cut => { division.finishField with afterBlank := false }
  | .run text quoted divisible =>
    let division := if quoted then division.begin_ else division
    if divisible && !quoted then text.foldl (add separators quoted) division
    else text.foldl (fun division c => division.push { char := c, quoted }) division

end Division

def fieldsOf (separators : String) (items : List Item) : List (List Glyph) :=
  (items.foldl (Division.addItem separators) {}).finishField.fields.reverse

end Shell.Machine.Script
