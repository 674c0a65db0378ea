/-! # Sets of characters

What stands between square brackets in patterns: ranges of characters and classes with names.
-/

namespace Shell.Machine

/-- A part of a set of characters. -/
inductive SetMember where
  | range (low high : Char)
  | named (name : String)
deriving Repr, DecidableEq, Inhabited

namespace SetMember

/-- True for characters that are seen, the blank apart. -/
def isGraphic (c : Char) : Bool :=
  '!' ≤ c && c ≤ '~'

/-- Whether a character belongs to a class with a name, if there is such a class. -/
def inClass? (name : String) (c : Char) : Option Bool :=
  match name with
  | "alpha" => some c.isAlpha
  | "digit" => some c.isDigit
  | "alnum" => some c.isAlphanum
  | "upper" => some c.isUpper
  | "lower" => some c.isLower
  | "space" => some (" \t\n\r\x0b\x0c".contains c)
  | "blank" => some (c = ' ' || c = '\t')
  | "punct" => some (isGraphic c && !c.isAlphanum)
  | "print" => some (c = ' ' || isGraphic c)
  | "graph" => some (isGraphic c)
  | "cntrl" => some (c.toNat < 32 || c.toNat = 127)
  | "xdigit" => some (c.isDigit || ('a' ≤ c && c ≤ 'f') || ('A' ≤ c && c ≤ 'F'))
  | _ => none

/-- Whether a character is one of those that a member stands for. -/
def contains (c : Char) : SetMember → Bool
  | .range low high => low ≤ c && c ≤ high
  | .named name => (inClass? name c).getD false

end SetMember

end Shell.Machine
