import Shell.Glob.CharClass

/-! # Glob patterns

A pattern is a sequence of pieces, read once from left to right. `Matches` says which texts a sequence
of pieces describes; it is about whole texts and knows nothing of how a match is searched for.
-/

namespace Shell.Glob

/-- One piece of a pattern. -/
inductive Piece where
  /-- Any text at all: a run of stars, however long. -/
  | stars
  /-- Any one character. -/
  | anyChar
  /-- One character of a set. -/
  | oneOf (cls : CharClass)
  /-- One character, which stands for itself. -/
  | literal (c : Char)
deriving Repr, DecidableEq, Inhabited

namespace Piece

/-- Reads a pattern. A bracket that never closes and a backslash at the very end stand for
    themselves. -/
def read : List Char → List Piece
  | [] => []
  | '*' :: rest => stars :: read (rest.dropWhile (· == '*'))
  | '?' :: rest => anyChar :: read rest
  | '[' :: rest =>
    match _h : CharClass.read? rest with
    | some (cls, left) => oneOf cls :: read left
    | none => literal '[' :: read rest
  | '\\' :: c :: rest => literal c :: read rest
  | c :: rest => literal c :: read rest
termination_by text => text.length
decreasing_by
  · have := (List.dropWhile_sublist (l := rest) (· == '*')).length_le
    simp only [List.length_cons]; omega
  · simp only [List.length_cons]; omega
  · have := CharClass.length_of_read? ‹_›
    simp only [List.length_cons]; omega
  all_goals simp only [List.length_cons]; omega

end Piece

/-- The texts that a sequence of pieces describes. -/
inductive Matches : List Piece → List Char → Prop where
  /-- Nothing describes the empty text. -/
  | done : Matches [] []
  /-- Stars take up any text in front of what the rest describes. -/
  | stars {ps : List Piece} {rest : List Char} (skipped : List Char) :
    Matches ps rest → Matches (.stars :: ps) (skipped ++ rest)
  /-- A question mark takes up one character. -/
  | anyChar {ps : List Piece} {rest : List Char} (c : Char) :
    Matches ps rest → Matches (.anyChar :: ps) (c :: rest)
  /-- A bracket expression takes up one character of its set. -/
  | oneOf {ps : List Piece} {rest : List Char} {cls : CharClass} {c : Char} :
    cls.admits c = true → Matches ps rest → Matches (.oneOf cls :: ps) (c :: rest)
  /-- A literal takes up itself. -/
  | literal {ps : List Piece} {rest : List Char} {c : Char} :
    Matches ps rest → Matches (.literal c :: ps) (c :: rest)

end Shell.Glob
