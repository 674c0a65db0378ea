import Shell.Glob.Pattern

/-! # Matching within a budget

The search behind a glob match reads the pattern as it goes and tries every way of dividing the text among
the stars. Each attempt to match the rest of a pattern is one call, and past a limit on calls every further
attempt fails, so a hostile pattern costs a bounded amount of work and may be refused a text that it
describes.
-/

namespace Shell.Glob

/-- How many calls one match may make. -/
def callLimit : Nat := 100000

/-- True when a count of calls is past the limit, if there is one. -/
def isSpent (limit : Option Nat) (calls : Nat) : Bool :=
  match limit with
  | some most => most < calls
  | none => false

/-- Tries every suffix of a text, longest first, until one succeeds. The count of calls runs through
    all the attempts. -/
def anySuffix (attempt : List Char → Nat → Bool × Nat) : List Char → Nat → Bool × Nat
  | [], calls => attempt [] calls
  | c :: rest, calls =>
    match attempt (c :: rest) calls with
    | (true, calls') => (true, calls')
    | (false, calls') => anySuffix attempt rest calls'

/-- What is left of a pattern that begins with no star, once its front has taken up a character. A
    bracket expression is read anew for each character that it is asked about. -/
def consume? (c : Char) : List Char → Option (List Char)
  | [] => none
  | '?' :: rest => some rest
  | '[' :: rest =>
    match CharClass.test? c rest with
    | some (admitted, left) => if admitted then some left else none
    | none => if '[' = c then some rest else none
  | '\\' :: d :: rest => if d = c then some rest else none
  | d :: rest => if d = c then some rest else none

/-- Taking up a character takes up some of the pattern. -/
theorem length_of_consume? {c : Char} {pattern next : List Char}
    (h : consume? c pattern = some next) : next.length < pattern.length := by
  unfold consume? at h
  split at h
  case h_3 rest =>
    cases tested : CharClass.test? c rest with
    | some test =>
      have := CharClass.length_of_test? tested
      simp only [tested, Option.ite_none_right_eq_some, Option.some.injEq] at h
      simp only [← h.2, List.length_cons]
      omega
    | none => simp_all
  all_goals grind

/-- One call: matches a pattern against a whole text, given how many calls came before it, and
    returns the answer with the new count. Stars at the end accept whatever is left without a
    further call. -/
def attempt (limit : Option Nat) (pattern text : List Char) (calls : Nat) : Bool × Nat :=
  if isSpent limit (calls + 1) then (false, calls + 1)
  else
    match pattern with
    | [] => (text.isEmpty, calls + 1)
    | '*' :: rest =>
      let next := rest.dropWhile (· == '*')
      if next.isEmpty then (true, calls + 1)
      else anySuffix (attempt limit next) text (calls + 1)
    | front =>
      match text with
      | [] => (false, calls + 1)
      | c :: left =>
        match _h : consume? c front with
        | some next => attempt limit next left (calls + 1)
        | none => (false, calls + 1)
termination_by pattern.length
decreasing_by
  · have := (List.dropWhile_sublist (l := rest) (· == '*')).length_le
    simp only [List.length_cons]; omega
  · exact length_of_consume? ‹_›

/-- True when a pattern is found to describe a whole text within the limit. -/
def accepts (pattern text : String) : Bool :=
  (attempt (some callLimit) pattern.toList text.toList 0).1

end Shell.Glob
