/-! # Syntax of scripts

What a script of the machine's own `sh` is made of once it has been read: words, whose parts are expanded when
the script runs, and commands.
-/

namespace Shell.Machine.Script

/-- Which commands and expansions scripts have. -/
inductive Dialect where
  | plain
  /-- Arrays, conditions between double brackets and more ways to change values besides. -/
  | extended
deriving Repr, DecidableEq, Inhabited

/-- What is done with a here-document or a file when a command begins. -/
inductive RedirectMode where
  | input
  | output
  /-- Output even into a file that is protected. -/
  | clobber
  | append
  | both
deriving Repr, DecidableEq, Inhabited

/-- What takes the place of a value. -/
inductive Fallback where
  /-- A word, for a value that is missing. -/
  | default
  /-- The same, and the word becomes the value. -/
  | assign
  /-- Nothing; the script fails with the word as its message. -/
  | fail
  /-- A word, for a value that is not missing. -/
  | alternative
deriving Repr, DecidableEq, Inhabited

/-- Which matches of a pattern in a value are replaced. -/
inductive Matches where
  | first
  | all
  | atStart
  | atEnd
deriving Repr, DecidableEq, Inhabited

/-- What becomes of the letters of a value. -/
inductive Casing where
  | upper
  | lower
  /-- Capital letters become small and the other way round. -/
  | swapped
deriving Repr, DecidableEq, Inhabited

/-- What follows the commands of an arm of a choice. -/
inductive ArmEnd where
  | leaves
  /-- The commands of the next arm are run too. -/
  | fallsThrough
  /-- The patterns of the next arms are tried too. -/
  | goesOn
deriving Repr, DecidableEq, Inhabited

mutual

/-- A part of a word. -/
inductive Part where
  | text (text : String) (quoted : Bool)
  | parameter (name : String) (change : Change) (quoted : Bool)
  /-- The output of a command. -/
  | output (command : Command) (quoted : Bool)
  | arithmetic (expr : List Part) (quoted : Bool)
  /-- An element of an array, all of them, or what the value of a variable names. -/
  | element (name : String) (subscript : Option (List Part)) (indirect : Bool) (change : Change)
    (quoted : Bool)
  /-- The path of a pipe whose other end a command has. -/
  | pipe (reads : Bool) (command : Command)
  /-- The start of a word that gives an element a value or adds to a variable. -/
  | target (name : String) (subscript : Option (List Part)) (appends : Bool)
  /-- The elements of an array. -/
  | compound (items : List (List Part))

/-- What is done with the value of a parameter. -/
inductive Change where
  | none
  | length
  /-- `orEmpty` says whether an empty value counts as missing. -/
  | fallback (kind : Fallback) (orEmpty : Bool) (word : List Part)
  /-- Removes what matches a pattern. -/
  | trim (atEnd longest : Bool) (pattern : List Part)
  /-- The part from a place on, and perhaps only so much of it. -/
  | slice (start : List Part) (length : Option (List Part))
  | replace (which : Matches) (pattern replacement : List Part)
  | recase (casing : Casing) (all : Bool) (pattern : List Part)
  | transform (letter : Char)
  /-- The keys of an array. -/
  | keys
  /-- The names of variables that start with a name. -/
  | names
  /-- Nothing that could be done. -/
  | bad (text : String)

/-- A change to what a descriptor stands for. -/
inductive Redirect where
  | file (descriptor : Nat) (mode : RedirectMode) (path : List Part)
  /-- Makes a descriptor stand for what another stands for, or for nothing. -/
  | duplicate (descriptor : Nat) (source : List Part)
  /-- The number of a here-document. -/
  | document (descriptor : Nat) (number : Nat)
  /-- A text and a line break. -/
  | text (descriptor : Nat) (text : List Part)

/-- A condition between double brackets. -/
inductive Check where
  | unary (operator : String) (operand : List Part)
  | binary (operator : String) (left right : List Part)
  | not (inner : Check)
  | and (left right : Check)
  | or (left right : Check)

/-- A command. Where a line is given, errors are reported for that line. -/
inductive Command where
  | empty
  | simple (line : Nat) (assignments : List (String × List Part)) (words : List (List Part))
    (redirects : List Redirect)
  | sequence (first second : Command)
  /-- A command that others do not wait for, and how it is written. -/
  | background (line : Nat) (body : Command) (text : String)
  | both (left right : Command)
  | either (left right : Command)
  | negate (body : Command)
  | pipeline (stages : List Command)
  | subshell (line : Nat) (body : Command) (redirects : List Redirect)
  | redirected (line : Nat) (body : Command) (redirects : List Redirect)
  | loop (untilTrue : Bool) (condition body : Command)
  | branch (condition body otherwise : Command)
  /-- Without items, the loop is over the parameters of the script. -/
  | each (line : Nat) (name : String) (items : Option (List (List Part))) (body : Command)
  | select (line : Nat) (subject : List Part) (arms : List (List (List Part) × Command × ArmEnd))
  | define (line : Nat) (name : String) (body : Command)
  | check (line : Nat) (condition : Check)
  | compute (line : Nat) (expr : List Part)
  /-- A loop that counts: an expression before it, one that says whether it goes on, and one after each round. -/
  | counted (line : Nat) (first condition update : List Part) (body : Command)
  /-- A loop over items that are chosen by who reads a menu. -/
  | choose (line : Nat) (name : String) (items : Option (List (List Part))) (body : Command)
  | timed (body : Command)

end

instance : Inhabited Part := ⟨.text "" false⟩

instance : Inhabited Command := ⟨.empty⟩

/-- A word. -/
abbrev Word := List Part

namespace Word

/-- The text of a word in which nothing is quoted or expanded. -/
def bare? (word : Word) : Option String :=
  word.foldlM
    (fun text part =>
      match part with
      | .text more false => some (text ++ more)
      | _ => none)
    ""

end Word

/-- A script that is not well formed. -/
structure SyntaxError where
  line : Nat
  text : String
  /-- What else there is to report, with the lines. -/
  more : List (Nat × String) := []
deriving Repr, DecidableEq, Inhabited

end Shell.Machine.Script
