import Shell.Machine.Regex.Read
import Shell.Machine.Tools.Files
import Shell.Machine.Tools.Lines

/-! # What is looked for in directories

The expressions by which files are picked: tests and actions, which are joined by words. An expression is read from
arguments one after another.
-/

namespace Shell.Machine.Find

/-- How a number is to compare with a given one. -/
inductive Relation where
  | more
  | less
  | equal
deriving Repr, DecidableEq, Inhabited

/-- A number to compare with. -/
structure Bound where
  relation : Relation
  value : Nat
deriving Repr, DecidableEq, Inhabited

/-- True when a number compares as it is to do. -/
def Bound.admits (bound : Bound) (value : Nat) : Bool :=
  match bound.relation with
  | .more => bound.value < value
  | .less => value < bound.value
  | .equal => value = bound.value

/-- Which permission bits are to be set. -/
inductive Coverage where
  | exactly
  | all
  | any
deriving Repr, DecidableEq, Inhabited

/-- What is asked of a file. -/
inductive Test where
  | constant (value : Bool)
  | name (pattern : String) (folded : Bool)
  | path (pattern : String) (folded : Bool)
  /-- What a link says. -/
  | target (pattern : String) (folded : Bool)
  | matched (regex : Regex) (folded : Bool)
  /-- One of some kinds; those of the files that links lead to, if that is asked for. -/
  | kind (letters : List Char) (across : Bool)
  | size (bound : Bound) (unit : Nat)
  | empty
  | permissions (mode : Nat) (coverage : Coverage)
  /-- Changed after a time. -/
  | newer (time : Nat)
  /-- So many units of time ago. -/
  | age (bound : Bound) (unit : Nat)
  | minutes (bound : Bound)
  | links (bound : Bound)
  | number (bound : Bound)
  | sameFile (id : FileId)
  /-- Belongs to a user or a group with a number. -/
  | owner (bound : Bound)
  | mayDo (bits : Nat)
deriving Inhabited

/-- Where the results of an action go: to the output of the program or into a file. -/
abbrev Target := Option Nat

/-- What is done with a file. -/
inductive Deed where
  | print (last : String) (target : Target)
  | format (text : String) (target : Target)
  | list (target : Target)
  /-- Runs a command, in the directory of the file if that is asked for, and only if the user agrees. -/
  | run (command : List String) (inside asks : Bool)
  /-- Runs a command for many files at once. The number tells such actions apart. -/
  | batch (number : Nat) (command : List String) (inside : Bool)
  | delete
  | prune
  | quit
deriving Inhabited

/-- An expression. -/
inductive Expression where
  | test (test : Test)
  | action (action : Deed)
  | not (body : Expression)
  | and (first second : Expression)
  | or (first second : Expression)
  /-- Of the first one only what it does counts. -/
  | list (first second : Expression)
deriving Inhabited

/-- What holds for the whole search. -/
structure Settings where
  least : Nat := 0
  most : Option Nat := none
  /-- What is in a directory comes before it. -/
  depthFirst : Bool := false
  /-- Whether links are followed. -/
  follows : Bool := false
  /-- The same, but only for those that are given. -/
  followsGiven : Bool := false
  extended : Bool := false
  /-- Whether the expressions are those of an editor, where a plus sign is a repetition. -/
  editor : Bool := true
  /-- How many actions there are that run a command for many files. -/
  batches : Nat := 0
  /-- Whether there is an action that takes the place of printing. -/
  acts : Bool := false
  deletes : Bool := false
  prunes : Bool := false
  /-- Whether it was said that directories come last. -/
  saysDepth : Bool := false

/-- A part of the arguments that make up an expression. -/
inductive Piece where
  | leaf (expression : Expression)
  | opening
  | closing
  | not (word : String)
  | and (word : String)
  | or (word : String)
  | comma
deriving Inhabited

namespace Piece

/-- The word for something that stands between two expressions. -/
def between? : Piece → Option String
  | .and word | .or word => some word
  | .comma => some ","
  | _ => none

end Piece

mutual

def readList : Nat → List Piece → Except String (Expression × List Piece)
  | 0, pieces => .ok (default, pieces)
  | fuel + 1, pieces => do
    let (first, rest) ← readOr fuel pieces
    match rest with
    | .comma :: rest =>
      if rest.isEmpty then throw "expected an expression after ','"
      let (second, rest) ← readList fuel rest
      return (.list first second, rest)
    | rest => return (first, rest)

/-- Reads what stands between words for `or`. -/
def readOr : Nat → List Piece → Except String (Expression × List Piece)
  | 0, pieces => .ok (default, pieces)
  | fuel + 1, pieces => do
    let (first, rest) ← readAnd fuel pieces
    match rest with
    | .or word :: rest =>
      if rest.isEmpty then throw ("expected an expression after '" ++ word ++ "'")
      let (second, rest) ← readOr fuel rest
      return (.or first second, rest)
    | rest => return (first, rest)

/-- Reads what stands between words for `and`, or side by side. -/
def readAnd : Nat → List Piece → Except String (Expression × List Piece)
  | 0, pieces => .ok (default, pieces)
  | fuel + 1, pieces => do
    let (first, rest) ← readOne fuel pieces
    match rest with
    | .and word :: rest =>
      if rest.isEmpty then throw ("expected an expression after '" ++ word ++ "'")
      let (second, rest) ← readAnd fuel rest
      return (.and first second, rest)
    | .leaf leaf :: rest => do
      let (second, rest) ← readAnd fuel (.leaf leaf :: rest)
      return (.and first second, rest)
    | .opening :: rest => do
      let (second, rest) ← readAnd fuel (.opening :: rest)
      return (.and first second, rest)
    | .not word :: rest => do
      let (second, rest) ← readAnd fuel (.not word :: rest)
      return (.and first second, rest)
    | rest => return (first, rest)

def readOne : Nat → List Piece → Except String (Expression × List Piece)
  | 0, pieces => .ok (default, pieces)
  | _, [] => .error "invalid expression"
  | fuel + 1, piece :: rest => do
    match piece with
    | .leaf leaf => return (leaf, rest)
    | .not word =>
      if rest.isEmpty then throw ("expected an expression after '" ++ word ++ "'")
      let (body, rest) ← readOne fuel rest
      return (.not body, rest)
    | .opening =>
      match rest with
      | .closing :: _ => throw "invalid expression; empty parentheses are not allowed."
      | [] => throw "invalid expression; I was expecting to find a ')' somewhere but did not see one."
      | _ =>
        let (body, rest) ← readList fuel rest
        match rest with
        | .closing :: rest => return (body, rest)
        | _ => throw "invalid expression; I was expecting to find a ')' somewhere but did not see one."
    | .closing => throw "invalid expression; you have too many ')'"
    | piece =>
      throw ("invalid expression; you have used a binary operator '" ++ piece.between?.getD "" ++
        "' with nothing before it.")

end

def readExpression (pieces : List Piece) : Except String Expression := do
  if pieces.isEmpty then return .test (.constant true)
  let (expression, rest) ← readList (8 * pieces.length + 8) pieces
  match rest with
  | [] => return expression
  | .closing :: _ => throw "you have too many ')'"
  | _ => throw "invalid expression"

/-- An expression as an editor writes it in the usual way: a plus sign and a question mark are repetitions. -/
def usualForm : List Char → List Char
  | '\\' :: c :: rest => if c = '\x7b' || c = '\x7d' then c :: usualForm rest else '\\' :: c :: usualForm rest
  | '+' :: rest => '\\' :: '+' :: usualForm rest
  | '?' :: rest => '\\' :: '?' :: usualForm rest
  | '[' :: rest => '[' :: usualForm rest
  | c :: rest => c :: usualForm rest
  | [] => []

/-- The number that a text gives to compare with. -/
def bound? (text : String) : Option Bound :=
  let (relation, digits) := match text.toList with
    | '+' :: rest => (Relation.more, String.ofList rest)
    | '-' :: rest => (Relation.less, String.ofList rest)
    | _ => (Relation.equal, text)
  (Numeral.natural? digits).map fun value => { relation, value }

def unit? : Char → Option Nat
  | 'b' => some 512
  | 'c' => some 1
  | 'w' => some 2
  | 'k' => some 1024
  | 'M' => some 1048576
  | 'G' => some 1073741824
  | _ => none

/-- The size that a text gives to compare with, and its unit. -/
def size? (text : String) : Except String (Bound × Nat) :=
  let last := text.toList.getLast?.getD ' '
  let (digits, unit) :=
    if last.isDigit then (text, some 512) else ((text.dropEnd 1).toString, unit? last)
  match unit with
  | none => .error ("invalid -size type `" ++ String.singleton last ++ "'")
  | some unit =>
    match bound? digits with
    | some bound => .ok (bound, unit)
    | none => .error ("Invalid argument `" ++ text ++ "' to -size")

def permissions? (text : String) : Option (Nat × Coverage) :=
  let (coverage, rest) := match text.toList with
    | '-' :: rest => (Coverage.all, String.ofList rest)
    | '/' :: rest => (Coverage.any, String.ofList rest)
    | _ => (Coverage.exactly, text)
  (Permissions.changed? rest 0 false 0).map fun mode => (mode, coverage)

end Shell.Machine.Find
