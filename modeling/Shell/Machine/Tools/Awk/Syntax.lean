import Shell.Machine.Regex

/-! # Programs for records

What a program for `awk` consists of: rules, each of which says what is done with which records, and functions.
-/

namespace Shell.Machine.Awk

/-- The functions that are there from the beginning. -/
inductive Builtin where
  | arcTangent
  | close
  | cosine
  | exponential
  | flush
  | index
  | integer
  | length
  | logarithm
  | lower
  | makeTime
  | replaceAll
  | replaceFirst
  | random
  | root
  | search
  | seed
  | sine
  | split
  | format
  | formatTime
  | part
  | run
  | time
  | upper
deriving Repr, DecidableEq, Inhabited

/-- The names of the functions, with how many arguments they take at least and at most. -/
def builtins : List (String × Builtin × Nat × Nat) := [
  ("atan2", .arcTangent, 2, 2), ("close", .close, 1, 1), ("cos", .cosine, 1, 1), ("exp", .exponential, 1, 1),
  ("fflush", .flush, 0, 1), ("gsub", .replaceAll, 2, 3), ("index", .index, 2, 2), ("int", .integer, 1, 1),
  ("length", .length, 0, 1), ("log", .logarithm, 1, 1), ("match", .search, 2, 2), ("mktime", .makeTime, 1, 1),
  ("rand", .random, 0, 0), ("sin", .sine, 1, 1), ("split", .split, 2, 3), ("sprintf", .format, 1, 255),
  ("sqrt", .root, 1, 1), ("srand", .seed, 0, 1), ("strftime", .formatTime, 0, 3), ("sub", .replaceFirst, 2, 3),
  ("substr", .part, 2, 3), ("system", .run, 1, 1), ("systime", .time, 0, 0), ("tolower", .lower, 1, 1),
  ("toupper", .upper, 1, 1)]

/-- Ways to calculate with two numbers. -/
inductive Calculation where
  | add
  | subtract
  | multiply
  | divide
  | remainder
  | power
deriving Repr, DecidableEq, Inhabited

/-- Ways to compare two values. -/
inductive Comparison where
  | less
  | lessOrEqual
  | equal
  | different
  | greater
  | greaterOrEqual
deriving Repr, DecidableEq, Inhabited

/-- What a name stands for: something that the whole program knows, or a parameter of a function. -/
inductive Variable where
  | global (name : String)
  | parameter (index : Nat)
deriving Repr, DecidableEq, Inhabited

/-- Where a line is read from. -/
inductive Origin where
  | records
  | file
  | command
deriving Repr, DecidableEq, Inhabited

/-- Something that has a value. -/
inductive Expr where
  | number (value : Float)
  | text (text : String)
  /-- Whether the record matches. -/
  | regex (text : String) (regex : Regex)
  | variable_ (variable_ : Variable)
  | element (array : Variable) (subscripts : List Expr)
  | field (index : Expr)
  | negate (operand : Expr)
  | positive (operand : Expr)
  | not (operand : Expr)
  | calculate (calculation : Calculation) (left right : Expr)
  | compare (comparison : Comparison) (left right : Expr)
  | join (left right : Expr)
  | matches (inverted : Bool) (subject pattern : Expr)
  | contains (array : Variable) (subscripts : List Expr)
  | and (left right : Expr)
  | or (left right : Expr)
  | choose (condition yes no : Expr)
  | assign (target : Expr) (calculation : Option Calculation) (value : Expr)
  /-- Adds to a variable or subtracts from it; the value is that after it or that before. -/
  | step (target : Expr) (calculation : Calculation) (isAfter : Bool)
  /-- Reads a line. The value tells whether there was one. -/
  | readLine (origin : Origin) (source target : Option Expr)
  | builtin (builtin : Builtin) (arguments : List Expr)
  | call (function : String) (arguments : List Expr)
  /-- Expressions in parentheses. -/
  | list (items : List Expr)
deriving Repr, Inhabited

/-- Where output goes. -/
inductive Direction where
  | file
  | end_
  | command
deriving Repr, DecidableEq, Inhabited

/-- True for what a value can be assigned to. -/
def Expr.isTarget : Expr → Bool
  | .variable_ _ | .element _ _ | .field _ => true
  | _ => false

/-- Something to do. -/
inductive Statement where
  | expr (expr : Expr)
  | print (items : List Expr) (target : Option (Direction × Expr))
  | printFormat (items : List Expr) (target : Option (Direction × Expr))
  | block (body : List Statement)
  | ifElse (condition : Expr) (yes : Statement) (no : Option Statement)
  | while_ (condition : Expr) (body : Statement)
  | doWhile (body : Statement) (condition : Expr)
  /-- Does something as long as a condition holds, and something else after each round. -/
  | for_ (condition : Option Expr) (update : Option Expr) (body : Statement)
  | forEach (key array : Variable) (body : Statement)
  | break_
  | continue_
  | next
  | nextFile
  | exit (status : Option Expr)
  | return_ (value : Option Expr)
  | delete (array : Variable) (subscripts : Option (List Expr))
deriving Repr, Inhabited

/-- The records that something is done with. -/
inductive Pattern where
  | begin_
  | end_
  | always
  | when (condition : Expr)
  /-- From a record on up to another one. The number tells the ranges of a program apart. -/
  | range (number : Nat) (first last : Expr)
deriving Repr, Inhabited

/-- What is done with some records. -/
structure Rule where
  pattern : Pattern
  /-- Nothing means that the record is printed. -/
  body : Option Statement
deriving Repr, Inhabited

/-- A function of a program. -/
structure Function where
  parameters : List String
  /-- The places of those parameters that are arrays. -/
  arrays : List Nat := []
  body : List Statement
deriving Repr, Inhabited

/-- A program. -/
structure Program where
  rules : List Rule := []
  functions : List (String × Function) := []
deriving Repr, Inhabited

end Shell.Machine.Awk
