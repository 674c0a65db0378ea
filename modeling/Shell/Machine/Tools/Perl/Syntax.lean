/-! # Syntax of general programs

What a program for `perl` is made of once it has been read: statements, and expressions, each of which may be asked
for one value or for a list of them.
-/

namespace Shell.Machine.Perl

/-- What a variable holds. -/
inductive Kind where
  | scalar
  | array
  | hash
  | code
  | handle
deriving Repr, DecidableEq, Inhabited

/-- A variable without its package. -/
structure Variable where
  kind : Kind
  name : String
deriving Repr, DecidableEq, Inhabited

/-- How long a variable that is declared lasts. -/
inductive Lifetime where
  /-- As long as something refers to it. -/
  | my
  /-- It belongs to the package. -/
  | our
  /-- It keeps its value from one call to the next. -/
  | state
deriving Repr, DecidableEq, Inhabited

/-- What two values are made into one by. -/
inductive Binary where
  | add
  | subtract
  | multiply
  | divide
  | remainder
  | power
  | concatenate
  | shiftLeft
  | shiftRight
  | bitAnd
  | bitOr
  | bitXor
  | less
  | lessOrEqual
  | greater
  | greaterOrEqual
  | equal
  | different
  | order
  | textLess
  | textLessOrEqual
  | textGreater
  | textGreaterOrEqual
  | textEqual
  | textDifferent
  | textOrder
deriving Repr, DecidableEq, Inhabited

/-- What is done with one value. -/
inductive Unary where
  | negate
  | not
  | complement
  | plus
deriving Repr, DecidableEq, Inhabited

/-- Which of two operands is taken. -/
inductive Choosing where
  | and
  | or
  | defined
deriving Repr, DecidableEq, Inhabited

/-- What goes over the elements of a list. -/
inductive Walk where
  | map
  | grep
  | sort
  /-- The first element for which something is true. -/
  | first
  | any
  | all
  | none
  /-- Makes one value out of all. -/
  | reduce
deriving Repr, DecidableEq, Inhabited

/-- How something is written. -/
inductive Printing where
  | print
  | say
  | printf
deriving Repr, DecidableEq, Inhabited

/-- How an expression is assigned. -/
inductive Assignment where
  | plain
  | binary (operator : Binary)
  | repeated
  | choosing (choosing : Choosing)
deriving Repr, DecidableEq, Inhabited

/-- How a regular expression is used. -/
structure PatternFlags where
  /-- Letters that change how the expression is read. -/
  letters : List Char := []
  global : Bool := false
  /-- Whether the place of the last match is kept when there is no other one. -/
  keeps : Bool := false
  /-- Whether a changed text is given back instead of being assigned. -/
  returns : Bool := false
  /-- How often what is put in is run as a program. -/
  evaluates : Nat := 0
deriving Repr, DecidableEq, Inhabited

mutual

/-- An expression. -/
inductive Expr where
  | whole (value : Int)
  | decimal (value : Float)
  | text (text : String)
  | undefined
  /-- Texts one after another. -/
  | joined (parts : List Expr)
  /-- The elements of a list as one text. -/
  | spread (list : Expr)
  | var (variable_ : Variable)
  | declare (lifetime : Lifetime) (fresh : List (Option Variable)) (isList : Bool)
  | localize (target : Expr)
  | deref (kind : Kind) (reference : Expr)
  | lastIndex (array : Expr)
  | element (array index : Expr)
  | entry (hash key : Expr)
  | elements (array indexes : Expr)
  | entries (hash keys : Expr)
  /-- Keys and what belongs to them. -/
  | pairs (isHash : Bool) (container keys : Expr)
  | part (list indexes : Expr)
  | list (items : List Expr)
  /-- A call of a function by its name; without arguments it gets those of the caller. -/
  | call (name : String) (arguments : Option (List Expr))
  | callValue (function : Expr) (arguments : Option (List Expr))
  | method (invocant : Expr) (name : Expr) (arguments : List Expr)
  /-- A function that is there from the beginning. -/
  | builtin (name : String) (arguments : List Expr)
  | walk (walk : Walk) (body : Option Expr) (items : List Expr)
  | print (kind : Printing) (handle : Option Expr) (items : List Expr)
  | unary (operator : Unary) (operand : Expr)
  | binary (operator : Binary) (left right : Expr)
  | choose (choosing : Choosing) (left right : Expr)
  | exclusive (left right : Expr)
  | repeat_ (left right : Expr)
  | range (first last : Expr)
  | either (condition yes no : Expr)
  | assign (assignment : Assignment) (target value : Expr)
  | step (up before : Bool) (target : Expr)
  | reference (target : Expr)
  | makeArray (items : List Expr)
  | makeHash (items : List Expr)
  | makeCode (name : String) (body : List (Nat × Statement))
  | pattern (parts : Expr) (flags : PatternFlags)
  /-- Looks for a match of a pattern, or replaces matches. -/
  | matches_ (subject : Option Expr) (negated : Bool) (pattern : Expr) (flags : PatternFlags)
  | substitute (subject : Option Expr) (negated : Bool) (pattern by_ : Expr) (flags : PatternFlags)
  | transliterate (subject : Option Expr) (negated : Bool) (from_ to_ : List Char) (letters : List Char)
  | readLine (handle : Expr)
  /-- The files whose names fit a pattern. -/
  | glob (pattern : Expr)
  | run (command : Expr)
  | fileTest (letter : Char) (operand : Expr)
  | block (body : List (Nat × Statement))
  | attempt (body : List (Nat × Statement))

/-- A statement. -/
inductive Statement where
  | expr (value : Expr)
  | block (label : String) (body : List (Nat × Statement))
  | branch (condition : Expr) (body otherwise : List (Nat × Statement))
  | loop (label : String) (untilTrue : Bool) (condition : Option Expr) (body continues : List (Nat × Statement))
  /-- A loop whose body is run before the condition is looked at. -/
  | loopAfter (untilTrue : Bool) (condition : Expr) (body : Expr)
  | count (label : String) (first : Option Expr) (condition : Option Expr) (update : Option Expr)
    (body : List (Nat × Statement))
  | each (label : String) (variable_ : Expr) (items : Expr) (body : List (Nat × Statement))
  | define (name : String) (body : List (Nat × Statement))
  | package (name : String)
  /-- A module is wanted. -/
  | use (name : String)

end

instance : Inhabited Expr := ⟨.undefined⟩

instance : Inhabited Statement := ⟨.expr .undefined⟩

/-- Statements with the lines that they are on. -/
abbrev Block := List (Nat × Statement)

end Shell.Machine.Perl
