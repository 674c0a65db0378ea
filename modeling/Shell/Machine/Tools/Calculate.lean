import Shell.Machine.Regex.Read
import Shell.Machine.Utility.Tool

/-! # Calculating

The program that works out an expression whose parts are its arguments.
-/

namespace Shell.Machine

namespace Calculate

/-- Fails with what is wrong. -/
abbrev Result := Except String

/-- The integer that a text names, which is digits with a minus sign or without. -/
def integer? (text : String) : Option Int :=
  let (negative, digits) := match text.toList with
    | '-' :: rest => (true, rest)
    | chars => (false, chars)
  if digits.isEmpty || !digits.all Char.isDigit then none
  else
    let value := Int.ofNat ((String.ofList digits).toNat?.getD 0)
    some (if negative then -value else value)

/-- True for a text that counts as false. -/
def isNull (text : String) : Bool :=
  text.isEmpty || integer? text = some 0

/-- The integer that a text names, or a failure. -/
def integer (text : String) : Result Int :=
  match integer? text with
  | some value => .ok value
  | none => .error "non-integer argument"

/-- The text for a condition. -/
def truth (holds : Bool) : String := if holds then "1" else "0"

/-- Works out an operation on two integers. -/
def arithmetic (operator one other : String) : Result String := do
  let a ← integer one
  let b ← integer other
  match operator with
  | "+" => return toString (a + b)
  | "-" => return toString (a - b)
  | "*" => return toString (a * b)
  | "/" => if b = 0 then throw "division by zero" else return toString (a.tdiv b)
  | _ => if b = 0 then throw "division by zero" else return toString (a.tmod b)

/-- Compares two texts, as integers if both name some. -/
def compareTexts (one other : String) : Ordering :=
  match integer? one, integer? other with
  | some a, some b => compare a b
  | _, _ => compare one other

def holds (operator : String) (order : Ordering) : Bool :=
  match operator with
  | "<" => order = .lt
  | "<=" => order ≠ .gt
  | "=" | "==" => order = .eq
  | "!=" => order ≠ .eq
  | ">=" => order ≠ .lt
  | _ => order = .gt

/-- What of a text matches an expression at its start: a part of it, or how much of it. -/
def matched (text pattern : String) : Result String :=
  match Regex.read {} pattern with
  | .error fault => .error fault.message
  | .ok (regex, groups) =>
    let subject : Regex.Subject := { text := text.toList.toArray }
    match Regex.matchAt subject [regex] 0 with
    | some found =>
      if groups = 0 then .ok (toString found.span.stop)
      else
        .ok (((found.groups.lookup 1).map fun span =>
          String.ofList (subject.text.extract span.start span.stop).toList).getD "")
    | none => .ok (if groups = 0 then "0" else "")

/-- A part of a text, counted from one. -/
def part (text start count : String) : String :=
  match integer? start, integer? count with
  | some start, some count =>
    if start ≤ 0 || count ≤ 0 then ""
    else String.ofList ((text.toList.drop (start.toNat - 1)).take count.toNat)
  | _, _ => ""

/-- The first place in a text of a character that is one of some, counted from one. -/
def placeOf (text chars : String) : Nat :=
  match text.toList.findIdx? fun c => chars.contains c with
  | some place => place + 1
  | none => 0

/-- How expressions are read: the arguments that are left, and the one before them. -/
structure Reading where
  left : List String
  before : String := ""

/-- Works out expressions while they are read. -/
abbrev ReadM := StateT Reading Result

/-- The next argument, which has to be there. -/
def take : ReadM String := do
  match (← get).left with
  | [] => throw ("syntax error: missing argument after " ++ "'" ++ (← get).before ++ "'")
  | text :: rest =>
    set ({ left := rest, before := text } : Reading)
    return text

/-- The operators between operands, those that bind least first. -/
def operators : List (List String) :=
  [["|"], ["&"], ["<", "<=", "=", "==", "!=", ">=", ">"], ["+", "-"], ["*", "/", "%"], [":"]]

def operate (operator one other : String) : ReadM String := do
  match operator with
  | "|" => return if !isNull one then one else if !isNull other then other else "0"
  | "&" => return if isNull one || isNull other then "0" else one
  | "+" | "-" | "*" | "/" | "%" => arithmetic operator one other
  | ":" => matched one other
  | operator => return truth (holds operator (compareTexts one other))

/-- True when what comes after an operator does not matter. -/
def decides (operator one : String) : Bool :=
  (operator = "|" && !isNull one) || (operator = "&" && isNull one)

mutual

/-- Reads what operators of some levels connect. Unless it counts, it is only read. -/
def readLevel : Nat → List (List String) → Bool → ReadM String
  | 0, _, _ => throw "syntax error"
  | fuel + 1, [], counts => readOperand fuel counts
  | fuel + 1, level :: levels, counts => do
    let first ← readLevel fuel levels counts
    readMore fuel level levels counts first

/-- Reads operators of a level with the operands behind them. -/
def readMore : Nat → List String → List (List String) → Bool → String → ReadM String
  | 0, _, _, _, _ => throw "syntax error"
  | fuel + 1, level, levels, counts, value => do
    match (← get).left with
    | operator :: _ =>
      if level.contains operator then
        discard take
        let matters := counts && !decides operator value
        let other ← readLevel fuel levels matters
        let value ←
          if matters then operate operator value other
          else pure (if operator = "&" && counts then "0" else value)
        readMore fuel level levels counts value
      else return value
    | [] => return value

def readOperand : Nat → Bool → ReadM String
  | 0, _ => throw "syntax error"
  | fuel + 1, counts => do
    let text ← take
    match text with
    | "(" => do
      let value ← readLevel fuel operators counts
      match (← get).left with
      | ")" :: _ =>
        discard take
        return value
      | [] => throw ("syntax error: expecting ')' after " ++ "'" ++ (← get).before ++ "'")
      | other :: _ => throw ("syntax error: expecting ')' instead of " ++ "'" ++ other ++ "'")
    | ")" => throw "syntax error: unexpected ')'"
    | "+" => take
    | "length" =>
      let value ← readOperand fuel counts
      return toString value.length
    | "match" =>
      let value ← readOperand fuel counts
      let pattern ← readOperand fuel counts
      if counts then matched value pattern else return value
    | "index" =>
      let value ← readOperand fuel counts
      let chars ← readOperand fuel counts
      return toString (placeOf value chars)
    | "substr" =>
      let value ← readOperand fuel counts
      let start ← readOperand fuel counts
      let count ← readOperand fuel counts
      return part value start count
    | text => return text

end

/-- Works out an expression. -/
def evaluate (arguments : List String) : Result String := do
  let (value, reading) ← (readLevel (arguments.length * 16 + 16) operators true).run { left := arguments }
  match reading.left with
  | [] => return value
  | extra :: _ => throw ("syntax error: unexpected argument " ++ "'" ++ extra ++ "'")

end Calculate

namespace ToolM

/-- Works out an expression. -/
def expr : ToolM Unit := do
  let arguments := (← get).arguments
  let arguments := if arguments.head? = some "--" then arguments.drop 1 else arguments
  if arguments.isEmpty then misuse 2 "missing operand"
  match Calculate.evaluate arguments with
  | .error message => fail 2 message
  | .ok value =>
    print (value ++ "\n")
    if Calculate.isNull value then quit 1

end ToolM

end Shell.Machine
