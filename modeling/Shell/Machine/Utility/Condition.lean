import Shell.Machine.Call
import Shell.Machine.Utility.Numeral
import Shell.Machine.Utility.Quote

/-! # Conditions

What `test` and `[` find out: about texts, numbers and files. There are two dialects, which agree on conditions of up to
three words and differ in how they read longer ones and in what they say about those that they cannot read.
-/

namespace Shell.Machine.Condition

/-- Reads a condition, word by word. The words that are left are the state; errors are reports. -/
abbrev Check (m : Type → Type) := ExceptT String (StateT (List String) m)

variable {m : Type → Type} [Monad m] [Asks m]

/-! ## Files -/

/-- The file that a path leads to, if it leads to one. -/
def inspect (path : String) (follow : Bool) : m (Option FileInfo) := do
  match ← Asks.ask (.inspect path follow) with
  | .ok info => return some info
  | .error _ => return none

def isFile (letter : Char) (path : String) : m Bool := do
  match ← inspect path (!"hL".contains letter) with
  | none => return false
  | some info =>
    return match letter with
      | 'f' => info.sort = .plain
      | 'd' => info.sort = .directory
      | 'h' | 'L' => info.sort = .link
      | 'p' => info.sort = .pipe
      | 'c' => info.sort = .device
      | 's' => info.size ≠ 0
      | 'x' => info.sort = .directory || info.mode &&& 0o111 ≠ 0
      | 'u' => info.mode &&& 0o4000 ≠ 0
      | 'g' => info.mode &&& 0o2000 ≠ 0
      | 'k' => info.mode &&& 0o1000 ≠ 0
      | 'b' | 'S' => false
      | _ => true

/-- Compares when two files were changed, or whether they are the same. `lenient` says whether a
    file that is there was changed later than one that is not. -/
def compareFiles (lenient : Bool) (operator left right : String) : m Bool := do
  let left ← inspect left true
  let right ← inspect right true
  return match operator, left, right with
    | "-ef", some left, some right => left.id = right.id
    | "-nt", some left, some right => right.modified < left.modified
    | "-ot", some left, some right => left.modified < right.modified
    | "-nt", some _, none => lenient
    | "-ot", none, some _ => lenient
    | _, _, _ => false

/-- Whether two numbers are as an operator says. -/
def compareNumbers (operator : String) (left right : Int) : Bool :=
  match operator with
  | "-eq" => left = right
  | "-ne" => left ≠ right
  | "-lt" => left < right
  | "-le" => left ≤ right
  | "-gt" => right < left
  | _ => right ≤ left

def numberOperators : List String := ["-eq", "-ne", "-lt", "-le", "-gt", "-ge"]

def fileOperators : List String := ["-nt", "-ot", "-ef"]

/-! ## In scripts -/

namespace Script

/-- What a word is for. -/
inductive Kind where
  | unary
  | binary
  | not
  | and
  | or
  | opening
  | closing
  | operand
  | none
deriving Repr, DecidableEq, Inhabited

/-- What a word is for, wherever it stands. -/
def kindOf (word : String) : Kind :=
  if (["=", "!=", "<", ">"] ++ numberOperators ++ fileOperators).contains word then .binary
  else
    match word with
    | "!" => .not
    | "-a" => .and
    | "-o" => .or
    | "(" => .opening
    | ")" => .closing
    | _ =>
      match word.toList with
      | ['-', c] => if "rwxefdcbpugkstznhOGLS".contains c then .unary else .operand
      | _ => .operand

/-- What the first of some words is for. An operator without the words that it needs is an operand. -/
def kindAt (words : List String) : Kind :=
  match words with
  | [] => .none
  | word :: rest =>
    match kindOf word with
    | .unary =>
      match rest with
      | [] => .operand
      | [_] => .unary
      | next :: _ => if kindOf next = .binary then .operand else .unary
    | .opening => if rest.isEmpty then .operand else .opening
    | kind => kind

def number (text : String) : Check m Int := do
  match Numeral.whole? text with
  | some value =>
    if -9223372036854775808 ≤ value && value ≤ 9223372036854775807 then return value
    else throw ("Illegal number: " ++ text)
  | none => throw ("Illegal number: " ++ text)

/-- Whether two operands are as an operator says. -/
def compare (operator left right : String) : Check m Bool := do
  if fileOperators.contains operator then compareFiles false operator left right
  else if numberOperators.contains operator then
    let left ← number left
    return compareNumbers operator left (← number right)
  else
    return match operator with
      | "=" => left = right
      | "!=" => left ≠ right
      | "<" => left < right
      | _ => right < left

mutual

/-- Conditions joined by `-o`, the first of which begins with a word of a kind. Ends at its last word. -/
def either : Nat → Kind → Check m Bool
  | 0, _ => return false
  | fuel + 1, kind => do
    let left ← both fuel kind
    let words ← get
    if kindAt (words.drop 1) = .or then
      set (words.drop 2)
      let right ← either fuel (kindAt (words.drop 2))
      return left || right
    else return left

/-- Conditions joined by `-a`. -/
def both : Nat → Kind → Check m Bool
  | 0, _ => return false
  | fuel + 1, kind => do
    let left ← negated fuel kind
    let words ← get
    if kindAt (words.drop 1) = .and then
      set (words.drop 2)
      let right ← both fuel (kindAt (words.drop 2))
      return left && right
    else return left

/-- A condition after any number of `!`. -/
def negated : Nat → Kind → Check m Bool
  | 0, _ => return false
  | fuel + 1, kind => do
    if kind = .not then
      let words ← get
      let next := kindAt (words.drop 1)
      if next ≠ .none then set (words.drop 1)
      return !(← negated fuel next)
    else single fuel kind

/-- A condition that is not joined from others. -/
def single : Nat → Kind → Check m Bool
  | 0, _ => return false
  | fuel + 1, kind => do
    let words ← get
    match kind, words with
    | .none, _ => return false
    | .opening, _ =>
      set (words.drop 1)
      let next := kindAt (words.drop 1)
      if next = .closing then return false
      let value ← either fuel next
      let rest := (← get).drop 1
      set rest
      if kindAt rest ≠ .closing then throw "closing paren expected"
      return value
    | .unary, operator :: operand :: _ =>
      set (words.drop 1)
      match operator with
      | "-z" => return operand.isEmpty
      | "-n" => return !operand.isEmpty
      | "-t" =>
        discard (number operand : Check m Int)
        return false
      | _ => isFile (operator.toList.getD 1 'e') operand
    | .unary, [operator] => throw (operator ++ ": argument expected")
    | _, left :: operator :: rest =>
      if kindAt (operator :: rest) = .binary then
        match rest with
        | right :: _ =>
          set rest
          compare operator left right
        | [] => throw (operator ++ ": argument expected")
      else return !left.isEmpty
    | _, [word] => return !word.isEmpty
    | _, [] => return false

end

/-- The value of all words, in which `negative` turns round what is found. -/
def whole (negative : Bool) (words : List String) (kind : Kind) : Check m Bool := do
  set words
  let value ← either (4 * words.length + 8) kind
  match ← get with
  | word :: _ :: _ =>
    throw (if word.isEmpty then "unexpected operator" else word ++ ": unexpected operator")
  | _ => return value != negative

/-- The value of words, of which at most so many are `!` at the start. -/
def evaluate : Nat → Bool → List String → Check m Bool
  | 0, _, _ => return false
  | fuel + 1, negative, words => do
    if words.isEmpty then return negative
    let isBinary := words.length = 3 && kindOf (words.getD 1 "") = .binary
    if isBinary then whole negative words .operand
    else if words.length = 3 || words.length = 4 then
      if words.head? = some "(" && words.getLast? = some ")" then
        let inner := (words.drop 1).dropLast
        whole negative inner (kindAt inner)
      else if words.head? = some "!" then evaluate fuel true (words.drop 1)
      else whole negative words (kindAt words)
    else whole negative words (kindAt words)

end Script

/-! ## As a program -/

namespace Program

/-- The words of a condition, and the last of them, which reports may name. -/
structure Given where
  last : String

/-- Reports that words are missing. -/
def beyond {α : Type} (given : Given) : Check m α :=
  throw ("missing argument after " ++ Quote.text given.last)

/-- Passes over a word. `wants` says whether another one has to follow. -/
def advance (given : Given) (wants : Bool) : Check m Unit := do
  modify fun words => words.drop 1
  if wants && (← get).isEmpty then beyond given

/-- True for operators that stand between two operands. -/
def isBinary (word : String) : Bool :=
  (["=", "==", "!="] ++ numberOperators ++ fileOperators).contains word

def number (text : String) : Check m Int := do
  match Numeral.whole? text with
  | some value => return value
  | none => throw ("invalid integer " ++ Quote.text text)

/-- A condition with an operator between two operands. -/
def binary : Check m Bool := do
  let words ← get
  set (words.drop 3)
  match words with
  | left :: operator :: right :: _ =>
    if fileOperators.contains operator then compareFiles true operator left right
    else if numberOperators.contains operator then
      let left ← number left
      return compareNumbers operator left (← number right)
    else return if operator = "!=" then left ≠ right else left = right
  | _ => return false

/-- True for a hyphen and one more character. -/
def isLetter (word : String) : Bool :=
  word.length = 2 && word.startsWith "-"

/-- A condition with an operator before an operand. -/
def unary (given : Given) : Check m Bool := do
  match (← get).headD "" |>.toList with
  | ['-', c] =>
    if !"bcdefghkLnNOprsStuwxzG".contains c then
      throw (Quote.text (String.ofList ['-', c]) ++ ": unary operator expected")
    advance given true
    let operand := (← get).headD ""
    modify fun words => words.drop 1
    match c with
    | 'n' => return !operand.isEmpty
    | 'z' => return operand.isEmpty
    | 't' =>
      discard (number operand : Check m Int)
      return false
    | _ => isFile c operand
  | word => throw (Quote.text (String.ofList word) ++ ": unary operator expected")

/-- A condition of one word. -/
def one : Check m Bool := do
  let word := (← get).headD ""
  modify fun words => words.drop 1
  return !word.isEmpty

/-- A condition of two words. -/
def two (given : Given) : Check m Bool := do
  let word := (← get).headD ""
  if word = "!" then
    advance given false
    return !(← one)
  else if isLetter word then unary given
  else beyond given

mutual

/-- Conditions joined by `-o`. -/
def either (given : Given) : Nat → Check m Bool
  | 0 => return false
  | fuel + 1 => do
    if (← get).isEmpty then beyond given
    let left ← both given fuel
    if (← get).head? = some "-o" then
      advance given false
      let right ← either given fuel
      return left || right
    else return left

/-- Conditions joined by `-a`. -/
def both (given : Given) : Nat → Check m Bool
  | 0 => return false
  | fuel + 1 => do
    let left ← term given fuel
    if (← get).head? = some "-a" then
      advance given false
      let right ← both given fuel
      return left && right
    else return left

/-- A condition that is not joined from others. -/
def term (given : Given) : Nat → Check m Bool
  | 0 => return false
  | fuel + 1 => do
    let words ← get
    match words with
    | [] => beyond given
    | "!" :: _ =>
      advance given true
      return !(← term given fuel)
    | "(" :: _ =>
      advance given true
      let rest ← get
      let inside := (rest.drop 1).takeWhile (· ≠ ")")
      let count := if inside.length < 4 then inside.length + 1 else rest.length
      let value ← counted given fuel count
      match ← get with
      | ")" :: rest =>
        set rest
        return value
      | [] => throw "')' expected"
      | word :: _ => throw ("')' expected, found " ++ Quote.text word)
    | word :: rest =>
      let text := rest.headD ""
      if word = "-l" && 4 ≤ words.length && isBinary (words.getD 2 "") then
        set (toString text.length :: rest.drop 1)
        binary
      else if 3 ≤ words.length && isBinary text then binary
      else if isLetter word then unary given
      else one

/-- A condition of so many words. -/
def counted (given : Given) : Nat → Nat → Check m Bool
  | 0, _ => return false
  | fuel + 1, count => do
    let words ← get
    match count with
    | 1 => one
    | 2 => two given
    | 3 => three given fuel words
    | 4 =>
      if words.head? = some "!" then
        advance given true
        return !(← three given fuel (words.drop 1))
      else if words.head? = some "(" && words[3]? = some ")" then
        advance given false
        let value ← two given
        advance given false
        return value
      else either given fuel
    | _ => either given fuel

/-- A condition of three words. -/
def three (given : Given) : Nat → List String → Check m Bool
  | 0, _ => return false
  | fuel + 1, words => do
    let middle := words.getD 1 ""
    if isBinary middle then binary
    else if words.head? = some "!" then
      advance given true
      return !(← two given)
    else if words.head? = some "(" && words[2]? = some ")" then
      advance given false
      let value ← one
      advance given false
      return value
    else if middle = "-a" || middle = "-o" then either given fuel
    else throw (Quote.text middle ++ ": binary operator expected")

end

def evaluate (words : List String) : Check m Bool := do
  if words.isEmpty then return false
  set words
  let value ← counted { last := words.getLastD "" } (4 * words.length + 8) words.length
  match ← get with
  | [] => return value
  | word :: _ => throw ("extra argument " ++ Quote.text word)

end Program

/-- What a script finds out about words, or why it cannot. -/
def script (words : List String) : m (Except String Bool) := do
  let (result, _) ← ((Script.evaluate 3 false words : Check m Bool).run).run words
  return result

/-- What the program finds out about words, or why it cannot. -/
def program (words : List String) : m (Except String Bool) := do
  let (result, _) ← ((Program.evaluate words : Check m Bool).run).run words
  return result

/-- The words between `[` and `]`, if the last word is `]`. -/
def bracketed? (arguments : List String) : Option (List String) :=
  if arguments.getLast? = some "]" then some arguments.dropLast else none

end Shell.Machine.Condition
