import Shell.Machine.Regex.Read
import Shell.Machine.Script.Paths
import Shell.Machine.Utility.Condition

/-! # Conditions in the extended dialect

What is found out between double brackets, where words are patterns, regular expressions and formulas too, and what
`test` finds out, whose words have all been expanded.
-/

namespace Shell.Machine.Script

/-- Why a condition is neither true nor false. -/
inductive CheckFault where
  /-- It has been reported. -/
  | reported
  /-- A regular expression cannot be read. -/
  | badRegex
  | report (text : String)
deriving Repr, DecidableEq, Inhabited

namespace ScriptM

/-! ## Single conditions -/

/-- Whether a variable or an element has a value. -/
def isSet (text : String) : ScriptM Bool := do
  match Reference.ofText? text with
  | none => return false
  | some reference =>
    match reference.choice with
    | .all _ => return !(← seen reference.name).pairs.isEmpty
    | .itself | .some _ => return (← amountOf reference) ≠ .nothing

/-- Whether an option is set that is known by name. -/
def hasOptionNamed (name : String) : ScriptM Bool := do
  return (← get).optionNames.contains name

/-- Whether an operand is as an operator before it says. -/
def checkUnary (letter : Char) (operand : String) : ScriptM Bool := do
  match letter with
  | 'n' => return !operand.isEmpty
  | 'z' => return operand.isEmpty
  | 'v' => isSet operand
  | 'o' => hasOptionNamed operand
  | 'R' => return ((← get).binding? operand).any fun entry => entry.isReference && entry.value.isSome
  | 't' => return false
  | 'a' => Condition.isFile 'e' operand
  | 'N' => return false
  | _ => Condition.isFile letter operand

/-- The letters of operators before an operand. -/
def unaryLetters : String := "abcdefghknoprstuvwxzGLNORS"

/-- True for an operator before an operand. -/
def isUnary (word : String) : Bool :=
  match word.toList with
  | ['-', c] => unaryLetters.contains c
  | _ => false

/-! ## Between double brackets -/

/-- A regular expression, in which what is quoted stands for itself. -/
def regexText : Bool → List Glyph → List Char
  | _, [] => []
  | inSet, glyph :: rest =>
    let here := if glyph.quoted && !inSet && ".[]\\*^$+?()\x7b\x7d|".contains glyph.char then ['\\', glyph.char]
      else [glyph.char]
    let inSet := if inSet then !(glyph.is ']') else glyph.is '['
    here ++ regexText inSet rest

/-- Whether a text matches a regular expression. What its parts match is kept. -/
def matchRegex (text : String) (pattern : List Glyph) : ScriptM (Except CheckFault Bool) := do
  match Regex.read { extended := true } (String.ofList (regexText false pattern)) with
  | .error _ => return .error .badRegex
  | .ok (regex, groups) =>
    let chars := text.toList.toArray
    let subject : Regex.Subject := { text := chars, foldsCase := (← get).switches.contains "nocasematch" }
    let found := Regex.find? subject [regex] 0
    let texts := match found with
      | none => []
      | some found =>
        let part (span : Regex.Span) : String := String.ofList (chars.extract span.start span.stop).toList
        part found.span :: (List.range groups).map fun number => ((found.groups.lookup (number + 1)).map part).getD ""
    let entry : Variable := { name := "BASH_REMATCH", value := none }
    modify fun state => state.putVariable (entry.withElements (numberedFrom 0 texts))
    return .ok found.isSome

/-- Shows something that is about to be done in the extended dialect. -/
def traceLine (text : String) : ScriptM Unit := do
  let state ← get
  if state.hasOption 'x' then
    let start := (state.value? "PS4").getD ""
    let deeper := String.join (List.replicate (state.traceDepth - 1) (start.take 1).toString)
    discard (write 2 (deeper ++ start ++ text ++ "\n"))

/-- Shows a condition that has no others in it. `negated` says whether its opposite is asked for. -/
def traceCheck (negated : Bool) (words : List String) : ScriptM Unit :=
  traceLine (" ".intercalate (["[["] ++ (if negated then ["!"] else []) ++ words ++ ["]]"]))

def shownOperand (text : String) : String :=
  if text.isEmpty then "''" else text

/-- A pattern as it is shown: what is quoted in it has a backslash before it. -/
def shownPattern (glyphs : List Glyph) : String :=
  shownOperand (String.ofList (glyphs.flatMap fun glyph => if glyph.quoted then ['\\', glyph.char] else [glyph.char]))

/-- Whether two operands are as an operator says. -/
def checkBinary (run : Runner) (negated : Bool) (operator : String) (left right : Word) :
    ScriptM (Except CheckFault Bool) := do
  let text ← expandText run .atStart left
  if ["=", "==", "!=", "=~"].contains operator then
    let glyphs := Item.glyphs (← expand run { tildes := .atStart } right)
    traceCheck negated [shownOperand text, operator, shownPattern glyphs]
    if operator = "=~" then matchRegex text glyphs
    else
      let test := Pattern.testOf true ((← get).switches.contains "nocasematch") glyphs
      return .ok (test.accepts text.toList != (operator = "!="))
  else
    let other ← expandText run .atStart right
    traceCheck negated [shownOperand text, operator, shownOperand other]
    if operator = "<" then return .ok (text < other)
    else if operator = ">" then return .ok (other < text)
    else if Condition.fileOperators.contains operator then
      return .ok (← Condition.compareFiles true operator text other)
    else
      match ← formula? text with
      | none => return .error .reported
      | some first =>
        match ← formula? other with
        | none => return .error .reported
        | some second => return .ok (Condition.compareNumbers operator first.toInt second.toInt)

/-- Whether a condition is true, of which perhaps the opposite is asked for. -/
def checkFor (run : Runner) (negated : Bool) : Check → ScriptM (Except CheckFault Bool)
  | .unary operator operand => do
    let text ← expandText run .atStart operand
    traceCheck negated [operator, shownOperand text]
    return .ok (← checkUnary (operator.toList.getLastD 'n') text)
  | .binary operator left right => checkBinary run negated operator left right
  | .not inner => do
    match ← checkFor run (!negated) inner with
    | .ok value => return .ok (!value)
    | other => return other
  | .and left right => do
    match ← checkFor run negated left with
    | .ok true => checkFor run negated right
    | other => return other
  | .or left right => do
    match ← checkFor run negated left with
    | .ok false => checkFor run negated right
    | other => return other

/-! ## Words that have been expanded -/

/-- Reads a condition word by word. -/
abbrev Inquiry := StateT (List String) (ExceptT String ScriptM)

namespace Inquiry

def once {α : Type} (action : ScriptM α) : Inquiry α := StateT.lift (ExceptT.lift action)

/-- Passes over a word. `wants` says whether another one has to follow. -/
def advance (wants : Bool) : Inquiry Unit := do
  modify fun words => words.drop 1
  if wants && (← get).isEmpty then throw "argument expected"

def number (text : String) : Inquiry Int := do
  match Numeral.whole? text with
  | some value =>
    if value < -9223372036854775808 || 9223372036854775807 < value then throw (text ++ ": integer expression expected")
    return value
  | none => throw (text ++ ": integer expression expected")

/-- True for an operator between two operands. -/
def isBinary (word : String) : Bool :=
  (["=", "==", "!=", "<", ">"] ++ Condition.numberOperators ++ Condition.fileOperators).contains word

/-- Whether two operands are as an operator says. -/
def compare (left operator right : String) : Inquiry Bool := do
  if Condition.fileOperators.contains operator then once (Condition.compareFiles true operator left right)
  else if Condition.numberOperators.contains operator then
    let left ← number left
    return Condition.compareNumbers operator left (← number right)
  else
    return match operator with
      | "!=" => left ≠ right
      | "<" => left < right
      | ">" => right < left
      | _ => left = right

/-- A condition with an operator between two operands, which comes next. -/
def binary : Inquiry Bool := do
  let words ← get
  set (words.drop 3)
  compare (words.headD "") (words.getD 1 "") (words.getD 2 "")

/-- A condition with an operator before an operand, which comes next. -/
def unary : Inquiry Bool := do
  let letter := ((← get).headD "").toList.getLastD 'n'
  advance true
  let operand := (← get).headD ""
  advance false
  if letter = 't' then
    discard (number operand)
    return false
  else once (checkUnary letter operand)

/-- A condition of two words. -/
def two : Inquiry Bool := do
  match ← get with
  | "!" :: word :: rest =>
    set rest
    return word.isEmpty
  | word :: _ =>
    if isUnary word then unary else throw (word ++ ": unary operator expected")
  | [] => throw "argument expected"

/-- A condition of three words. -/
def three : Inquiry Bool := do
  match ← get with
  | left :: middle :: right :: rest =>
    if isBinary middle then binary
    else if middle = "-a" || middle = "-o" then
      set rest
      return if middle = "-a" then !left.isEmpty && !right.isEmpty else !left.isEmpty || !right.isEmpty
    else if left = "!" then
      advance true
      return !(← two)
    else if left = "(" && right = ")" then
      set rest
      return !middle.isEmpty
    else throw (middle ++ ": binary operator expected")
  | _ => throw "argument expected"

mutual

/-- Conditions joined by `-o`. -/
def either : Nat → Inquiry Bool
  | 0 => return false
  | fuel + 1 => do
    let left ← both fuel
    if (← get).head? = some "-o" then
      advance false
      let right ← either fuel
      return left || right
    else return left
termination_by structural fuel => fuel

/-- Conditions joined by `-a`. -/
def both : Nat → Inquiry Bool
  | 0 => return false
  | fuel + 1 => do
    let left ← term fuel
    if (← get).head? = some "-a" then
      advance false
      let right ← both fuel
      return left && right
    else return left
termination_by structural fuel => fuel

/-- A condition that is not joined from others. -/
def term : Nat → Inquiry Bool
  | 0 => return false
  | fuel + 1 => do
    match ← get with
    | [] => throw "argument expected"
    | "!" :: _ =>
      advance true
      return !(← term fuel)
    | "(" :: _ =>
      advance true
      let value ← either fuel
      match ← get with
      | ")" :: rest =>
        set rest
        return value
      | [] => throw "\x60)' expected"
      | word :: _ => throw ("\x60)' expected, found " ++ word)
    | word :: rest =>
      if 2 ≤ rest.length && isBinary (rest.headD "") then binary
      else if 1 ≤ rest.length && isUnary word then unary
      else
        set rest
        return !word.isEmpty
termination_by structural fuel => fuel

end

def whole (words : List String) : Inquiry Bool := do
  let fuel := 4 * words.length + 8
  let value ← match words with
    | [] => pure false
    | [word] => do
      set ([] : List String)
      pure (!word.isEmpty)
    | [_, _] => two
    | [_, _, _] => three
    | [first, _, _, last] =>
      if first = "!" then
        advance true
        pure (!(← three))
      else if first = "(" && last = ")" then
        advance false
        let value ← two
        set ([] : List String)
        pure value
      else either fuel
    | _ => either fuel
  match ← get with
  | [] => return value
  | word :: _ =>
    throw (if word.startsWith "-" then "syntax error: \x60" ++ word ++ "' unexpected" else "too many arguments")

end Inquiry

/-- Finds out whether a condition is true whose words have been expanded. -/
def inquire (words : List String) : ScriptM Nat := do
  match ← ExceptT.run ((Inquiry.whole words).run words) with
  | .ok (true, _) => return 0
  | .ok (false, _) => return 1
  | .error report =>
    warn report
    return 2

/-- Finds out whether a condition is true that ends in a bracket. -/
def inquireBracketed (arguments : List String) : ScriptM Nat := do
  match Condition.bracketed? arguments with
  | some words => inquire words
  | none =>
    warn "missing \x60]'"
    return 2

end ScriptM

end Shell.Machine.Script
