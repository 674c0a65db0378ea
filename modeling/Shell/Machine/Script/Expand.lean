import Shell.Machine.Script.Parameters
import Shell.Machine.Script.Arithmetic

/-! # Expansion

What the words of a script stand for: parameters, the output of commands and the values of expressions take
their places.
-/

/-! ## References

The references of the extended dialect to variables, to the elements of arrays and to what other variables name, and
what they amount to.
-/

namespace Shell.Machine.Script

/-- What a subscript asks for. -/
inductive Choice where
  /-- There is no subscript. -/
  | itself
  /-- All elements; `joins` says whether they become one text between quotes. -/
  | all (joins : Bool)
  | some (subscript : String)
deriving Repr, DecidableEq, Inhabited

/-- What a reference is to, and how it is written. -/
structure Reference where
  name : String
  choice : Choice := .itself

namespace Reference

def text (reference : Reference) : String :=
  match reference.choice with
  | .itself => reference.name
  | .all joins => reference.name ++ (if joins then "[*]" else "[@]")
  | .some subscript => reference.name ++ "[" ++ subscript ++ "]"

def choiceOf (subscript : String) : Choice :=
  if subscript = "@" then .all false else if subscript = "*" then .all true else .some subscript

def ofText? (text : String) : Option Reference :=
  let chars := text.toList
  let name := chars.takeWhile Name.isPart
  match chars.drop name.length with
  | [] =>
    if Name.isValid name || (!name.isEmpty && name.all Char.isDigit) then some { name := text } else none
  | '[' :: rest =>
    if Name.isValid name && rest.getLast? = some ']' && 1 < rest.length then
      some { name := String.ofList name, choice := choiceOf (String.ofList rest.dropLast) }
    else none
  | [c] => if name.isEmpty && "@*#?$!-".contains c then some { name := text } else none
  | _ => none

def isParameters (reference : Reference) : Bool :=
  reference.name = "@" || reference.name = "*"

end Reference

namespace ScriptM

def amountOf (reference : Reference) : ScriptM Amount := do
  if reference.isParameters then return .many (← get).parameters (reference.name = "*")
  match reference.choice with
  | .itself => return ((← parameter? reference.name).map Amount.one).getD .nothing
  | .all joins =>
    noteTime reference.name
    return .many ((← seen reference.name).pairs.map (·.2)) joins
  | .some subscript => return ((← element? reference.name subscript).map Amount.one).getD .nothing

/-- What a reference amounts to if it has to amount to something. -/
def requiredAmount (reference : Reference) : ScriptM Amount := do
  let amount ← amountOf reference
  let isStrict := (← get).hasOption 'u'
  if isStrict && amount = .nothing then refuseUnset reference.text else return amount

def itemsOf (quoted divides : Bool) (amount : Amount) : ScriptM (List Item) := do
  match amount with
  | .nothing => return if quoted then [.run "" true false] else []
  | .one text => return [.run text quoted true]
  | .many texts joins =>
    if divides && !(quoted && joins) then
      return interleave .cut (texts.map fun text => Item.run text quoted true)
    else if texts.isEmpty then return if quoted && joins then [.run "" true false] else []
    else
      let state ← get
      let between := if joins then joiner state else " "
      return [.run (between.intercalate texts) quoted true]

/-- What is meant by the value of a reference. -/
def followReference (reference : Reference) : ScriptM Reference := do
  match ← amountOf reference with
  | .nothing => drop (reference.text ++ ": invalid indirect expansion")
  | amount =>
    let text := match amount with
      | .one text => text
      | .many texts _ => " ".intercalate texts
      | .nothing => ""
    match Reference.ofText? text with
    | some found => return found
    | none => drop (text ++ ": invalid variable name")

/-- The name that a variable stands for, if it is only a name for another one. -/
def namedBy? (reference : Reference) : ScriptM (Option String) := do
  match reference.choice, (← get).binding? reference.name with
  | .itself, some { isReference := true, value, .. } => return value
  | _, _ => return none

/-- The names of the variables that start with a name. -/
def namesFrom (start : String) : ScriptM (List String) := do
  let state ← get
  let made := ["BASHPID", "BASH_LINENO", "BASH_SOURCE", "BASH_SUBSHELL", "BASHOPTS", "DIRSTACK", "EPOCHREALTIME",
    "EPOCHSECONDS", "GROUPS", "LINENO", "PIPESTATUS", "RANDOM", "SECONDS", "SHELLOPTS", "SRANDOM", "_"]
  let set := (state.bindings.filter fun entry => entry.value.isSome || entry.isSet).map Variable.name
  let names := (set ++ made.filter fun name => !set.contains name).filter fun name => name.startsWith start
  return names.mergeSort fun left right => left ≤ right

/-- The part of what there are many of. The parameters of the script come after its name. -/
def partOf (reference : Reference) (start : Int64) (length : Option Int64) (texts : List String) :
    ScriptM (List String) := do
  let refused : Option Int64 := length.filter fun length => length < 0
  match refused with
  | some length => drop (toString length.toInt ++ ": substring expression < 0")
  | none =>
    let count := length.map Int64.toInt
    let first := start.toInt
    if reference.isParameters then
      let name := (← get).name
      let all := if 0 < first then "" :: texts else name :: texts
      return (Changed.part first count all).toOption.getD []
    let entry ← seen reference.name
    match entry.elements with
    | none => return (Changed.part first count texts).toOption.getD []
    | some elements =>
      let first := if first < 0 then first + entry.extent else first
      if first < 0 then return []
      let rest := (elements.filter fun element => first.toNat ≤ element.1).map (·.2)
      return (Changed.part 0 count rest).toOption.getD []

/-- What a letter after `@` makes of a reference. -/
def transform (reference : Reference) (letter : Char) (amount : Amount) : ScriptM Amount := do
  let entry ← seen reference.name
  match letter, reference.choice with
  | 'a', _ =>
    if amount = .nothing && !entry.isArray then return .nothing
    return amount.map fun _ => Quoting.attributes entry
  | 'A', .all _ => return .one (Quoting.declaration entry)
  | 'A', _ =>
    match amount with
    | .many texts _ => return .one ("set -- " ++ " ".intercalate (texts.map ScriptQuote.reusable))
    | .nothing => return .nothing
    | .one text =>
      let letters := Quoting.attributes entry
      let start := if letters.isEmpty then "" else "declare -" ++ letters ++ " "
      return .one (start ++ reference.name ++ "=" ++ ScriptQuote.reusable text)
  | 'K', .all _ =>
    let texts := entry.pairs.map fun pair => Quoting.key pair.1 ++ " " ++ ScriptQuote.double pair.2
    return .one (" ".intercalate texts ++ (if entry.entries.isSome then " " else ""))
  | 'k', .all joins => return .many (entry.pairs.flatMap fun pair => [pair.1, pair.2]) joins
  | _, _ => return amount.map (Changed.transformed letter)

end ScriptM

end Shell.Machine.Script

/-! ## Words -/

namespace Shell.Machine.Script.ScriptM

/-- How a word is expanded. -/
structure Manner where
  tildes : Tildes := .nowhere
  /-- Whether the result is to be divided into fields. -/
  divides : Bool := false

/-- Makes text that was not quoted divisible, as the text after an operator is. -/
def divisible (items : List Item) : List Item :=
  items.map fun
    | .run text false _ => .run text false true
    | item => item

def lengthOf (name : String) : ScriptM Nat := do
  if name = "@" || name = "*" then
    return (Item.text "" (← allParameters "*" true false)).length
  else
    match ← parameter? name with
    | some text => return text.length
    | none => if (← get).hasOption 'u' then refuseUnset name else return 0

/-- Makes text out of arithmetic. -/
def arithmetic (expr : String) : ScriptM String := do
  if ← isExtended then return toString (← onBehalf none (formula (unquoted expr))).toInt
  match Arithmetic.evaluate expr (← get) with
  | .ok (value, state) =>
    set state
    return toString value.toInt
  | .error report => fail report
where
  /-- A formula without double quotes. -/
  unquoted (expr : String) : String :=
    String.ofList (expr.toList.filter (· ≠ '"'))

mutual

def expandParts (run : Runner) : Nat → Manner → Bool → Word → ScriptM (List Item)
  | 0, _, _, _ => fail "word too long"
  | _, _, _, [] => return []
  | fuel + 1, manner, first, part :: rest => do
    let items ← expandPart run fuel manner first rest.isEmpty part
    let first := manner.tildes = .inAssignment && endsInColon part
    return items ++ (← expandParts run fuel manner first rest)
where
  /-- True for text that is not quoted and ends in a colon. -/
  endsInColon : Part → Bool
    | .text text false => text.endsWith ":"
    | _ => false

def expandPart (run : Runner) : Nat → Manner → Bool → Bool → Part → ScriptM (List Item)
  | 0, _, _, _, _ => fail "word too long"
  | fuel + 1, manner, first, isLast, part => do
    match part with
    | .text text true => return [.run text true false]
    | .text text false => plainText manner.tildes first isLast text
    | .output command quoted =>
      let text ← outputOf run command
      return [.run text quoted true]
    | .arithmetic expr quoted =>
      let text := Item.text " " (← expandParts run fuel {} false expr)
      return [.run (← arithmetic text) quoted true]
    | .pipe reads command => return [.run (← openPipe run reads command) false false]
    | .target name subscript appends =>
      let inner ← match subscript with
        | none => pure []
        | some word => do
          let items ← expandParts run fuel manner false word
          pure (Item.run "[" false false :: items ++ [.run "]" false false])
      let sign := if appends then "+=" else "="
      return .run name false false :: inner ++ [.run sign false false]
    | .compound _ => return []
    | .element name subscript indirect change quoted =>
      expandReference run fuel manner name subscript indirect change quoted
    | .parameter name change quoted =>
      if ← isExtended then expandReference run fuel manner name none false change quoted
      else expandParameter run fuel manner name change quoted
termination_by structural fuel => fuel

def expandParameter (run : Runner) : Nat → Manner → String → Change → Bool → ScriptM (List Item)
  | 0, _, _, _, _ => fail "word too long"
  | fuel + 1, manner, name, change, quoted => do
    match change with
    | .none => plainValue name quoted manner.divides
    | .length => return [.run (toString (← lengthOf name)) quoted true]
    | .trim atEnd longest pattern =>
      let items ← plainValue name quoted manner.divides
      if (← valueItems name quoted manner.divides).isNone then return items
      let glyphs := Item.glyphs (← expandParts run fuel { tildes := .atStart } true pattern)
      let pattern := Pattern.ofGlyphs glyphs
      return items.map fun
        | .run text quoted divisible =>
          .run (Pattern.trim atEnd longest pattern text) quoted divisible
        | .cut => .cut
    | .fallback kind orEmpty word =>
      let value ← valueItems name quoted manner.divides
      let isMissing :=
        match value with
        | none => true
        | some items => orEmpty && (Item.text "" items).isEmpty
      let tildes : Tildes := if quoted then .nowhere else .atStart
      match kind, isMissing with
      | .alternative, true => return if quoted then [.run "" true false] else []
      | .alternative, false | .default, true =>
        let items ← expandParts run fuel { manner with tildes } true word
        return if quoted && items.isEmpty then [.run "" true false] else divisible items
      | .assign, true =>
        if Name.isValid name.toList then
          let text := Item.text " " (← expandParts run fuel { tildes } true word)
          assign name text false
          return [.run text quoted true]
        else fail (name ++ ": bad variable name")
      | .fail, true =>
        let text := Item.text " " (← expandParts run fuel { tildes } true word)
        let report :=
          if word.isEmpty then "parameter not set" ++ (if orEmpty then " or null" else "") else text
        fail (name ++ ": " ++ report)
      | _, false => plainValue name quoted manner.divides
    | _ => fail "Bad substitution"
termination_by structural fuel => fuel

def expandReference (run : Runner) :
    Nat → Manner → String → Option Word → Bool → Change → Bool → ScriptM (List Item)
  | 0, _, _, _, _, _, _ => fail "word too long"
  | fuel + 1, manner, name, subscript, indirect, change, quoted => do
    let choice : Choice ← match subscript with
      | none => pure .itself
      | some [.text "@" _] => pure (.all false)
      | some [.text "*" _] => pure (.all true)
      | some word => pure (.some (Item.text " " (← expandParts run fuel {} false word)))
    let written : Reference := { name, choice }
    let show_ (amount : Amount) : ScriptM (List Item) := itemsOf quoted manner.divides amount
    let testFor (folds : Bool) (pattern : Word) : ScriptM Pattern.Test := do
      let glyphs := Item.glyphs (← expandParts run fuel { tildes := .atStart } true pattern)
      let switches := (← get).switches
      return Pattern.testOf (switches.contains "extglob") (folds && switches.contains "nocasematch") glyphs
    let named ← namedBy? written
    match indirect, change, named with
    | _, .bad text, _ => drop (text ++ ": bad substitution")
    | _, .names, _ => show_ (.many (← namesFrom name) (choice = .all true))
    | _, .keys, _ => show_ (.many ((← seen name).pairs.map (·.1)) (choice = .all true))
    | true, .none, some other => show_ (.one other)
    | _, _, _ =>
      let reference ← if indirect then followReference written else pure written
      match change with
      | .none => show_ (← requiredAmount reference)
      | .length => show_ (.one (toString (← requiredAmount reference).size))
      | .trim atEnd longest pattern =>
        let amount ← requiredAmount reference
        let test ← testFor false pattern
        show_ (amount.map (Pattern.trimTested atEnd longest test))
      | .recase casing all pattern =>
        let amount ← requiredAmount reference
        let test ← if pattern.isEmpty then pure none else some <$> testFor false pattern
        show_ (amount.map (Changed.recased casing all test))
      | .replace which pattern replacement =>
        let amount ← requiredAmount reference
        let test ← testFor true pattern
        let filling := Changed.fillingOf (Item.glyphs (← expandParts run fuel { tildes := .atStart } true replacement))
        if pattern.isEmpty && (which = .first || which = .all) then show_ amount
        else show_ (amount.map (Changed.replaced which test filling))
      | .transform letter => show_ (← transform reference letter (← requiredAmount reference))
      | .slice start length =>
        let amount ← requiredAmount reference
        let first ← onBehalf (some name) (formula (Item.text " " (← expandParts run fuel {} false start)))
        let count ← match length with
          | none => pure none
          | some word =>
            some <$> onBehalf (some name) (formula (Item.text " " (← expandParts run fuel {} false word)))
        match amount with
        | .nothing => show_ .nothing
        | .one text =>
          match Changed.part first.toInt (count.map Int64.toInt) text.toList with
          | .ok chars => show_ (.one (String.ofList chars))
          | .error length => drop (toString length ++ ": substring expression < 0")
        | .many texts joins => show_ (.many (← partOf reference first count texts) joins)
      | .fallback kind orEmpty word =>
        let amount ← amountOf reference
        let tildes : Tildes := if quoted then .nowhere else .atStart
        match kind, amount.isMissing orEmpty with
        | .alternative, true => return if quoted then [.run "" true false] else []
        | .alternative, false | .default, true =>
          let items ← expandParts run fuel { manner with tildes } true word
          return if quoted && items.isEmpty then [.run "" true false] else divisible items
        | .assign, true =>
          let text := Item.text " " (← expandParts run fuel { tildes } true word)
          match reference.choice with
          | .itself =>
            if Name.isValid reference.name.toList then setValue reference.name text false false
            else drop ("$" ++ reference.name ++ ": cannot assign in this way")
          | .some subscript => setElementAt reference.name subscript text false
          | .all _ => drop (reference.text ++ ": bad array subscript")
          return [.run text quoted true]
        | .fail, true =>
          let text := Item.text " " (← expandParts run fuel { tildes } true word)
          let report :=
            if word.isEmpty then "parameter " ++ (if orEmpty then "null or " else "") ++ "not set" else text
          endWith (reference.text ++ ": " ++ report)
        | _, false => show_ amount
      | _ => show_ .nothing
termination_by structural fuel => fuel

end

def expand (run : Runner) (manner : Manner) (word : Word) : ScriptM (List Item) :=
  expandParts run patience manner (manner.tildes ≠ .nowhere) word

/-- The text of a word that is not divided. -/
def expandText (run : Runner) (tildes : Tildes) (word : Word) : ScriptM String := do
  return Item.text " " (← expand run { tildes } word)

def expandPattern (run : Runner) (word : Word) : ScriptM Pattern.Test := do
  let glyphs := Item.glyphs (← expand run { tildes := .atStart } word)
  let state ← get
  let hasLists := state.dialect = .extended && state.switches.contains "extglob"
  return Pattern.testOf hasLists (state.switches.contains "nocasematch") glyphs

end Shell.Machine.Script.ScriptM
