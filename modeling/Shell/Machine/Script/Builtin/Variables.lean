import Shell.Machine.Script.Builtin.Options
import Shell.Machine.Script.Fields

/-! # Builtins for variables

The builtins that set, list and read variables and parameters.
-/

namespace Shell.Machine.Script.ScriptM

/-- Divides an assignment into the name and the value. -/
def splitAssignment (text : String) : String × Option String :=
  let (name, value) := text.toList.span (· ≠ '=')
  (String.ofList name,
    match value with
    | _ :: value => some (String.ofList value)
    | [] => none)

/-- Refuses what is no name. -/
def requireName (name : String) : ScriptM Unit := do
  if !Name.isValid name.toList then fail (name ++ ": bad variable name")

/-- Gives variables properties, and values where they are given. -/
def markVariables (exported readOnly : Bool) : List String → ScriptM Unit
  | [] => return
  | text :: rest => do
    let (name, value) := splitAssignment text
    requireName name
    match value with
    | some value => assign name value exported
    | none => pure ()
    let old := ((← get).binding? name).getD { name, value := none }
    modify fun state =>
      state.putVariable
        { old with exported := old.exported || exported, readOnly := old.readOnly || readOnly }
    markVariables exported readOnly rest

/-- Marks variables for export or as read only, or lists those that are. -/
def mark (exported readOnly : Bool) (arguments : List String) : ScriptM Nat := do
  let (options, names) ← readOptions "p" arguments
  if !options.isEmpty || names.isEmpty then
    let isListed (entry : Variable) : Bool :=
      (exported && entry.exported) || (readOnly && entry.readOnly)
    let word := if exported then "export" else "readonly"
    let listed := sortByName ((← get).bindings.filter isListed)
    emit (String.join (listed.map (showVariable word)))
  else
    markVariables exported readOnly names
    return 0

/-- Makes variables local to the function that runs. -/
def localVariables : List String → ScriptM Nat
  | [] => return 0
  | text :: rest => do
    if (← get).functionDepth = 0 then fail "not in a function"
    if text = "-" then localVariables rest
    else
      let (name, value) := splitAssignment text
      requireName name
      makeLocal name
      match value with
      | some value => assign name value false
      | none =>
        if ((← get).binding? name).isNone then
          modify fun state => state.putVariable { name, value := none }
      localVariables rest

/-- Takes away variables or functions. -/
def unsetAll (functions : Bool) : List String → ScriptM Nat
  | [] => return 0
  | name :: rest => do
    if functions then
      modify fun state =>
        { state with functions := state.functions.filter fun entry => entry.1 ≠ name }
    else
      requireName name
      unset name
    unsetAll functions rest

/-- Sets options and parameters, or lists the variables. -/
def set_ (arguments : List String) : ScriptM Nat := do
  if arguments.isEmpty then
    let listed := sortByName ((← get).bindings.filter fun entry => entry.value.isSome)
    emit (String.join (listed.map (showVariable "")))
  else
    let result ← setOptions false (arguments.length + 1) arguments false
    if result.replaces || !result.rest.isEmpty then
      modify fun state =>
        { state with parameters := result.rest, optionIndex := 1, optionOffset := 0 }
    return 0

/-- Drops parameters. -/
def shift (arguments : List String) : ScriptM Nat := do
  let count ← match arguments with
    | [] => pure 1
    | text :: _ => number text
  let parameters := (← get).parameters
  if parameters.length < count then fail "can't shift that many"
  modify fun state =>
    { state with parameters := parameters.drop count, optionIndex := 1, optionOffset := 0 }
  return 0

/-! ## Options of the script's own arguments -/

/-- Sets a variable that counts, without the effects that setting it has otherwise. -/
def setCounter (name : String) (value : Nat) : ScriptM Unit :=
  modify fun state =>
    let old := (state.binding? name).getD { name, value := none }
    state.putVariable { old with value := some (toString value) }

/-- What has been found among the arguments. -/
structure FoundOption where
  letter : Char := '?'
  value : Option String := none
  /-- The characters of the current argument that are left. -/
  rest : List Char := []
  next : Nat
  done : Bool := false
  report : String := ""

/-- Looks at the next letter of an argument. `next` is the number of the argument after it. -/
def findOption (known : String) (arguments : List String) (letter : Char) (rest : List Char)
    (next : Nat) : FoundOption :=
  let silent := known.startsWith ":"
  match takesValue? letter known.toList with
  | none =>
    if silent then { value := some (String.singleton letter), rest, next }
    else { rest, next, report := "Illegal option -" ++ String.singleton letter ++ "\n" }
  | some false => { letter, value := some "", rest, next }
  | some true =>
    if !rest.isEmpty then { letter, value := some (String.ofList rest), next }
    else
      match arguments[next - 1]? with
      | some value => { letter, value := some value, next := next + 1 }
      | none =>
        if silent then { letter := ':', value := some (String.singleton letter), next }
        else { next, report := "No arg for -" ++ String.singleton letter ++ " option\n" }

/-- Looks for the next option among arguments, from a number and an offset in the argument before it. -/
def nextOption (known : String) (arguments : List String) (next offset : Nat) : FoundOption :=
  let current := if offset = 0 || next ≤ 1 then []
    else ((arguments[next - 2]?).getD "").toList.drop offset
  match current with
  | letter :: rest => findOption known arguments letter rest next
  | [] =>
    match ((arguments[next - 1]?).getD "").toList with
    | ['-', '-'] => { next := next + 1, done := true }
    | '-' :: letter :: rest => findOption known arguments letter rest (next + 1)
    | _ => { next, done := true }

/-- Finds the next option of the script. -/
def getopts (arguments : List String) : ScriptM Nat := do
  match arguments with
  | known :: name :: given => do
    let state ← get
    let list := if given.isEmpty then state.parameters else given
    let found := nextOption known list state.optionIndex state.optionOffset
    if !found.done then
      discard (write 2 found.report)
      match found.value with
      | some value => assign "OPTARG" value false
      | none => unset "OPTARG"
    setCounter "OPTIND" found.next
    let length := ((list[found.next - 2]?).getD "").length
    let offset := if found.rest.isEmpty || found.done then 0 else length - found.rest.length
    modify fun state => { state with optionIndex := found.next, optionOffset := offset }
    requireName name
    assign name (String.singleton found.letter) false
    return if found.done then 1 else 0
  | _ => fail "Usage: getopts optstring var [arg...]"

/-! ## Reading a line -/

/-- A line of input, in which a backslash may have taken the meaning from a character, and whether it was ended. -/
def readGlyphs (raw : Bool) : Nat → List Glyph → ScriptM (List Glyph × Bool)
  | 0, sofar => return (sofar, false)
  | fuel + 1, sofar => do
    match ← ask (.readUpTo 0 10) with
    | .error .interrupted =>
      if (← ask .pendingSignal).isSome then return (sofar, false) else readGlyphs raw fuel sofar
    | .error _ => return (sofar, false)
    | .ok bytes =>
      if bytes.isEmpty then return (sofar, false)
      let (more, sofar) := take (Octets.ofBytes bytes).toList sofar
      if more then readGlyphs raw fuel sofar else return (sofar, true)
where
  /-- Adds characters. True if the line goes on. A quoted zero stands for a backslash that waits. -/
  take : List Char → List Glyph → Bool × List Glyph
    | [], sofar => (true, sofar)
    | c :: rest, sofar =>
      let waits := sofar.head?.any fun glyph => glyph.quoted && glyph.char = '\x00'
      if c = '\x00' then take rest sofar
      else if waits then
        let sofar := sofar.drop 1
        if c = '\n' then take rest sofar else take rest (⟨c, true⟩ :: sofar)
      else if c = '\\' && !raw then take rest (⟨'\x00', true⟩ :: sofar)
      else if c = '\n' then (false, sofar)
      else take rest (⟨c, false⟩ :: sofar)

/-- True for a character that separates fields. -/
def isSeparator (separators : String) (glyph : Glyph) : Bool :=
  !glyph.quoted && separators.contains glyph.char

def isBlankSeparator (separators : String) (glyph : Glyph) : Bool :=
  isSeparator separators glyph && Division.isBlank glyph.char

/-- What comes after the separators at the end of a field: blanks, and one other among them. -/
def skipSeparator (separators : String) (glyphs : List Glyph) : List Glyph :=
  match glyphs.dropWhile (isBlankSeparator separators) with
  | glyph :: rest =>
    if isSeparator separators glyph then rest.dropWhile (isBlankSeparator separators)
    else glyph :: rest
  | [] => []

/-- Divides a line into so many fields, the last of which takes what is left. -/
def divideLine (separators : String) : Nat → List Glyph → List (List Glyph)
  | 0, _ => []
  | 1, glyphs =>
    let (field, rest) := glyphs.span fun glyph => !isSeparator separators glyph
    if (skipSeparator separators rest).isEmpty then [field]
    else [(glyphs.reverse.dropWhile (isBlankSeparator separators)).reverse]
  | count + 1, glyphs =>
    let (field, rest) := glyphs.span fun glyph => !isSeparator separators glyph
    field :: divideLine separators count (skipSeparator separators rest)

/-- Reads a line into variables. -/
def read (arguments : List String) : ScriptM Nat := do
  let (options, names) ← readOptions "p:r" arguments
  if names.isEmpty then fail "arg count"
  let raw := options.any fun option => option.1 = 'r'
  let (glyphs, ended) ← readGlyphs raw patience []
  let glyphs := glyphs.reverse.filter fun glyph => glyph.char ≠ '\x00'
  let separators := (← get).separators
  let glyphs := glyphs.dropWhile (isBlankSeparator separators)
  let fields := divideLine separators names.length glyphs
  for (name, field) in names.zip fields do
    requireName name
    assign name (Glyph.text field) false
  return if ended then 0 else 1

/-! ## Other names -/

/-- Shows or sets aliases. -/
def keepAliases (arguments : List String) : ScriptM Nat := do
  let line (entry : String × String) : String := entry.1 ++ "=" ++ quoteText entry.2 ++ "\n"
  if arguments.isEmpty then emit (String.join ((← get).aliases.map line))
  else keepEach line 0 arguments
where
  /-- Shows or sets one alias after another. -/
  keepEach (line : String × String → String) (status : Nat) : List String → ScriptM Nat
    | [] => return status
    | text :: rest => do
      match splitAssignment text with
      | (name, some value) =>
        modify fun state =>
          { state with
            aliases := (name, value) :: state.aliases.filter fun entry => entry.1 ≠ name }
        keepEach line status rest
      | (name, none) =>
        match (← get).aliases.lookup name with
        | some value =>
          discard (write 1 (line (name, value)))
          keepEach line status rest
        | none =>
          discard (write 2 ("alias: " ++ name ++ " not found\n"))
          keepEach line 1 rest

/-- Takes away aliases. -/
def dropAliases (arguments : List String) : ScriptM Nat := do
  let (options, names) ← readOptions "a" arguments
  if !options.isEmpty then
    modify fun state => { state with aliases := [] }
    return 0
  let mut status := 0
  for name in names do
    if ((← get).aliases.lookup name).isNone then
      discard (write 2 ("unalias: " ++ name ++ " not found\n"))
      status := 1
    modify fun state =>
      { state with aliases := state.aliases.filter fun entry => entry.1 ≠ name }
  return status

end Shell.Machine.Script.ScriptM

/-! ## Declarations

The builtins of the extended dialect that say what is special about variables, make them local, list them and take them
away.
-/

namespace Shell.Machine.Script.ScriptM

/-- What a declaration asks for: letters for what is to be set and for what is to be taken away. -/
structure Wishes where
  sets : List Char := []
  clears : List Char := []
deriving Repr, DecidableEq, Inhabited

namespace Wishes

/-- True when something is to be set. -/
def wants (wishes : Wishes) (letter : Char) : Bool :=
  wishes.sets.contains letter

/-- Whether something is special about a variable after a declaration. -/
def settle (wishes : Wishes) (letter : Char) (before : Bool) : Bool :=
  (before || wishes.sets.contains letter) && !wishes.clears.contains letter

end Wishes

/-- An argument of a declaration, with the number that it has. -/
abbrev Declared := Nat × String

/-- Reads the options of a declaration. `known` holds their letters, and `plus` those that can be taken away. -/
def readWishes (known plus : String) : Wishes → List Declared → ScriptM (Wishes × List Declared)
  | wishes, [] => return (wishes, [])
  | wishes, argument :: rest => do
    let check (letters : List Char) (allowed : String) (sign : String) : ScriptM Unit := do
      match letters.find? fun letter => !allowed.contains letter with
      | none => return
      | some letter =>
        warn (sign ++ String.singleton letter ++ ": invalid option")
        advise
    match argument.2.toList with
    | ['-', '-'] => return (wishes, rest)
    | '-' :: letter :: letters =>
      check (letter :: letters) known "-"
      readWishes known plus { wishes with sets := wishes.sets ++ letter :: letters } rest
    | '+' :: letter :: letters =>
      if plus.isEmpty then return (wishes, argument :: rest)
      check (letter :: letters) plus "+"
      readWishes known plus { wishes with clears := wishes.clears ++ letter :: letters } rest
    | _ => return (wishes, argument :: rest)

/-- An assignment, or a name alone. -/
structure Assignable where
  name : String
  subscript : Option String := none
  appends : Bool := false
  value : Option String := none
deriving Repr, DecidableEq, Inhabited

/-- The target that a text names. -/
def Assignable.ofText (text : String) : Assignable :=
  let chars := text.toList
  let name := chars.takeWhile Name.isPart
  let (subscript, rest) : Option String × List Char := match chars.drop name.length with
    | '[' :: inner =>
      match Formula.bracketLength? 0 inner with
      | some length => (some (String.ofList (inner.take length)), inner.drop (length + 1))
      | none => (none, chars.drop name.length)
    | rest => (none, rest)
  match rest with
  | [] => { name := String.ofList name, subscript }
  | '=' :: value => { name := String.ofList name, subscript, value := some (String.ofList value) }
  | '+' :: '=' :: value =>
    { name := String.ofList name, subscript, appends := true, value := some (String.ofList value) }
  | _ => { name := text }

/-- Refuses what is no name. -/
def refuseName (text : String) : ScriptM Nat := do
  warn ("\x60" ++ text ++ "': not a valid identifier")
  return 1

/-- A variable as a declaration makes it, before it is given a value. -/
def prepared (wishes : Wishes) (entry : Variable) : Variable :=
  let casing :=
    if wishes.wants 'u' then some .upper
    else if wishes.wants 'l' then some .lower
    else if wishes.wants 'c' then some .swapped
    else if wishes.clears.any fun letter => letter = 'u' || letter = 'l' || letter = 'c' then none
    else entry.casing
  let entry := { entry with
    isNumber := wishes.settle 'i' entry.isNumber, isReference := wishes.settle 'n' entry.isReference, casing }
  if wishes.wants 'A' && entry.entries.isNone then
    { entry with entries := some [], isSet := false }
  else if wishes.wants 'a' && !entry.isArray then
    { entry with elements := some ((entry.value.map fun value => (0, value)).toList), isSet := entry.value.isSome }
  else entry

/-- Why a variable cannot be what a declaration asks for. -/
def conversionFault? (wishes : Wishes) (entry : Variable) : Option String :=
  if wishes.wants 'a' && entry.entries.isSome then some "cannot convert associative to indexed array"
  else if wishes.wants 'A' && entry.elements.isSome then some "cannot convert indexed to associative array"
  else if wishes.clears.contains 'a' && entry.elements.isSome then some "cannot destroy array variables in this way"
  else if wishes.clears.contains 'A' && entry.entries.isSome then some "cannot destroy array variables in this way"
  else none

/-- Makes a variable local to the function that runs, without a value unless it was local before. -/
def beginLocal (name : String) : ScriptM Unit := do
  let state ← get
  let isKnown := (state.locals.headD []).any fun entry => entry.1 = name
  makeLocal name
  if !isKnown then
    let exported := (state.binding? name).any Variable.exported
    modify fun state => state.putVariable { name, value := none, exported }

/-- Declares what an argument names. The status says whether that was possible. -/
def declareOne (wishes : Wishes) (isLocal : Bool) (argument : Declared) : ScriptM Nat := do
  let target := Assignable.ofText argument.2
  if !Name.isValid target.name.toList then return ← refuseName argument.2
  let state ← get
  let name := if wishes.wants 'n' || isLocal then target.name else state.meant State.maxReferences target.name
  let outer := (state.binding? name).getD { name, value := none }
  let elements := state.given.lookup argument.1
  if outer.readOnly && (isLocal || target.value.isSome || wishes.clears.contains 'r') then
    warn (name ++ ": readonly variable")
    return 1
  if isLocal then beginLocal name
  let entry := ((← get).binding? name).getD { name, value := none }
  match conversionFault? wishes entry with
  | some fault =>
    warn (name ++ ": " ++ fault)
    return 1
  | none =>
    let wishes := if target.subscript.isSome && !entry.isArray && !wishes.wants 'A' then
        { wishes with sets := 'a' :: wishes.sets } else wishes
    modify fun state => state.putVariable (prepared wishes entry)
    match elements, target.value with
    | some elements, _ => setElements name elements target.appends
    | none, some value =>
      match target.subscript with
      | some subscript => setElementAt name subscript value target.appends
      | none =>
        if wishes.wants 'n' then
          modify fun state =>
            let entry := (state.binding? name).getD { name, value := none }
            state.putVariable { entry with value := some value }
        else setValue name value target.appends false
    | none, none => pure ()
    modify fun state =>
      let entry := (state.binding? name).getD { name, value := none }
      state.putVariable {
        entry with
        readOnly := wishes.settle 'r' entry.readOnly, exported := wishes.settle 'x' entry.exported }
    return 0

/-- Declares what arguments name, one after another. -/
def declareAll (wishes : Wishes) (isLocal : Bool) : Nat → List Declared → ScriptM Nat
  | status, [] => return status
  | status, argument :: rest => do
    let here ← declareOne wishes isLocal argument
    declareAll wishes isLocal (max status here) rest

/-- True when what a list asks for is special about a variable. -/
def isListed (wishes : Wishes) (entry : Variable) : Bool :=
  let has (letter : Char) (is : Bool) : Bool := !wishes.wants letter || is
  has 'a' entry.elements.isSome && has 'A' entry.entries.isSome && has 'i' entry.isNumber && has 'r' entry.readOnly &&
    has 'x' entry.exported && has 'n' entry.isReference && has 'l' (entry.casing = some .lower) &&
    has 'u' (entry.casing = some .upper)

def listDeclared (wishes : Wishes) : ScriptM Nat := do
  let entries := sortByName ((← get).bindings.filter (isListed wishes))
  emit (String.join (entries.map fun entry => Quoting.declaration entry ++ "\n"))

/-- Lists the variables that names name. -/
def showDeclared : Nat → List Declared → ScriptM Nat
  | status, [] => return status
  | status, argument :: rest => do
    let state ← get
    let found := (state.binding? argument.2).orElse fun _ => state.visible? argument.2
    match found with
    | some entry =>
      discard (emit (Quoting.declaration entry ++ "\n"))
      showDeclared status rest
    | none =>
      warn (argument.2 ++ ": not found")
      showDeclared 1 rest

/-- Lists functions by their names, which have to be known. -/
def showFunctionNames (long : Bool) : Nat → List String → ScriptM Nat
  | status, [] => return status
  | status, name :: rest => do
    if ((← get).functions.lookup name).isSome then
      discard (emit ((if long then "declare -f " else "") ++ name ++ "\n"))
      showFunctionNames long status rest
    else showFunctionNames long 1 rest

def counted (arguments : List String) : List Declared :=
  (List.range arguments.length).zip arguments

/-- Says what is special about variables. -/
def declare (arguments : List String) : ScriptM Nat := do
  let (wishes, rest) ← readWishes "aAfFgiIlnprtuxc" "aAgilnprtuxc" {} (counted arguments)
  let state ← get
  if wishes.wants 'F' || wishes.wants 'f' then
    let names := (state.functions.map (·.1)).mergeSort fun left right => left ≤ right
    if rest.isEmpty then showFunctionNames true 0 names else showFunctionNames false 0 (rest.map (·.2))
  else if wishes.wants 'p' || (rest.isEmpty && (!wishes.sets.isEmpty || !wishes.clears.isEmpty)) then
    if rest.isEmpty then listDeclared wishes else showDeclared 0 rest
  else if rest.isEmpty then
    let entries := sortByName (state.bindings.filter fun entry => entry.value.isSome || entry.isSet)
    emit (String.join (entries.map fun entry => Quoting.setting entry ++ "\n"))
  else declareAll wishes (0 < state.functionDepth && !wishes.wants 'g') 0 rest

/-- Makes variables local to the function that runs. -/
def declareLocal (arguments : List String) : ScriptM Nat := do
  let state ← get
  if state.functionDepth = 0 then
    warn "can only be used in a function"
    return 1
  let (wishes, rest) ← readWishes "aAfFgiIlnprtuxc" "aAgilnprtuxc" {} (counted arguments)
  if rest.isEmpty then
    let names := (state.locals.headD []).map (·.1)
    let entries := sortByName (state.bindings.filter fun entry => names.contains entry.name)
    emit (String.join (entries.map fun entry => Quoting.declaration entry ++ "\n"))
  else declareAll wishes true 0 (rest.filter fun argument => argument.2 ≠ "-")

/-- Marks variables for export, or takes that mark away. -/
def declareExported (arguments : List String) : ScriptM Nat := do
  let (wishes, rest) ← readWishes "fnp" "" {} (counted arguments)
  if rest.isEmpty || (wishes.wants 'p' && rest.isEmpty) then listDeclared { sets := ['x'] }
  else if wishes.wants 'f' then
    let functions := (← get).functions
    match rest.find? fun argument => (functions.lookup argument.2).isNone with
    | some argument =>
      warn (argument.2 ++ ": not a function")
      return 1
    | none => return 0
  else if wishes.wants 'n' then declareAll { clears := ['x'] } false 0 rest
  else declareAll { sets := ['x'] } false 0 rest

/-- Marks variables as read only. -/
def declareReadOnly (arguments : List String) : ScriptM Nat := do
  let (wishes, rest) ← readWishes "aAfp" "" {} (counted arguments)
  let kinds := wishes.sets.filter fun letter => letter = 'a' || letter = 'A'
  if rest.isEmpty then listDeclared { sets := 'r' :: kinds }
  else if wishes.wants 'f' then return 0
  else declareAll { sets := 'r' :: kinds } false 0 rest

/-! ## Taking away -/

/-- Takes away an element of an array. -/
def unsetElement (name subscript : String) : ScriptM Nat := do
  let entry ← seen name
  if (subscript = "@" || subscript = "*") && entry.entries.isNone then
    modify fun state => state.eraseVariable (state.meant State.maxReferences name)
    return 0
  match ← key? name subscript with
  | none =>
    warn ("[" ++ subscript ++ "]: bad array subscript")
    return 1
  | some (.text key) =>
    modify fun state =>
      state.putVariable (entry.withEntries ((entry.entries.getD []).filter fun item => item.1 ≠ key))
    return 0
  | some (.number index) =>
    match entry.elements with
    | some elements =>
      modify fun state => state.putVariable (entry.withElements (elements.filter fun item => item.1 ≠ index))
      return 0
    | none =>
      if index = 0 && entry.value.isSome then
        modify fun state => state.eraseVariable name
        return 0
      else
        warn (name ++ ": not an array variable")
        return 1

/-- Takes away variables or functions, one after another. -/
def unsetNames (options : List Char) : Nat → List String → ScriptM Nat
  | status, [] => return status
  | status, text :: rest => do
    let target := Assignable.ofText text
    let state ← get
    let dropFunction (name : String) : ScriptM Unit :=
      modify fun state => { state with functions := state.functions.filter fun entry => entry.1 ≠ name }
    if options.contains 'f' then
      dropFunction text
      unsetNames options status rest
    else if !Name.isValid target.name.toList then
      if options.contains 'v' then
        let here ← refuseName text
        unsetNames options (max status here) rest
      else
        dropFunction text
        unsetNames options status rest
    else
      let name := if options.contains 'n' then target.name else state.meant State.maxReferences target.name
      match state.binding? name, target.subscript with
      | some { readOnly := true, .. }, _ =>
        warn (name ++ ": cannot unset: readonly variable")
        unsetNames options 1 rest
      | _, some subscript =>
        let here ← unsetElement name subscript
        unsetNames options (max status here) rest
      | some _, none =>
        modify fun state => state.eraseVariable name
        unsetNames options status rest
      | none, none =>
        if !options.contains 'v' then dropFunction name
        unsetNames options status rest

/-- Takes away variables or functions. -/
def unsetDeclared (arguments : List String) : ScriptM Nat := do
  let (options, names) ← readOptions "fvn" arguments
  unsetNames (options.map (·.1)) 0 names

end Shell.Machine.Script.ScriptM
