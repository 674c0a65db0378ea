import Shell.Machine.Tools.Running

/-! # Programs and their environments

`env` runs a program in a changed environment, `printenv` tells about the own one. An argument of `env` may hold
several, with quotes and backslashes.
-/

namespace Shell.Machine.ToolM

/-- The name of a variable that an entry of the environment sets. -/
def nameOf (entry : String) : String :=
  (entry.takeWhile (· ≠ '=')).toString

/-- Sets variables of an environment, each in place if it is there. -/
def setVariables (environment entries : List String) : List String :=
  entries.foldl
    (fun environment entry =>
      if environment.any fun other => nameOf other = nameOf entry then
        environment.map fun other => if nameOf other = nameOf entry then entry else other
      else environment ++ [entry])
    environment

/-! ## Several arguments in one -/

/-- The words of an argument: those that are done, the one in the making if there is one, and open quotes. -/
structure WordList where
  words : List String := []
  word : Option (List Char) := none
  double : Bool := false
  single : Bool := false

namespace WordList

/-- Adds characters to the argument in the making. -/
def add (chars : List Char) (list : WordList) : WordList :=
  { list with word := some (list.word.getD [] ++ chars) }

/-- Ends the argument in the making. -/
def separate (list : WordList) : WordList :=
  match list.word with
  | some word => { list with words := list.words ++ [String.ofList word], word := none }
  | none => list

/-- All arguments. -/
def all (list : WordList) : List String :=
  list.separate.words

/-- True for what separates arguments. -/
def isBlank (c : Char) : Bool :=
  " \t\n\x0b\x0c\r".contains c

/-- The name between braces after a dollar sign, and what comes after it. -/
def nameAfter? : List Char → Option (String × List Char)
  | '\x7b' :: rest =>
    let name := rest.takeWhile fun c => c.isAlphanum || c = '_'
    match rest.drop name.length with
    | '\x7d' :: after =>
      if name.head?.any fun c => !c.isDigit then some (String.ofList name, after) else none
    | _ => none
  | _ => none

/-- Divides characters into words, given the values of variables. -/
def read (value? : String → Option String) : Nat → WordList → List Char → Except String WordList
  | 0, list, _ => .ok list
  | _, list, [] =>
    if list.double || list.single then .error "no terminating quote in -S string" else .ok list
  | fuel + 1, list, c :: rest =>
    let plain := read value? fuel (list.add [c]) rest
    if c = '\'' then
      if list.double then plain
      else read value? fuel { list.add [] with single := !list.single } rest
    else if c = '"' then
      if list.single then plain
      else read value? fuel { list.add [] with double := !list.double } rest
    else if isBlank c then
      if list.single || list.double then plain else read value? fuel list.separate rest
    else if c = '#' then
      if list.word.isSome then plain else .ok list
    else if c = '\\' then
      if list.single && !(rest.head?.any fun c => c = '\\' || c = '\'') then plain
      else
        match rest with
        | [] => .error "invalid backslash at end of string in -S"
        | '_' :: rest =>
          read value? fuel (if list.double then list.add [' '] else list.separate) rest
        | 'c' :: _ =>
          if list.double then .error "'\\c' must not appear in double-quoted -S string" else .ok list
        | mark :: rest =>
          match [('"', '"'), ('#', '#'), ('$', '$'), ('\'', '\''), ('\\', '\\'), ('f', '\x0c'), ('n', '\n'),
              ('r', '\r'), ('t', '\t'), ('v', '\x0b')].lookup mark with
          | some c => read value? fuel (list.add [c]) rest
          | none => .error ("invalid sequence '\\" ++ String.singleton mark ++ "' in -S")
    else if c = '$' && !list.single then
      match nameAfter? rest with
      | none =>
        .error ("only $\x7bVARNAME\x7d expansion is supported, error at: " ++ String.ofList (c :: rest))
      | some (name, after) =>
        match value? name with
        | some value => read value? fuel (list.add value.toList) after
        | none => read value? fuel list after
    else plain

end WordList

/-- Shows how an argument was divided. -/
def explainWords (text : String) (words : List String) : ToolM Unit := do
  let lines := words.zipIdx.map fun (word, place) =>
    (if place = 0 then " into:    " else "     &    ") ++ Quote.text word ++ "\n"
  discard (ask (.write 2 (Octets.toBytes ("split -S:  " ++ Quote.text text ++ "\n" ++ String.join lines))))

/-- The value of the option that divides an argument, if the letters of an argument come to it: the
    letters before, and the value in the same argument. -/
def dividing? : List Char → List Char → Option (List Char × List Char)
  | _, [] => none
  | before, c :: rest =>
    if c = 'S' then some (before.reverse, rest)
    else if c = 'u' || c = 'C' then none
    else dividing? (c :: before) rest

/-- Replaces arguments that hold several, as far as options go. -/
def divideArguments (value? : String → Option String) : Nat → Bool → List String → ToolM (List String)
  | 0, _, arguments => return arguments
  | _, _, [] => return []
  | fuel + 1, shown, first :: rest => do
    let divide (text : String) (rest : List String) : ToolM (List String) := do
      match WordList.read value? (text.length + 1) {} text.toList with
      | .error wrong => fail 125 wrong
      | .ok list =>
        if shown || (first.toList.takeWhile (· ≠ 'S')).contains 'v' then explainWords text list.all
        divideArguments value? fuel shown (list.all ++ rest)
    match first.toList with
    | ['-', '-'] => return first :: rest
    | '-' :: '-' :: word =>
      let (word, after) := word.span (· ≠ '=')
      if word.length > 0 && "split-string".startsWith (String.ofList word) then
        match after, rest with
        | _ :: text, _ => divide (String.ofList text) rest
        | [], text :: rest => divide text rest
        | [], [] => return first :: rest
      else if after.isEmpty && ["unset", "chdir"].contains (String.ofList word) then
        return first :: rest.take 1 ++ (← divideArguments value? fuel shown (rest.drop 1))
      else return first :: (← divideArguments value? fuel (shown || String.ofList word = "debug") rest)
    | '-' :: letters@(_ :: _) =>
      match dividing? [] letters, rest with
      | some (before, []), text :: rest =>
        let words ← divide text rest
        return if before.isEmpty then words else String.ofList ('-' :: before) :: words
      | some (_, []), [] => return [first]
      | some (before, text), _ =>
        let words ← divide (String.ofList text) rest
        return if before.isEmpty then words else String.ofList ('-' :: before) :: words
      | none, _ =>
        let takesNext := letters.getLast?.any (fun c => c = 'u' || c = 'C') &&
          (letters.dropWhile fun c => c ≠ 'u' && c ≠ 'C').length = 1
        let shown := shown || letters.contains 'v'
        if takesNext then return first :: rest.take 1 ++ (← divideArguments value? fuel shown (rest.drop 1))
        else return first :: (← divideArguments value? fuel shown rest)
    | _ => return first :: rest

/-! ## The programs -/

/-- Shows something that is done, if that is asked for. -/
def explainStep (arguments : Arguments) (text : String) : ToolM Unit := do
  if arguments.has "v" then discard (ask (.write 2 (Octets.toBytes (text ++ "\n"))))

/-- Runs a program in a changed environment, or lists that. -/
def env : ToolM Unit := do
  let own := (← get).environment
  let value? (name : String) : Option String :=
    (own.find? fun entry => entry.startsWith (name ++ "=")).map fun entry => (entry.drop (name.length + 1)).toString
  let given := (← get).arguments
  let divided ← divideArguments value? (given.foldl (fun sum text => sum + text.length + 1) 1) false given
  modify fun tool => { tool with arguments := divided }
  let arguments ← readArguments 125 true
    ["i,ignore-environment", "0,null", "u,unset,:", "C,chdir,:", "v,debug", "S,split-string,:", ",block-signal,?",
      ",default-signal,?", ",ignore-signal,?", ",list-signal-handling"]
  let isBare := arguments.operands.head? = some "-"
  let operands := if isBare then arguments.operands.drop 1 else arguments.operands
  let (entries, command) := operands.span fun text => text.contains '='
  let isCleared := isBare || arguments.has "i"
  if isCleared then explainStep arguments "cleaning environ"
  let base := if isCleared then [] else own
  let removed := if isCleared then [] else arguments.values "u"
  for name in removed do
    if name.isEmpty || name.contains '=' then
      fail 125 ("cannot unset " ++ Quote.text name ++ ": Invalid argument")
    explainStep arguments ("unset:    " ++ name)
  for entry in entries do
    explainStep arguments ("setenv:   " ++ entry)
  let environment := setVariables (base.filter fun entry => !removed.contains (nameOf entry)) entries
  if command.isEmpty then
    if arguments.has "C" then misuse 125 "must specify command with --chdir (-C)"
    let last := if arguments.has "0" then "\x00" else "\n"
    print (String.join (environment.map fun entry => entry ++ last))
  else
    if arguments.has "0" then misuse 125 "cannot specify --null (-0) with command"
    match arguments.value? "C" with
    | none => pure ()
    | some directory =>
      explainStep arguments ("chdir:    " ++ Quote.always directory)
      match ← ask (.changeDirectory directory) with
      | .ok _ => pure ()
      | .error error =>
        fail 125 ("cannot change directory to " ++ Quote.always directory ++ ": " ++ error.text)
    let name := command.headD ""
    explainStep arguments ("executing: " ++ name)
    for (text, place) in command.zipIdx do
      explainStep arguments ("   arg[" ++ toString place ++ "]= " ++ Quote.text text)
    let error ← become command environment
    flush
    report (Quote.text name ++ ": " ++ error.text)
    if error = .missing && name.toList.any WordList.isBlank then
      report "use -[v]S to pass options in shebang lines"
    abort (becomeStatus error)

/-- Lists variables of the environment. -/
def printenv : ToolM Unit := do
  let arguments ← readArguments 2 true ["0,null"]
  let last := if arguments.has "0" then "\x00" else "\n"
  let environment := (← get).environment
  if arguments.operands.isEmpty then
    print (String.join (environment.map fun entry => entry ++ last))
  else
    for name in arguments.operands do
      let found := if name.contains '=' then [] else
        environment.filter fun entry => entry.startsWith (name ++ "=")
      if found.isEmpty then modify fun tool => { tool with status := 1 }
      for entry in found do
        print ((entry.drop (name.length + 1)).toString ++ last)

end Shell.Machine.ToolM
