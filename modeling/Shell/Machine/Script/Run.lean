import Shell.Machine.Script.Control

/-! # Running scripts

How the commands of a script are carried out. A command leaves its status in the state; errors, and the builtins that
leave loops, functions or the script, jump out of what is being done.
-/

namespace Shell.Machine.Script

set_option maxRecDepth 4000

namespace ScriptM

/-- A source as it is read now. -/
def adaptSource (state : State) (source : Source) : Source :=
  let extended := state.dialect = .extended
  let aliases := if extended && !state.switches.contains "expand_aliases" then [] else state.aliases
  { source with
    aliases, documents := [], nextDocument := state.nextDocument, warnings := []
    hasLists := extended && state.switches.contains "extglob" }

/-- The source that a text is, whose lines are counted from a number on. -/
def sourceOf (dialect : Dialect) (line : Nat) (text : String) : Source :=
  let lines := if dialect = .extended then text.splitOn "\n" else []
  { input := text.toList, line, dialect, lines, firstLine := line }

/-- The traps that functions do not take over. -/
def isPseudo (signal : Signal) : Bool :=
  Signal.greatest < signal

/-- The traps of a function that begins. -/
def trapsInside (state : State) : List (Signal × String) :=
  state.traps.filter fun entry =>
    !isPseudo entry.1 || (if entry.1 = Signal.failure then state.hasOption 'E' else state.hasOption 'T')

/-- The traps after a function, given those before it: what the function has not set is as it was. -/
def trapsAfter (before now : List (Signal × String)) : List (Signal × String) :=
  now ++ before.filter fun entry => isPseudo entry.1 && (now.lookup entry.1).isNone

def definingFile (state : State) : String :=
  match state.frames with
  | frame :: _ => frame.file
  | [] => if state.isArgument then "environment" else state.name

/-- How long something took, as it is shown. -/
def elapsedText (microseconds : Nat) : String :=
  let milliseconds := microseconds / 1000
  let minutes := milliseconds / 60000
  let part (total : Nat) : String :=
    toString minutes ++ "m" ++ toString (total % 60000 / 1000) ++ "." ++
      Numeral.padLeft 3 '0' (toString (total % 1000)) ++ "s"
  "\nreal\t" ++ part milliseconds ++ "\nuser\t0m0.000s\nsys\t0m0.000s\n"

mutual

/-- Runs what was arranged for signals that have arrived. -/
def runTraps : Nat → ScriptM Unit
  | 0 => return
  | fuel + 1 => do
    if !hasTraps (← get) then ask .rest
    else
      match ← ask .takeSignal with
      | none => return
      | some signal =>
        let state ← get
        match state.traps.lookup signal with
        | none => runTraps fuel
        | some action =>
          let before := state.statusBeforeTrap
          modify fun state => { state with statusBeforeTrap := some state.status }
          discard (runNested fuel {} "trap: " 1 action)
          modify fun inner => { inner with status := state.status, statusBeforeTrap := before }
          runTraps fuel
termination_by structural fuel => fuel

/-- Runs what was arranged for a case that is no signal. The status stays as it is. -/
def runPseudo : Nat → Signal → ScriptM Unit
  | 0, _ => return
  | fuel + 1, signal => do
    let state ← get
    match state.traps.lookup signal with
    | none => return
    | some action =>
      modify fun state => { state with traps := state.traps.filter fun entry => entry.1 ≠ signal }
      discard (runNested fuel { tested := true } "" state.line action)
      modify fun inner =>
        { inner with
          status := state.status, line := state.line
          traps := if (inner.traps.lookup signal).isSome then inner.traps else inner.traps ++ [(signal, action)] }
termination_by structural fuel => fuel

/-- Ends a script or a part of it that runs on its own: what was arranged for the end is run. -/
def finishScript : Nat → ScriptM Nat
  | 0 => return 2
  | fuel + 1 => do
    let state ← get
    match state.traps.lookup 0 with
    | none => return state.status
    | some action =>
      modify fun state =>
        { state with
          traps := state.traps.filter fun entry => entry.1 ≠ 0
          statusBeforeTrap := some state.status }
      match ← attempt (runNested fuel {} "exit trap: " 1 action) with
      | .error .exit | .error .error => return (← get).status
      | _ => return state.status
termination_by structural fuel => fuel

def runToEnd : Nat → Command → ScriptM Nat
  | 0, _ => return 2
  | fuel + 1, command => do
    discard (attempt (run fuel { final := true } command))
    finishScript fuel
termination_by structural fuel => fuel

/-- Runs the commands of a source, line by line. The status is that of the last one. -/
def runSource : Nat → Setting → Source → Nat → ScriptM Nat
  | 0, _, _, _ => fail "too many commands"
  | fuel + 1, setting, source, status => do
    let state ← get
    let source := adaptSource state source
    let echoes := setting.shown && state.hasOption 'v'
    let echo_ (count : Nat) : ScriptM Unit := do
      if echoes then discard (write 2 (String.ofList (source.input.take count)))
    match (Reader.line (8 * source.input.length + 1000)).run source with
    | .error error =>
      echo_ (lengthOfLines (error.line - source.line + 1) source.input)
      if source.dialect = .extended then
        reportFaults error
        setStatus 2
        jump .error
      setLine error.line
      fail error.text
    | .ok (none, next) =>
      reportWarnings next.warnings
      echo_ source.input.length
      return status
    | .ok (some command, next) =>
      echo_ (source.input.length - next.input.length)
      let source := next
      reportWarnings source.warnings
      modify fun state =>
        { state with
          readLine := source.line
          documents := source.documents ++ state.documents, nextDocument := source.nextDocument }
      match command with
      | .empty => runSource fuel setting source status
      | _ =>
        let isLast := source.pushed matches some .finish
        runLine fuel { setting with shown := false, final := setting.final && isLast } command
        runSource fuel setting source (← get).status
termination_by structural fuel => fuel

/-- Runs a line of commands. An error that drops them is over after that. -/
def runLine : Nat → Setting → Command → ScriptM Unit
  | 0, _, _ => fail "too many commands"
  | fuel + 1, setting, command => do
    if (← get).dialect = .plain then run fuel setting command
    else
      match ← attempt (run fuel setting command) with
      | .ok _ => return
      | .error .discard => if (← get).isSubshell then jump .exit else return
      | .error other => jump other
termination_by structural fuel => fuel

/-- Runs a text whose lines are counted from a number on. -/
def runText : Nat → Setting → Nat → String → ScriptM Nat
  | 0, _, _, _ => fail "too many commands"
  | fuel + 1, setting, line, text => do
    let state ← get
    andFinally (runSource fuel setting (sourceOf state.dialect line text) 0)
      (modify fun inner => { inner with readLine := state.readLine })
termination_by structural fuel => fuel

/-- Runs a text while something else is being run. It comes from something that has a name. -/
def runNested : Nat → Setting → String → Nat → String → ScriptM Nat
  | 0, _, _, _, _ => fail "too many commands"
  | fuel + 1, setting, origin, line, text => do
    let state ← get
    if state.dialect = .plain then runText fuel setting line text
    else
      modify fun inner => { inner with reading := origin, builtin := none, traceDepth := state.traceDepth + 1 }
      andFinally (runText fuel setting line text)
        (modify fun inner =>
          { inner with reading := state.reading, builtin := state.builtin, traceDepth := state.traceDepth })
termination_by structural fuel => fuel

/-- Runs a command, and ends the script if it failed and that is what is asked for. -/
def run : Nat → Setting → Command → ScriptM Unit
  | 0, _, _ => fail "too many commands"
  | fuel + 1, setting, command => do
    if (← get).hasOption 'n' then return
    runTraps fuel
    let pipes := (← get).openPipes.length
    let endsOnFailure ← andFinally (runCommand fuel setting command) do
      if pipes < (← get).openPipes.length then closePipes pipes
    if hasTraps (← get) then runTraps fuel
    let state ← get
    if endsOnFailure && !setting.tested && state.status ≠ 0 then
      if hasTraps state then runPseudo fuel Signal.failure
      if state.hasOption 'e' then jump .exit
    if setting.final then jump .exit
termination_by structural fuel => fuel

/-- Runs a command. True if its failure may end the script. -/
def runCommand : Nat → Setting → Command → ScriptM Bool
  | 0, _, _ => fail "too many commands"
  | fuel + 1, setting, command => do
    let part : Setting := { tested := setting.tested }
    let whole : Runner := runToEnd fuel
    match command with
    | .empty => return false
    | .simple line assignments words redirects =>
      if ← isExtended then
        runExtended fuel setting line assignments words redirects
        modify fun state => { state with statuses := [state.status] }
      else runSimple fuel setting line assignments words redirects
      return true
    | .check line condition =>
      setLine line
      runPseudo fuel Signal.debug
      let result ← onBehalf (some "[[") (checkFor whole false condition)
      setStatus (match result with
        | .ok true => 0
        | .ok false => 1
        | .error .badRegex => 2
        | .error _ => 1)
      modify fun state => { state with statuses := [state.status] }
      return true
    | .compute line expr =>
      setLine line
      runPseudo fuel Signal.debug
      let text ← expandText whole .nowhere expr
      traceLine ("(( " ++ text ++ " ))")
      let value ← onBehalf (some "((") (formula? text)
      setStatus (if value.any (· != 0) then 0 else 1)
      modify fun state => { state with statuses := [state.status] }
      return true
    | .counted line first condition update body =>
      setLine line
      setStatus (← inLoop (runCounted fuel part line first condition update body))
      return false
    | .choose line name items body =>
      setLine line
      let texts ← match items with
        | none => pure (← get).parameters
        | some words => pure (← words.mapM (expandFields whole)).flatten
      if texts.isEmpty then setStatus 0
      else setStatus (← inLoop (runChoices fuel part name texts body true))
      return false
    | .timed body =>
      let start : Nat ← ask .clock
      run fuel part body
      let stop : Nat ← ask .clock
      discard (write 2 (elapsedText (stop - start)))
      return false
    | .sequence first second =>
      run fuel part first
      run fuel setting second
      return false
    | .both left right =>
      run fuel { tested := true } left
      if (← get).status = 0 then run fuel setting right
      return false
    | .either left right =>
      run fuel { tested := true } left
      if (← get).status ≠ 0 then run fuel setting right
      return false
    | .negate body =>
      run fuel { tested := true } body
      setStatus (if (← get).status = 0 then 1 else 0)
      return false
    | .branch condition body otherwise =>
      let setting := { setting with lowers := false }
      run fuel { tested := true } condition
      if (← get).status = 0 then run fuel setting body
      else
        match otherwise with
        | .empty => setStatus 0
        | otherwise => run fuel setting otherwise
      return false
    | .loop untilTrue condition body =>
      setStatus (← inLoop (runLoop fuel part untilTrue condition body 0))
      return false
    | .each line name items body =>
      setLine line
      let texts ← match items with
        | none => pure (← get).parameters
        | some words => pure (← words.mapM (expandFields whole)).flatten
      if !Name.isValid name.toList && (← isExtended) then
        warn ("\x60" ++ name ++ "': not a valid identifier")
        setStatus 1
      else
        let shown := match items with
          | none => "for " ++ name
          | some words => " ".intercalate (("for " ++ name ++ " in") :: words.map asWritten)
        setStatus (← inLoop (runEach fuel part name shown body 0 texts))
      return false
    | .select line subject arms =>
      setLine line
      if ← isExtended then
        runPseudo fuel Signal.debug
        traceLine ("case " ++ asWritten subject ++ " in")
      let text ← expandText whole .atStart subject
      setStatus 0
      runArms fuel setting text arms
      return false
    | .define line name body =>
      setLine line
      modify fun state =>
        { state with
          functions := (name, body) :: state.functions.filter fun entry => entry.1 ≠ name
          origins := (name, definingFile state) :: state.origins.filter fun entry => entry.1 ≠ name
          status := 0 }
      return false
    | .redirected line body redirects =>
      setLine line
      let prepared ← redirects.mapM (prepare whole)
      let done ← withRedirects false prepared (run fuel part body)
      if done.isNone then setStatus (if ← isExtended then 1 else 2)
      return false
    | .subshell line body redirects =>
      setLine line
      let prepared ← redirects.mapM (prepare whole)
      let inside (setting : Setting) : ScriptM Unit := do
        match ← performAll false prepared [] with
        | (_, some report) => failWith (if ← isExtended then 1 else 2) report
        | (_, none) => run fuel { setting with final := true, lowers := true } body
      if setting.final && !hasTraps (← get) then inside setting
      else
        let child ← forkPart false false do
          discard (attempt (inside part))
          finishScript fuel
        setStatus (← awaitChild child)
      return true
    | .pipeline stages =>
      let numbers ← runStages fuel false stages
      setStatus (← if ← isExtended then awaitStages numbers else awaitProcesses numbers)
      return true
    | .background line body text =>
      setLine line
      let numbers ← match body with
        | .pipeline stages => runStages fuel true stages
        | body => do
          let child ← forkPart true true (runToEnd fuel body)
          pure [child]
      addJob numbers text
      setStatus 0
      return true
termination_by structural fuel => fuel

/-- Starts the stages of a pipeline. -/
def runStages : Nat → Bool → List Command → ScriptM (List Nat)
  | 0, _, _ => fail "too many commands"
  | fuel + 1, inBackground, stages => do
    if (← get).dialect = .plain then stages.forM noteStage
    startStages
      (fun isFirst connect stage =>
        forkPart inBackground isFirst do
          connect
          runToEnd fuel stage)
      none true stages
termination_by structural fuel => fuel

/-- Runs the rounds of a loop. `status` is that of the last round. -/
def runLoop : Nat → Setting → Bool → Command → Command → Nat → ScriptM Nat
  | 0, _, _, _, _, _ => fail "too many rounds"
  | fuel + 1, setting, untilTrue, condition, body, status => do
    let tested ← attempt (run fuel { tested := true } condition)
    match ← roundEnd tested with
    | .leave => return status
    | .next =>
      if isContinue tested then runLoop fuel setting untilTrue condition body status
      else if ((← get).status = 0) = untilTrue then return status
      else
        match ← roundEnd (← attempt (run fuel setting body)) with
        | .leave => return (← get).status
        | .next => runLoop fuel setting untilTrue condition body (← get).status
termination_by structural fuel => fuel

/-- Runs a round of a loop for each of some texts. -/
def runEach : Nat → Setting → String → String → Command → Nat → List String → ScriptM Nat
  | 0, _, _, _, _, _, _ => fail "too many rounds"
  | _, _, _, _, _, status, [] => return status
  | fuel + 1, setting, name, shown, body, _, text :: rest => do
    if ← isExtended then
      runPseudo fuel Signal.debug
      traceLine shown
    setValue name text false false
    match ← roundEnd (← attempt (run fuel setting body)) with
    | .leave => return (← get).status
    | .next => runEach fuel setting name shown body (← get).status rest
termination_by structural fuel => fuel

/-- The value of an expression that controls a loop; one for an empty one. -/
def controlValue : Nat → Nat → Word → ScriptM (Option Int64)
  | 0, _, _ => fail "too many rounds"
  | fuel + 1, line, expr => do
    setLine line
    runPseudo fuel Signal.debug
    let text ← expandText (runToEnd fuel) .nowhere expr
    if (text.toList.filter fun c => c ≠ ' ').isEmpty then return some 1
    traceLine ("(( " ++ text ++ " ))")
    onBehalf (some "((") (formula? text)
termination_by structural fuel => fuel

def runCounted : Nat → Setting → Nat → Word → Word → Word → Command → ScriptM Nat
  | 0, _, _, _, _, _, _ => fail "too many rounds"
  | fuel + 1, setting, line, first, condition, update, body => do
    match ← controlValue fuel line first with
    | none => return 1
    | some _ => runRounds fuel setting line condition update body 0
termination_by structural fuel => fuel

/-- Runs the rounds of a loop that counts. `status` is that of the last round. -/
def runRounds : Nat → Setting → Nat → Word → Word → Command → Nat → ScriptM Nat
  | 0, _, _, _, _, _, _ => fail "too many rounds"
  | fuel + 1, setting, line, condition, update, body, status => do
    match ← controlValue fuel line condition with
    | none => return 1
    | some value =>
      if value == 0 then return status
      match ← roundEnd (← attempt (run fuel setting body)) with
      | .leave => return (← get).status
      | .next =>
        let status := (← get).status
        match ← controlValue fuel line update with
        | none => return 1
        | some _ => runRounds fuel setting line condition update body status
termination_by structural fuel => fuel

/-- Lets who reads a menu choose items until there is no more input. -/
def runChoices : Nat → Setting → String → List String → Command → Bool → ScriptM Nat
  | 0, _, _, _, _, _ => fail "too many rounds"
  | fuel + 1, setting, name, items, body, showsMenu => do
    if showsMenu then discard (write 2 (menu items))
    let prompt := ((← get).value? "PS3").getD "#? "
    discard (write 2 prompt)
    let (ending, progress) ← readProgress { raw := false } patience {}
    let text := Glyph.text progress.glyphs.reverse
    if ending ≠ .complete then
      discard (write 1 "\n")
      return 1
    let trimmed := (text.trimAscii).toString
    setValue "REPLY" trimmed false false
    if trimmed.isEmpty then runChoices fuel setting name items body true
    else
      let chosen := (trimmed.toNat?.bind fun number => if number = 0 then none else items[number - 1]?).getD ""
      setValue name chosen false false
      match ← roundEnd (← attempt (run fuel setting body)) with
      | .leave => return (← get).status
      | .next => runChoices fuel setting name items body false
termination_by structural fuel => fuel

/-- Runs the commands for the first pattern that a text matches. -/
def runArms : Nat → Setting → String → List (List Word × Command × ArmEnd) → ScriptM Unit
  | 0, _, _, _ => fail "too many patterns"
  | _, _, _, [] => return
  | fuel + 1, setting, text, (patterns, body, ending) :: rest => do
    if ← matchesAny fuel text patterns then runArm fuel setting text body ending rest
    else runArms fuel setting text rest
termination_by structural fuel => fuel

/-- Runs the commands of an arm, and what comes after that. -/
def runArm : Nat → Setting → String → Command → ArmEnd → List (List Word × Command × ArmEnd) → ScriptM Unit
  | 0, _, _, _, _, _ => fail "too many patterns"
  | fuel + 1, setting, text, body, ending, rest => do
    let inner := if ending = .leaves then setting else { setting with final := false }
    match body with
    | .empty => pure ()
    | body => run fuel inner body
    match ending, rest with
    | .leaves, _ => return
    | .goesOn, rest => runArms fuel setting text rest
    | .fallsThrough, (_, next, after) :: others => runArm fuel setting text next after others
    | .fallsThrough, [] => return
termination_by structural fuel => fuel

/-- True when a text matches one of some patterns. -/
def matchesAny : Nat → String → List Word → ScriptM Bool
  | 0, _, _ => fail "too many patterns"
  | _, _, [] => return false
  | fuel + 1, text, pattern :: rest => do
    let test ← expandPattern (runToEnd fuel) pattern
    if test.accepts text.toList then return true else matchesAny fuel text rest
termination_by structural fuel => fuel

/-- The name of the command that arguments run, past any `command` before it. -/
def commandName : List String → String
  | [] => ""
  | name :: rest =>
    if name ≠ "command" then name
    else
      match rest with
      | "-p" :: rest | "--" :: rest => commandName rest
      | rest => commandName rest
termination_by structural fuel => fuel

/-- Runs a simple command: a program, a builtin, a function, or nothing but assignments and redirections. -/
def runSimple : Nat → Setting → Nat → List (String × Word) → List Word → List Redirect → ScriptM Unit
  | 0, _, _, _, _, _ => fail "too many commands"
  | fuel + 1, setting, line, assignments, words, redirects => do
    let whole : Runner := runToEnd fuel
    setLine line
    modify fun state => { state with substituted := 0 }
    let arguments ← expandWords whole [] words
    let prepared ← redirects.mapM (prepare whole)
    let isFunction (name : String) (state : State) : Bool := (state.functions.lookup name).isSome
    let name := arguments.headD ""
    let isSpecial := !arguments.isEmpty && Dialect.plain.isSpecialBuiltin name && !isFunction name (← get)
    let isExec := isSpecial && name = "exec"
    let stays := !isFunction "command" (← get) && (commandName arguments) = "exec" && !isFunction name (← get)
    let isLocal := !arguments.isEmpty && !isSpecial
    let action : ScriptM Unit := do
      let shown ← runAssignments fuel isLocal (isExec && 1 < arguments.length) assignments
      if (← get).hasOption 'x' then trace (shown ++ arguments)
      if arguments.isEmpty then setStatus (← get).substituted
      else runNamed fuel setting isSpecial none arguments
    let action := if isLocal && !assignments.isEmpty then withLocals action else action
    let done ← withRedirects stays prepared action
    if done.isNone then
      setStatus 2
      if isSpecial then jump .error
termination_by structural fuel => fuel

/-- Runs a simple command of the extended dialect. -/
def runExtended : Nat → Setting → Nat → List (String × Word) → List Word → List Redirect → ScriptM Unit
  | 0, _, _, _, _, _ => fail "too many commands"
  | fuel + 1, setting, line, assignments, words, redirects => do
    let whole : Runner := runToEnd fuel
    setLine line
    runPseudo fuel Signal.debug
    modify fun state => { state with substituted := 0, given := [], lent := [] }
    let arguments ← expandWords whole [] words
    let given := (← get).given
    let prepared ← redirects.mapM (prepare whole)
    let state ← get
    let stays := (commandName arguments) = "exec" && (state.functions.lookup "exec").isNone
    let isPlain := arguments.isEmpty
    let assign : ScriptM Unit := do
      for (name, word) in assignments do
        if !isPlain then
          makeLocal name
          modify fun state => { state with lent := state.lent ++ [name] }
        makeAssignment whole (!isPlain) (Assigning.ofWord name word)
    if isPlain then assign
    let action : ScriptM Unit := do
      if isPlain then setStatus (← get).substituted
      else
        assign
        traceLine (" ".intercalate (arguments.map tracedWord))
        modify fun state => { state with given }
        runNamed fuel setting false none arguments
    let action := if !isPlain && !assignments.isEmpty then withLocals action else action
    let done ← withRedirects stays prepared action
    if done.isNone then setStatus 1
    modify fun state => { state with lastArgument := arguments.getLast?.getD "" }
termination_by structural fuel => fuel

/-- Carries out assignments one after another. The result is how they look. -/
def runAssignments : Nat → Bool → Bool → List (String × Word) → ScriptM (List String)
  | 0, _, _, _ => fail "too many assignments"
  | _, _, _, [] => return []
  | fuel + 1, isLocal, exported, (name, word) :: rest => do
    let value ← expandText (runToEnd fuel) .inAssignment word
    if isLocal then makeLocal name
    assign name value (isLocal || exported)
    return (name ++ "=" ++ value) :: (← runAssignments fuel isLocal exported rest)
termination_by structural fuel => fuel

/-- Runs what a name stands for. `path` is given where functions do not count. -/
def runNamed : Nat → Setting → Bool → Option (Option String) → List String → ScriptM Unit
  | 0, _, _, _, _ => fail "too many commands"
  | fuel + 1, setting, isSpecial, path, arguments => do
    let name := arguments.headD ""
    let functions := (← get).functions
    let function := if path.isSome then none else functions.lookup name
    match function with
    | some body => runFunction fuel setting name body (arguments.drop 1)
    | none =>
      let dialect := (← get).dialect
      if dialect.isBuiltin name then runBuiltin fuel setting isSpecial path arguments
      else if dialect = .extended then runFound fuel setting (path.getD none) arguments
      else runProgram fuel setting (path.getD none) arguments
termination_by structural fuel => fuel

/-- Runs a program in the extended dialect. -/
def runFound : Nat → Setting → Option String → List String → ScriptM Unit
  | 0, _, _, _ => fail "too many commands"
  | fuel + 1, setting, path, arguments => do
    let name := arguments.headD ""
    let places ← searchPlaces path
    let found ← if name.contains '/' then pure [name] else programsNamed name places
    match found with
    | place :: _ =>
      if path.isNone && !name.contains '/' then
        noteProgram name place
        modify fun state =>
          { state with
            known := state.known.map fun known =>
              if known.name = name then { known with uses := known.uses + 1 } else known }
      if setting.final && !hasTraps (← get) then
        if setting.lowers then modify lowerLevel
        become path arguments
      else
        let child ← fork do
          discard (attempt (become path arguments : ScriptM Unit))
          return (← get).status
        setStatus (← awaitChild child)
    | [] =>
      match (← get).functions.lookup "command_not_found_handle" with
      | some body => runFunction fuel setting "command_not_found_handle" body arguments
      | none =>
        match ← findFile false name .nowhere places with
        | .found place =>
          warn (place ++ ": " ++ SystemError.denied.text)
          setStatus 126
        | _ =>
          warn (name ++ ": " ++ (if places = [""] then SystemError.missing.text else "command not found"))
          setStatus 127
termination_by structural fuel => fuel

def runProgram : Nat → Setting → Option String → List String → ScriptM Unit
  | 0, _, _, _ => fail "too many commands"
  | _ + 1, setting, path, arguments => do
    let name := arguments.headD ""
    let result ← if name.contains '/' then pure (Lookup.found name) else lookUp path name
    let replaces := setting.final && !hasTraps (← get)
    match result with
    | .found _ =>
      if replaces then become path arguments
      else
        let child ← fork do
          discard (attempt (become path arguments : ScriptM Unit))
          return (← get).status
        setStatus (← awaitProcesses [child])
    | result =>
      warn (name ++ ": " ++ lookupReport result)
      setStatus 127

def runFunction : Nat → Setting → String → Command → List String → ScriptM Unit
  | 0, _, _, _, _ => fail "too many commands"
  | fuel + 1, setting, name, body, arguments => do
    let state ← get
    let extended := state.dialect = .extended
    let file := (state.origins.lookup name).getD state.name
    modify fun state =>
      { state with
        parameters := arguments, loopDepth := 0, functionDepth := state.functionDepth + 1
        optionIndex := if extended then state.optionIndex else 1
        optionOffset := if extended then state.optionOffset else 0 }
    if extended then
      modify fun state =>
        { state with
          traps := trapsInside state
          frames := { function := name, file, line := state.line } :: state.frames
          builtin := none }
    let result ← attempt (withLocals (run fuel { tested := setting.tested } body))
    if extended then
      match result with
      | .ok _ | .error .return_ => runPseudo fuel Signal.return_
      | .error _ => pure ()
    modify fun inner =>
      { inner with
        parameters := state.parameters, loopDepth := state.loopDepth
        functionDepth := state.functionDepth
        optionIndex := if extended then inner.optionIndex else state.optionIndex
        optionOffset := if extended then inner.optionOffset else state.optionOffset }
    if extended then
      modify fun inner =>
        { inner with
          traps := trapsAfter state.traps inner.traps, frames := state.frames, line := state.line
          builtin := state.builtin }
    match result with
    | .ok _ | .error .return_ => return
    | .error other => jump other
termination_by structural fuel => fuel

/-- Calls a builtin. An error in one that is not special does not end the script. -/
def runBuiltin : Nat → Setting → Bool → Option (Option String) → List String → ScriptM Unit
  | 0, _, _, _, _ => fail "too many commands"
  | fuel + 1, setting, isSpecial, path, arguments => do
    let name := arguments.headD ""
    let before := (← get).builtin
    modify fun state => { state with builtin := some name }
    let result ←
      if ← isExtended then attempt (callExtended fuel setting path name (arguments.drop 1))
      else attempt (callBuiltin fuel setting isSpecial path name (arguments.drop 1))
    match result with
    | .ok (some status) => setStatus status
    | _ => pure ()
    modify fun state => { state with builtin := before }
    match result with
    | .ok _ => return
    | .error .error => if isSpecial then jump .error
    | .error other => jump other
termination_by structural fuel => fuel

/-- Does what a builtin does. There is no status if the builtin has set it. -/
def callBuiltin : Nat → Setting → Bool → Option (Option String) → String → List String →
    ScriptM (Option Nat)
  | 0, _, _, _, _, _ => fail "too many commands"
  | fuel + 1, setting, isSpecial, path, name, arguments => do
    match plainBuiltin? name with
    | some builtin => return some (← builtin arguments)
    | none =>
      match name with
      | "eval" =>
        let (_, texts) ← readOptions "" arguments
        return some (← runText fuel { tested := setting.tested } 1 (" ".intercalate texts))
      | "." =>
        let (_, operands) ← readOptions "" arguments
        match operands with
        | [] => return some 0
        | file :: _ =>
          let file ← findSource file
          let text ← readScript file
          modify fun state => { state with builtin := some file }
          match ← attempt (runText fuel { tested := setting.tested, shown := true } 1 text) with
          | .ok status => return some status
          | .error .return_ => return none
          | .error other => jump other
      | "exec" =>
        let (_, words) ← readOptions "" arguments
        if words.isEmpty then return some 0 else become none words
      | "exit" =>
        givenStatus arguments
        jump .exit
      | "return" =>
        givenStatus arguments
        jump .return_
      | "break" => return some (← leaveLoops false arguments)
      | "continue" => return some (← leaveLoops true arguments)
      | "command" =>
        match ← commandUse arguments with
        | .nothing => return some 0
        | .describe atLength path name =>
          match ← describe atLength path name with
          | some text =>
            discard (write 1 text)
            let found ← isCommand path name
            return some (if found then 0 else 127)
          | none => return some 127
        | .run inner words =>
          modify fun state => { state with builtin := none }
          let path := inner.orElse fun _ => path.getD none
          runNamed fuel setting isSpecial (some path) words
          return none
      | "type" => return some (← describeAll 0 arguments)
      | _ => return some (← hash arguments)
termination_by structural fuel => fuel

/-- Does what a builtin of the extended dialect does. There is no status if the builtin has set it. -/
def callExtended : Nat → Setting → Option (Option String) → String → List String → ScriptM (Option Nat)
  | 0, _, _, _, _ => fail "too many commands"
  | fuel + 1, setting, path, name, arguments => do
    match extendedBuiltin? name with
    | some builtin => return some (← builtin arguments)
    | none =>
      match name with
      | "eval" =>
        let (_, texts) ← readOptions "" arguments
        let line := (← get).line
        return some (← runNested fuel { tested := setting.tested } "eval: " line (" ".intercalate texts))
      | "." | "source" =>
        let (_, operands) ← readOptions "" arguments
        match operands with
        | [] =>
          warn "filename argument required"
          advise
        | file :: parameters => runSourced fuel setting file parameters
      | "exec" => return some (← execExtended arguments)
      | "exit" | "logout" => return some (← exitExtended arguments)
      | "return" => return some (← returnExtended arguments)
      | "break" => return some (← leaveLoopsExtended false arguments)
      | "continue" => return some (← leaveLoopsExtended true arguments)
      | "type" => return some (← typeExtended arguments)
      | "hash" => return some (← hashExtended arguments)
      | "caller" => return some (← caller arguments)
      | "builtin" =>
        match arguments with
        | [] => return some 0
        | inner :: rest =>
          if Dialect.extended.isBuiltin inner then
            modify fun state => { state with builtin := some inner }
            callExtended fuel setting path inner rest
          else
            warn (inner ++ ": not a shell builtin")
            return some 1
      | _ =>
        let (options, operands) ← readOptions "pvV" arguments
        let has (letter : Char) : Bool := options.any fun option => option.1 = letter
        let place := if has 'p' then some defaultPath else none
        if operands.isEmpty then return some 0
        else if has 'v' || has 'V' then return some (← describeNames (has 'V') place false operands)
        else
          modify fun state => { state with builtin := none }
          runNamed fuel setting false (some (place.orElse fun _ => path.getD none)) operands
          return none
termination_by structural fuel => fuel

/-- Runs the script in a file as a part of the one that runs. -/
def runSourced : Nat → Setting → String → List String → ScriptM (Option Nat)
  | 0, _, _, _ => fail "too many commands"
  | fuel + 1, setting, file, parameters => do
    let (text, path) ← readSourced file
    let state ← get
    modify fun inner =>
      { inner with
        frames := { function := "source", file := path, line := state.line } :: inner.frames
        parameters := if parameters.isEmpty then inner.parameters else parameters }
    let result ← attempt (runNested fuel { tested := setting.tested, shown := true } "" 1 text)
    modify fun inner =>
      { inner with
        frames := state.frames, line := state.line
        parameters := if parameters.isEmpty then inner.parameters else state.parameters }
    match result with
    | .ok status => return some status
    | .error .return_ => return none
    | .error other => jump other
termination_by structural fuel => fuel

end

end ScriptM

end Shell.Machine.Script
