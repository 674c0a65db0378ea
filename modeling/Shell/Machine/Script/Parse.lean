import Shell.Machine.Script.Tokens

/-! # Reading scripts

How a script is read: characters make up words and operators, and those make up commands. A script is read one
line of commands at a time, because what has been read may change how the next line is to be read.
-/

namespace Shell.Machine.Script

namespace Reader

mutual

/-- The parts of a word up to where it ends, which is not taken. -/
def parts : Nat → Context → Nat → Array Part → Reader (Array Part)
  | 0, _, _, _ => fail "word too long"
  | fuel + 1, context, depth, sofar => do
    match ← peek with
    | none =>
      match context.openReport with
      | none => return sofar
      | some report => failUnended report context.closing
    | some c =>
      let source ← get
      let listBegins := c = '(' && (context = .pattern || (context = .plain && source.hasLists)) && opensList sofar
      let next? := (source.input.drop 1).head?
      let ends : Bool := match context with
        | .plain | .pattern => depth = 0 && isDelimiter c && !listBegins
        | .delimiter => isDelimiter c
        | .quoted => c = '"'
        | .braces _ => c = '\x7d'
        | .arithmetic => c = ')' && depth = 0 && next? = some ')'
        | .clause => depth = 0 && (c = ';' || (c = ')' && next? = some ')'))
        | .subscript => c = ']' && depth = 0
        | .replaced => c = '/' || c = '\x7d'
        | .slice => (c = ':' && depth = 0) || c = '\x7d'
        | .regex => depth = 0 && (" \t\n".contains c || c = ')')
        | .document => false
      if ends && !(context = .plain && (c = '<' || c = '>') && next? = some '(' && source.dialect = .extended) then
        return sofar
      else if c = '\\' then
        skip 1
        let part ← escaped context
        parts fuel context depth (sofar.push part)
      else if c = '\'' && context.hasSingleQuotes then
        let part ← within do
          skip 1
          singleQuoted
        parts fuel context depth (sofar.push part)
      else if c = '"' && context.hasDoubleQuotes then
        let inner ← within do
          skip 1
          parts fuel .quoted 0 #[textPart "" true]
        skip 1
        parts fuel context depth (sofar ++ quotedParts inner)
      else if c = '$' && context ≠ .delimiter then
        skip 1
        let part ← dollar fuel context
        parts fuel context depth (sofar.push part)
      else if c = '`' && context ≠ .delimiter then
        let part ← within do
          skip 1
          oldSubstitution fuel context.isQuoted
        parts fuel context depth (sofar.push part)
      else if (c = '<' || c = '>') && context = .plain then
        skip 2
        let body ← within (substitution fuel)
        parts fuel context depth (sofar.push (.pipe (c = '<') body))
      else if isSpecial c || context.marks.contains c then
        skip 1
        let depth := match context with
          | .subscript => if c = '[' then depth + 1 else if c = ']' then depth - 1 else depth
          | .delimiter | .quoted | .braces _ | .replaced | .document => depth
          | _ => if c = '(' then depth + 1 else if c = ')' then depth - 1 else depth
        parts fuel context depth (sofar.push (textPart (String.singleton c) context.isQuoted))
      else
        let text ← takeWhile fun c => !isSpecial c && !context.marks.contains c
        parts fuel context depth (sofar.push (textPart text context.isQuoted))
termination_by structural fuel => fuel

/-- What follows a dollar sign, which has been taken. -/
def dollar : Nat → Context → Reader Part
  | 0, _ => fail "word too long"
  | fuel + 1, context => do
    let quoted := context.isQuoted
    match ← peek with
    | none => return textPart "$" quoted
    | some c =>
      let extended ← isExtended
      if c = '(' then
        let numbers : Reader Part := within do
          skip 2
          let expr ← parts fuel .arithmetic 0 #[]
          skip 2
          return .arithmetic expr.toList quoted
        let commands : Reader Part := within do
          skip 1
          return .output (← substitution fuel) quoted
        if ((← get).input.drop 1).head? ≠ some '(' then commands
        else if extended then
          try numbers catch error =>
            try commands catch _ => throw error
        else numbers
      else if c = '\x7b' then
        within do
          skip 1
          if extended then bracedExtended fuel context else braced fuel context
      else if extended && !quoted && c = '\'' then
        skip 1
        return textPart (String.ofList (← escapeQuoted fuel [])) true
      else if extended && !quoted && c = '"' then return textPart "" false
      else if Name.isStart c then return .parameter (← takeName Name.isPart fuel) .none quoted
      else if isSpecialParameter c then
        skip 1
        return .parameter (String.singleton c) .none quoted
      else return textPart "$" quoted
termination_by structural fuel => fuel

/-- What stands between braces, the first of which has been taken. -/
def braced : Nat → Context → Reader Part
  | 0, _ => fail "word too long"
  | fuel + 1, context => do
    let quoted := context.isQuoted
    let rest (context : Context) : Reader Word := do
      let word ← parts fuel context 0 #[]
      skip 1
      return word.toList
    match ← bracedName fuel with
    | none =>
      discard (rest (.braces quoted))
      return .parameter "" (.bad "") quoted
    | some (name, true) =>
      if ← take? '\x7d' then return .parameter name .length quoted
      else
        discard (rest (.braces quoted))
        return .parameter name (.bad "") quoted
    | some (name, false) =>
      match ← operatorAfterName with
      | .close => return .parameter name .none quoted
      | .fallback kind orEmpty =>
        return .parameter name (.fallback kind orEmpty (← rest (.braces quoted))) quoted
      | .trim atEnd longest =>
        return .parameter name (.trim atEnd longest (← rest (.braces false))) quoted
      | _ =>
        discard (rest (.braces quoted))
        return .parameter name (.bad "") quoted
termination_by structural fuel => fuel

/-- What stands between braces in the extended dialect, the first of which has been taken. -/
def bracedExtended : Nat → Context → Reader Part
  | 0, _ => fail "word too long"
  | fuel + 1, context => do
    let quoted := context.isQuoted
    let start := (← get).input
    let rest (context : Context) : Reader Word := do
      let word ← parts fuel context 0 #[]
      skip 1
      return word.toList
    let bad : Reader Part := do
      discard (rest (.braces quoted))
      let length := start.length - (← get).input.length
      return .parameter "" (.bad ("$\x7b" ++ String.ofList (start.take length))) quoted
    let indirect := match start with
      | '!' :: c :: _ => Name.isPart c || "#@*".contains c
      | _ => false
    if indirect then skip 1
    match ← bracedName fuel with
    | none => bad
    | some (name, isLength) =>
      let subscript ←
        if (← peek) = some '[' && Name.isValid name.toList then
          let inner ← within do
            skip 1
            parts fuel .subscript 0 #[]
          skip 1
          pure (some inner.toList)
        else pure none
      let part (change : Change) : Part :=
        match subscript, indirect with
        | none, false => .parameter name change quoted
        | subscript, indirect => .element name subscript indirect change quoted
      if isLength then if ← take? '\x7d' then return part .length else bad
      else
        match indirect, (← get).input with
        | true, '@' :: '\x7d' :: _ | true, '*' :: '\x7d' :: _ =>
          let joins := (← get).input.head? = some '*'
          skip 2
          return .element name (some [textPart (if joins then "*" else "@") false]) true .names quoted
        | _, _ =>
          match ← extendedOperator? with
          | some .slice =>
            let first ← parts fuel .slice 0 #[]
            if ← take? ':' then
              return part (.slice first.toList (some (← rest .slice)))
            skip 1
            return part (.slice first.toList none)
          | some (.replace which) =>
            let pattern ← parts fuel .replaced 0 #[]
            let word ← if ← take? '/' then rest (.braces false) else do
              skip 1
              pure []
            return part (.replace which pattern.toList word)
          | some (.recase casing all) => return part (.recase casing all (← rest (.braces false)))
          | some (.transform letter) =>
            if "UuLQEPAKak".contains letter then return part (.transform letter)
            else
              return .parameter "" (.bad ("$\x7b" ++ String.ofList (start.take (start.length - (← get).input.length))))
                quoted
          | _ =>
            match (← get).input with
            | [] => bad
            | c :: after =>
              if !"-=?+#%:\x7d".contains c || (c = ':' && after.head? = some '\x7d') then return ← bad
              match ← operatorAfterName with
              | .close =>
                let isWhole := match subscript with
                  | some [.text "@" _] | some [.text "*" _] => true
                  | _ => false
                return part (if indirect && isWhole then .keys else .none)
              | .fallback kind orEmpty => return part (.fallback kind orEmpty (← rest (.braces quoted)))
              | .trim atEnd longest => return part (.trim atEnd longest (← rest (.braces false)))
              | _ => bad
termination_by structural fuel => fuel

/-- The commands whose output is substituted, after the opening bracket. -/
def substitution : Nat → Reader Command
  | 0 => fail "too many commands"
  | fuel + 1 => do
    let source ← get
    set { source with pushed := none, awaited := [] }
    let read : Reader Command := do
      let body ← list fuel .any
      match ← token fuel {} with
      | .operator ")" => return body
      | other => unexpected other (some (.operator ")"))
    let body ← try read catch error =>
      if error.text = endReport then
        throw { line := endLine source, text := "unexpected EOF while looking for matching `)'" }
      else throw error
    modify fun inner => { inner with pushed := source.pushed, awaited := source.awaited }
    return if source.dialect = .extended then contentsRead body else body
termination_by structural fuel => fuel

/-- The commands between back quotes, the first of which has been taken. -/
def oldSubstitution : Nat → Bool → Reader Part
  | 0, _ => fail "too many commands"
  | fuel + 1, quoted => do
    let text ← backQuoted quoted ((← get).input.length + 1) []
    let source ← get
    set { source with input := text, line := 1, pushed := none, awaited := [], active := [] }
    let body ← list fuel .any
    readDocuments fuel
    modify fun inner =>
      { source with documents := inner.documents, nextDocument := inner.nextDocument }
    return .output (if source.dialect = .extended then contentsRead body else body) quoted
termination_by structural fuel => fuel

/-- The next token, as it is written. -/
def bareToken : Nat → Bool → Reader Token
  | 0, _ => fail "too many tokens"
  | fuel + 1, delimiter => do
    match (← get).pushed with
    | some token =>
      modify fun source => { source with pushed := none }
      return token
    | none =>
      match ← peek with
      | none => return .finish
      | some c =>
        if c = ' ' || c = '\t' then
          skip 1
          bareToken fuel delimiter
        else if c = '#' then
          comment
          bareToken fuel delimiter
        else if c = '\n' then
          skip 1
          return .newline
        else
          let extended ← isExtended
          let next? := ((← get).input.drop 1).head?
          if extended && (c = '<' || c = '>') && next? = some '(' then return ← extendedWord fuel
          match ← (if extended then extendedToken? else pure none) with
          | some token => return token
          | none =>
          match ← operator? with
          | some token => return token
          | none =>
            match ← redirection? with
            | some token => return token
            | none =>
              if extended && !delimiter then extendedWord fuel
              else
                let context : Context := if delimiter then .delimiter else .plain
                return .word (← parts fuel context 0 #[]).toList
termination_by structural fuel => fuel

/-- A word in the extended dialect, in which elements of arrays may be set. -/
def extendedWord : Nat → Reader Token
  | 0 => fail "too many tokens"
  | fuel + 1 => do
    let start := (← get).input
    let word ← match subscripted? start with
      | some name => do
        skip (name.length + 1)
        let subscript ← parts fuel .subscript 0 #[]
        skip 1
        let appends ← take? '+'
        skip 1
        let value ← parts fuel .plain 0 #[]
        pure (.target name (some subscript.toList) appends :: value.toList)
      | none => do
        pure (markAdding (← parts fuel .plain 0 #[]).toList)
    let word ←
      if awaitsElements word && (← get).input.head? = some '(' then
        let items ← within do
          skip 1
          compoundItems fuel
        pure (word ++ [.compound items])
      else pure word
    modify fun source => { source with wordStart := start, wordEnd := source.input }
    return .word word
termination_by structural fuel => fuel

/-- The elements of an array up to the parenthesis, which is taken. -/
def compoundItems : Nat → Reader (List Word)
  | 0 => fail "too many words"
  | fuel + 1 => do
    skipSpace true
    match ← peek with
    | none => failUnended "Missing ')'" ")"
    | some ')' =>
      skip 1
      return []
    | some '#' =>
      comment
      compoundItems fuel
    | some '[' =>
      let rest := (← get).input.drop 1
      let length := (bracketLength? (rest.length + 1) 0 rest).getD rest.length
      match rest.drop (length + 1) with
      | '=' :: _ | '+' :: '=' :: _ =>
        skip 1
        let subscript ← parts fuel .subscript 0 #[]
        skip 1
        let appends ← take? '+'
        skip 1
        let value ← parts fuel .plain 0 #[]
        return (.target "" (some subscript.toList) appends :: value.toList) :: (← compoundItems fuel)
      | _ =>
        let word ← parts fuel .plain 0 #[]
        return word.toList :: (← compoundItems fuel)
    | some c =>
      if isDelimiter c && c ≠ '<' && c ≠ '>' then
        let token ← bareToken fuel false
        unexpected token none
      let word ← parts fuel .plain 0 #[]
      if word.isEmpty then
        let token ← bareToken fuel false
        unexpected token none
      return word.toList :: (← compoundItems fuel)
termination_by structural fuel => fuel

/-- The next token, with the meaning that it has where it stands. -/
def token : Nat → Expectation → Reader Token
  | 0, _ => fail "too many tokens"
  | fuel + 1, expectation => do
    match ← bareToken fuel expectation.delimiter with
    | .newline =>
      if expectation.skipsNewlines then
        readDocuments fuel
        token fuel expectation
      else return .newline
    | .word word =>
      let follows ← modifyGet fun source =>
        (source.aliasFollows, { source with aliasFollows := false })
      match word.bare? with
      | none => return .word word
      | some text =>
        let reserved := (← get).dialect.reservedWords
        if expectation.reserved && reserved.contains text && text ≠ "]]" then return .reserved text
        else if expectation.aliases || follows then
          match ← aliasText? word with
          | some (name, value) =>
            enterAlias name value
            token fuel expectation
          | none => return .word word
        else return .word word
    | other => return other
termination_by structural fuel => fuel

/-- Reads the here-documents that have been announced. -/
def readDocuments : Nat → Reader Unit
  | 0 => return
  | fuel + 1 => do
    match (← get).awaited with
    | [] => return
    | document :: awaited =>
      let source ← get
      let (text, rest, ended) := document.divide (source.input.length + 1) [] source.input
      let line := source.line + countLines (source.input.take (source.input.length - rest.length))
      let warnings := if ended then [] else [document.warning source]
      set { source with awaited, warnings := source.warnings ++ warnings }
      let word ←
        if document.verbatim then pure [textPart (String.ofList text) true]
        else
          modify fun source => { source with input := text }
          pure (← parts fuel .document 0 #[]).toList
      modify fun source =>
        { source with
          input := rest, line, documents := (document.number, word) :: source.documents }
      readDocuments fuel
termination_by structural fuel => fuel

/-- Commands one after another. -/
def list : Nat → Length → Reader Command
  | 0, _ => fail "too many commands"
  | fuel + 1, length => listFrom fuel length true .empty
termination_by structural fuel => fuel

/-- Commands one after another, after those that have been read. -/
def listFrom : Nat → Length → Bool → Command → Reader Command
  | 0, _, _, _ => fail "too many commands"
  | fuel + 1, length, first, sofar => do
    let expectation := if length = .line then atLine else atCommand
    let next ← token fuel expectation
    match next with
    | .newline =>
      readDocuments fuel
      return sofar
    | .finish =>
      readDocuments fuel
      push .finish
      return sofar
    | _ =>
      let start := startOf (← get) next
      push next
      if length ≠ .line && !(first && length = .some) && next.endsList then return sofar
      let line := (← get).line
      let command ← chain fuel
      let after ← token fuel {}
      match after with
      | .operator "&" =>
        let text := writtenBefore start (← get).input
        listFrom fuel length false (andThen sofar (inBackground line text command))
      | .operator ";" => listFrom fuel length false (andThen sofar command)
      | .newline =>
        push .newline
        listFrom fuel length false (andThen sofar command)
      | .finish =>
        readDocuments fuel
        push .finish
        return andThen sofar command
      | other =>
        if length = .line then unexpected other none
        push other
        return andThen sofar command
termination_by structural fuel => fuel

/-- Pipelines joined by `&&` and `||`. -/
def chain : Nat → Reader Command
  | 0 => fail "too many commands"
  | fuel + 1 => do chainFrom fuel (← pipeline fuel {})
termination_by structural fuel => fuel

/-- Goes on from what has been read of a chain. -/
def chainFrom : Nat → Command → Reader Command
  | 0, _ => fail "too many commands"
  | fuel + 1, left => do
    match ← token fuel {} with
    | .operator "&&" => chainFrom fuel (.both left (← pipeline fuel atCommand))
    | .operator "||" => chainFrom fuel (.either left (← pipeline fuel atCommand))
    | other =>
      push other
      return left
termination_by structural fuel => fuel

/-- Commands joined by `|`. -/
def pipeline : Nat → Expectation → Reader Command
  | 0, _ => fail "too many commands"
  | fuel + 1, expectation => do
    match ← token fuel expectation with
    | .reserved "!" =>
      if ← isExtended then
        let next ← token fuel atLine
        push next
        if next.endsPipeline then return .negate .empty
        return .negate (← pipeline fuel atLine)
      return .negate (← stages fuel atLine)
    | .reserved "time" =>
      match ← token fuel { reserved := true } with
      | .word [.text "-p" false] => return .timed (← pipeline fuel atLine)
      | .newline =>
        push .newline
        return .timed .empty
      | .operator ";" =>
        push (.operator ";")
        return .timed .empty
      | other =>
        push other
        return .timed (← pipeline fuel {})
    | other =>
      push other
      stages fuel {}
termination_by structural fuel => fuel

/-- Commands joined by `|`, of which none is negated. -/
def stages : Nat → Expectation → Reader Command
  | 0, _ => fail "too many commands"
  | fuel + 1, expectation => do
    let first ← command fuel expectation
    match ← stagesAfter fuel first with
    | [first] => return first
    | all => return .pipeline all
termination_by structural fuel => fuel

/-- A command and those that follow after a `|` each. -/
def stagesAfter : Nat → Command → Reader (List Command)
  | 0, _ => fail "too many commands"
  | fuel + 1, first => do
    match ← token fuel {} with
    | .operator "|" =>
      let stage ← command fuel atCommand
      return first :: (← stagesAfter fuel stage)
    | .operator "|&" =>
      let stage ← command fuel atCommand
      return .redirected (← get).line first [.duplicate 2 [textPart "1" false]] :: (← stagesAfter fuel stage)
    | other =>
      push other
      return [first]
termination_by structural fuel => fuel

/-- Takes a token that has to come next. -/
def expect : Nat → Expectation → Token → Reader Unit
  | 0, _, _ => fail "too many tokens"
  | fuel + 1, expectation, wanted => do
    let next ← token fuel expectation
    if next.describe ≠ wanted.describe then unexpected next (some wanted)
termination_by structural fuel => fuel

def command : Nat → Expectation → Reader Command
  | 0, _ => fail "too many commands"
  | fuel + 1, expectation => do
    let next ← token fuel expectation
    let line := (← get).line
    match next with
    | .reserved "if" =>
      let body ← branch fuel
      withRedirects fuel line body
    | .reserved "while" =>
      let body ← loop fuel false
      withRedirects fuel line body
    | .reserved "until" =>
      let body ← loop fuel true
      withRedirects fuel line body
    | .reserved "for" =>
      if (← isExtended) && ((← get).input.dropWhile (· = ' ')).take 2 = ['(', '('] then
        skipSpace false
        skip 2
        let body ← counted fuel line
        return ← withRedirects fuel line body
      let body ← each fuel line false
      withRedirects fuel line body
    | .reserved "case" =>
      let body ← select fuel line
      withRedirects fuel line body
    | .reserved "\x7b" =>
      let body ← list fuel .some
      expect fuel {} (.reserved "\x7d")
      withRedirects fuel line body
    | .operator "(" =>
      let nested : Reader Command := do
        let body ← list fuel .some
        expect fuel {} (.operator ")")
        return .subshell line body (← redirects fuel atLine)
      if (← isExtended) && (← get).input.head? = some '(' then
        let numbers : Reader Command := do
          skip 1
          let expr ← parts fuel .arithmetic 0 #[]
          skip 2
          withRedirects fuel line (.compute line expr.toList)
        try numbers catch _ => nested
      else nested
    | .reserved "[[" =>
      let condition ← within (checkEither fuel)
      withRedirects fuel line (.check line condition)
    | .reserved "select" =>
      let body ← each fuel line true
      withRedirects fuel line body
    | .reserved "function" =>
      match ← token fuel {} with
      | .word name =>
        if ← take? '(' then expect fuel {} (.operator ")")
        else
          skipSpace false
          if ← take? '(' then expect fuel {} (.operator ")")
        let line := (← get).line
        return .define line (name.bare?.getD "") (← command fuel atCommand)
      | other => unexpected other none
    | .word _ | .redirect _ _ =>
      push next
      simple fuel line true [] [] []
    | other => unexpected other none
termination_by structural fuel => fuel

def withRedirects : Nat → Nat → Command → Reader Command
  | 0, _, _ => fail "too many commands"
  | fuel + 1, line, body => do
    match ← redirects fuel atLine with
    | [] => return body
    | redirects => return .redirected line body redirects
termination_by structural fuel => fuel

/-- Redirections one after another. -/
def redirects : Nat → Expectation → Reader (List Redirect)
  | 0, _ => fail "too many redirections"
  | fuel + 1, expectation => do
    match ← token fuel expectation with
    | .redirect descriptor operator =>
      let found ← redirectTo fuel descriptor operator
      return found ++ (← redirects fuel {})
    | other =>
      push other
      return []
termination_by structural fuel => fuel

/-- The redirections that an operator stands for, with the word that follows it. -/
def redirectTo : Nat → Nat → String → Reader (List Redirect)
  | 0, _, _ => fail "too many redirections"
  | fuel + 1, descriptor, operator => do
    let isDocument := operator = "<<" || operator = "<<-"
    match ← token fuel { delimiter := isDocument } with
    | .word word =>
      match operator with
      | "<" => return [.file descriptor .input word]
      | ">" => return [.file descriptor .output word]
      | ">|" => return [.file descriptor .clobber word]
      | ">>" => return [.file descriptor .append word]
      | "<>" => return [.file descriptor .both word]
      | "<<<" => return [.text descriptor word]
      | "&>" => return [.file 1 .output word, .duplicate 2 [textPart "1" false]]
      | "&>>" => return [.file 1 .append word, .duplicate 2 [textPart "1" false]]
      | ">&" | "<&" =>
        let isFile := match word with
          | .text text _ :: _ => !(text.all fun c => c.isDigit || c = '-')
          | _ => false
        if (← isExtended) && operator = ">&" && isFile then
          return [.file 1 .output word, .duplicate 2 [textPart "1" false]]
        return [.duplicate descriptor word]
      | _ =>
        let text := String.join <| word.map fun
          | .text text _ => text
          | _ => ""
        let stripsTabs := operator = "<<-"
        let delimiter := if stripsTabs then text.dropWhile (· = '\t') |>.toString else text
        let source ← get
        let document : Document := {
          number := source.nextDocument, delimiter, verbatim := word.bare?.isNone, stripsTabs }
        set { source with
          awaited := source.awaited ++ [document], nextDocument := source.nextDocument + 1 }
        return [.document descriptor document.number]
    | other => unexpected other none
termination_by structural fuel => fuel

/-- A simple command, or the definition of a function. What has been read is in reverse. -/
def simple : Nat → Nat → Bool → List (String × Word) → List Word → List Redirect → Reader Command
  | 0, _, _, _, _, _ => fail "too many words"
  | fuel + 1, line, first, assignments, words, redirects => do
    let next ← token fuel { aliases := first }
    let line ← match words, assignments, redirects with
      | [_], [], [] => do
        let source ← get
        let here := if next matches .newline then source.line - 1 else source.line
        pure (if source.dialect = .extended then here else line)
      | _, _, _ => pure line
    match next with
    | .word word =>
      match if first then assignment? word else none with
      | some assignment => simple fuel line first (assignment :: assignments) words redirects
      | none => simple fuel line false assignments (word :: words) redirects
    | .redirect descriptor operator =>
      let found ← redirectTo fuel descriptor operator
      simple fuel line first assignments words (found.reverse ++ redirects)
    | .operator "(" =>
      match words, assignments, redirects with
      | [name], [], [] => definition fuel name
      | _, _, _ =>
        push next
        return .simple line assignments.reverse words.reverse redirects.reverse
    | other =>
      push other
      return .simple line assignments.reverse words.reverse redirects.reverse
termination_by structural fuel => fuel

/-- The definition of a function after its name and the opening bracket. -/
def definition : Nat → Word → Reader Command
  | 0, _ => fail "too many commands"
  | fuel + 1, word => do
    expect fuel {} (.operator ")")
    let name := word.bare?.getD ""
    let isRefused := !Name.isValid name.toList || specialBuiltins.contains name
    if isRefused && !(← isExtended) then fail "Bad function name"
    let line := (← get).line
    if ← isExtended then
      match ← token fuel atCommand with
      | .reserved text => push (.reserved text)
      | .operator text => push (.operator text)
      | other => unexpected other none
    return .define line name (← command fuel atCommand)
termination_by structural fuel => fuel

/-- A condition after its first word. -/
def branch : Nat → Reader Command
  | 0 => fail "too many commands"
  | fuel + 1 => do
    let condition ← list fuel .some
    expect fuel {} (.reserved "then")
    let body ← list fuel .some
    match ← token fuel {} with
    | .reserved "elif" => return .branch condition body (← branch fuel)
    | .reserved "else" =>
      let otherwise ← list fuel .some
      expect fuel {} (.reserved "fi")
      return .branch condition body otherwise
    | .reserved "fi" => return .branch condition body .empty
    | other => unexpected other (some (.reserved "fi"))
termination_by structural fuel => fuel

/-- A loop after its first word. -/
def loop : Nat → Bool → Reader Command
  | 0, _ => fail "too many commands"
  | fuel + 1, untilTrue => do
    let condition ← list fuel .some
    expect fuel {} (.reserved "do")
    let body ← list fuel .some
    expect fuel {} (.reserved "done")
    return .loop untilTrue condition body
termination_by structural fuel => fuel

/-- Words up to the end of a line, and the token after them. -/
def items : Nat → Reader (List Word × Token)
  | 0 => fail "too many words"
  | fuel + 1 => do
    match ← token fuel {} with
    | .word word =>
      let (words, next) ← items fuel
      return (word :: words, next)
    | other => return ([], other)
termination_by structural fuel => fuel

/-- A loop over words, after its first word. `chooses` says whether who reads a menu chooses them. -/
def each : Nat → Nat → Bool → Reader Command
  | 0, _, _ => fail "too many commands"
  | fuel + 1, line, chooses => do
    let extended ← isExtended
    let name ← match ← token fuel {} with
      | .word word => pure (word.bare?.getD "")
      | other => if extended then unexpected other none else pure ""
    if !Name.isValid name.toList && !extended then fail "Bad for loop variable"
    let words ← match ← token fuel atCommand with
      | .reserved "in" => do
        match ← items fuel with
        | (words, .newline) => pure (some words)
        | (words, .operator ";") => pure (some words)
        | (_, other) => unexpected other none
      | .operator ";" => pure none
      | other => do
        push other
        pure none
    let body ← loopBody fuel
    return if chooses then .choose line name words body else .each line name words body
termination_by structural fuel => fuel

/-- The commands between `do` and `done`, or between braces in the extended dialect. -/
def loopBody : Nat → Reader Command
  | 0 => fail "too many commands"
  | fuel + 1 => do
    match ← token fuel atCommand with
    | .reserved "do" =>
      let body ← list fuel .some
      expect fuel {} (.reserved "done")
      return body
    | .reserved "\x7b" =>
      if !(← isExtended) then unexpected (.reserved "\x7b") (some (.reserved "do"))
      let body ← list fuel .some
      expect fuel {} (.reserved "\x7d")
      return body
    | other => unexpected other (some (.reserved "do"))
termination_by structural fuel => fuel

/-- A loop that counts, after its parentheses have been opened. -/
def counted : Nat → Nat → Reader Command
  | 0, _ => fail "too many commands"
  | fuel + 1, line => do
    let first ← parts fuel .clause 0 #[]
    if !(← take? ';') then failNear ["syntax error: arithmetic expression required", "syntax error"]
    let condition ← parts fuel .clause 0 #[]
    if !(← take? ';') then failNear ["syntax error: arithmetic expression required", "syntax error"]
    let update ← parts fuel .clause 0 #[]
    skip 2
    match ← token fuel atCommand with
    | .operator ";" => pure ()
    | other => push other
    return .counted line first.toList condition.toList update.toList (← loopBody fuel)
termination_by structural fuel => fuel

/-- Conditions joined by `||`, up to the brackets that close them. -/
def checkEither : Nat → Reader Check
  | 0 => fail "too many words"
  | fuel + 1 => do
    let found ← checkOr fuel
    match ← token fuel { skipsNewlines := true } with
    | .word [.text "]]" false] => return found
    | .word _ =>
      let source ← get
      throw {
        line := source.openLine, text := "syntax error in conditional expression"
        more := [(source.line, "syntax error near `" ++ latestText source ++ "'"),
          (source.line, "`" ++ currentLine source ++ "'")] }
    | .finish => checkUnended
    | other =>
      let source ← get
      let text := "syntax error in conditional expression: unexpected token `" ++ other.written source ++ "'"
      throw {
        line := source.openLine, text
        more := [(source.line, "syntax error near `" ++ latestText source ++ "'"),
          (source.line, "`" ++ currentLine source ++ "'")] }
termination_by structural fuel => fuel

/-- Refuses a condition that is not closed. -/
def checkUnended {α : Type} : Reader α := do
  let source ← get
  throw { line := source.openLine, text := "unexpected EOF while looking for \x60]]'",
          more := [(endLine source, "syntax error: unexpected end of file")] }

/-- Conditions joined by `||`. -/
def checkOr : Nat → Reader Check
  | 0 => fail "too many words"
  | fuel + 1 => do
    let left ← checkAnd fuel
    match ← token fuel { skipsNewlines := true } with
    | .operator "||" => return .or left (← checkOr fuel)
    | other =>
      push other
      return left
termination_by structural fuel => fuel

/-- Conditions joined by `&&`. -/
def checkAnd : Nat → Reader Check
  | 0 => fail "too many words"
  | fuel + 1 => do
    let left ← checkOne fuel
    match ← token fuel { skipsNewlines := true } with
    | .operator "&&" => return .and left (← checkAnd fuel)
    | other =>
      push other
      return left
termination_by structural fuel => fuel

/-- A condition that is not joined from others. -/
def checkOne : Nat → Reader Check
  | 0 => fail "too many words"
  | fuel + 1 => do
    let lacks {α : Type} (kind : String) : Reader α := do
      let next ← token fuel {}
      failNear ["unexpected argument \x60]]' to conditional " ++ kind ++ " operator",
        "syntax error near \x60" ++ (match next with
          | .operator text => text
          | .newline => "]]"
          | _ => "") ++ "'"]
    match ← token fuel { skipsNewlines := true } with
    | .operator "(" =>
      let inner ← checkOr fuel
      expect fuel { skipsNewlines := true } (.operator ")")
      return inner
    | .finish => checkUnended
    | .word word =>
      let bare := word.bare?.getD ""
      if bare = "!" then return .not (← checkOne fuel)
      if bare = "]]" then failNear ["syntax error near \x60]]'"]
      let isUnary := isUnaryCheck bare
      match ← token fuel {} with
      | .word next =>
        let operator := next.bare?.getD ""
        if isUnary && !(isBinaryCheck operator && operator ≠ "=") && operator ≠ "]]" then
          return .unary bare next
        if isUnary && operator = "]]" then lacks "unary"
        if operator = "]]" then
          push (.word next)
          return .unary "-n" word
        if isBinaryCheck operator then
          skipSpace false
          let context : Context := if operator = "=~" then .regex
            else if ["=", "==", "!="].contains operator then .pattern else .plain
          let start := (← get).input
          let right ← parts fuel context 0 #[]
          modify fun source => { source with wordStart := start, wordEnd := source.input }
          match Word.bare? right.toList with
          | some "]]" => lacks "binary"
          | some "" => if right.isEmpty then unexpected (← token fuel {}) none
          | _ => pure ()
          return .binary operator word right.toList
        failNear ["conditional binary operator expected", "syntax error near \x60" ++ operator ++ "'"]
      | .redirect _ operator =>
        match ← token fuel {} with
        | .word right => return .binary operator word right
        | other => unexpected other none
      | .finish => checkUnended
      | other =>
        push other
        return .unary "-n" word
    | other => unexpected other none
termination_by structural fuel => fuel

/-- A choice by patterns, after its first word. -/
def select : Nat → Nat → Reader Command
  | 0, _ => fail "too many commands"
  | fuel + 1, line => do
    match ← token fuel {} with
    | .word subject =>
      expect fuel atCommand (.reserved "in")
      return .select line subject (← arms fuel)
    | other => unexpected other (some (.word []))
termination_by structural fuel => fuel

/-- The patterns of a choice, with the commands for them. -/
def arms : Nat → Reader (List (List Word × Command × ArmEnd))
  | 0 => fail "too many commands"
  | fuel + 1 => do
    match ← token fuel { skipsNewlines := true, reserved := true } with
    | .reserved "esac" => return []
    | next =>
      let first ← match next with
        | .operator "(" => token fuel {}
        | other => pure other
      let patterns ← patternsFrom fuel first
      expect fuel {} (.operator ")")
      let body ← list fuel .any
      match ← token fuel { skipsNewlines := true, reserved := true } with
      | .reserved "esac" => return [(patterns, body, .leaves)]
      | .operator ";;" => return (patterns, body, .leaves) :: (← arms fuel)
      | .operator ";&" => return (patterns, body, .fallsThrough) :: (← arms fuel)
      | .operator ";;&" => return (patterns, body, .goesOn) :: (← arms fuel)
      | other => unexpected other (some (.operator ";;"))
termination_by structural fuel => fuel

/-- Patterns with bars between them, the first of which has been taken. -/
def patternsFrom : Nat → Token → Reader (List Word)
  | 0, _ => fail "too many words"
  | fuel + 1, next => do
    match next with
    | .word word =>
      match ← token fuel {} with
      | .operator "|" =>
        let next ← token fuel {}
        return word :: (← patternsFrom fuel next)
      | other =>
        push other
        return [word]
    | .reserved text =>
      patternsFrom fuel (.word [textPart text false])
    | other => unexpected other (some (.operator ")"))
termination_by structural fuel => fuel

end

/-- A line of commands, or nothing at the end of a script. -/
def line (fuel : Nat) : Reader (Option Command) := do
  modify fun source => { source with pushed := none, awaited := [] }
  match ← list fuel .line with
  | .empty =>
    match (← get).pushed with
    | some .finish => return none
    | _ => return some .empty
  | command => return some command

end Reader

end Shell.Machine.Script
