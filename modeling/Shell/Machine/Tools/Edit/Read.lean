import Shell.Machine.Regex
import Shell.Machine.Regex.Read
import Shell.Machine.Utility.Escape

/-! # Scripts that edit lines

What a script of the stream editor consists of, commands for the lines that addresses select, and how its text divides
into commands. An error tells how much of the text was left when it was found.
-/

namespace Shell.Machine.Edit

/-- A regular expression with the way in which it is to be used. -/
structure Search where
  /-- The one that was used last, if there is none. -/
  regex : Option Regex
  foldsCase : Bool := false
  hasLines : Bool := false
deriving Repr, Inhabited

/-- Which line is meant. -/
inductive Address where
  | line (number : Nat)
  /-- Each line that is so many times a step after the first. -/
  | step (first step : Nat)
  | last
  | found (search : Search)
deriving Repr, Inhabited

/-- Where a range of lines ends. -/
inductive RangeEnd where
  | address (address : Address)
  /-- So many lines later. -/
  | later (count : Nat)
  /-- At the next line whose number is a multiple. -/
  | multiple (number : Nat)
deriving Repr, Inhabited

/-- Which lines a command is for. -/
structure Selector where
  first : Option Address := none
  stop : Option RangeEnd := none
  inverted : Bool := false
deriving Repr, Inhabited

/-- What is done to the letters that follow. -/
inductive Casing where
  | keep
  | upper
  | lower
deriving Repr, DecidableEq, Inhabited

/-- A part of what takes the place of a match. -/
inductive Replacement where
  | text (text : String)
  /-- What a group has matched, or all of the match. -/
  | group (number : Nat)
  | casing (casing : Casing)
  /-- What is done to the next letter only. -/
  | once (casing : Casing)
deriving Repr, Inhabited

/-- How a match is replaced. -/
structure Substitution where
  search : Search
  parts : List Replacement
  /-- The first match that is replaced. -/
  first : Nat := 1
  /-- Whether the ones after it are replaced as well. -/
  all : Bool := false
  prints : Bool := false
  file : Option String := none
deriving Repr, Inhabited

/-- When a jump is made. -/
inductive JumpKind where
  | always
  | ifReplaced
  | unlessReplaced
deriving Repr, DecidableEq, Inhabited

/-- What a command does. -/
inductive Verb where
  | opening
  | closing
  | label (name : String)
  | jump (kind : JumpKind) (target : String)
  | append (text : String)
  | insert (text : String)
  | change (text : String)
  | delete
  | deleteFirst
  | get
  | getMore
  | hold
  | holdMore
  | exchange
  | show (width : Option Nat)
  | next
  | nextMore
  | print
  | printFirst
  | quit (code : Nat) (prints : Bool)
  | readFile (path : String)
  | readLine (path : String)
  | write (path : String)
  | writeFirst (path : String)
  | substitute (substitution : Substitution)
  | exchangeChars (chars : List (Char × Char))
  | number
  | name
  | clear
  | nothing
deriving Repr, Inhabited

/-- A command with the lines that it is for. -/
structure Command where
  selector : Selector
  verb : Verb
deriving Repr, Inhabited

end Shell.Machine.Edit

/-! ## Reading a script -/

namespace Shell.Machine.Edit

/-- What is wrong with a script. -/
inductive Fault where
  /-- Something after which so many characters were left. -/
  | found (left : Nat) (text : String)
  /-- Something about the script as a whole. -/
  | whole (text : String)
  /-- Something that is not about a place. -/
  | plain (code : Nat) (text : String)
deriving Repr, Inhabited

/-- Reads a script: the characters that are left. -/
abbrev ReadM := StateT (List Char) (Except Fault)

/-- Fails after what has been read. -/
def refuse {α : Type} (text : String) : ReadM α := do
  throw (.found (← get).length text)

def next? : ReadM (Option Char) :=
  modifyGet fun chars => (chars.head?, chars.drop 1)

/-- The next character, which is not read. -/
def peek? : ReadM (Option Char) := do
  return (← get).head?

def readWhile (holds : Char → Bool) : ReadM String :=
  modifyGet fun chars => (String.ofList (chars.takeWhile holds), chars.dropWhile holds)

def isBlank (c : Char) : Bool :=
  c = ' ' || c = '\t'

def skipBlanks : ReadM Unit :=
  discard (readWhile isBlank)

/-- True for blanks and line breaks. -/
def isSpace (c : Char) : Bool :=
  isBlank c || c = '\n' || c = '\r' || c = '\x0b' || c = '\x0c'

def readNumber : ReadM (Option Nat) := do
  return (← readWhile Char.isDigit).toNat?

/-! ## Escapes -/

/-- The character that digits after a backslash and a letter name. -/
def numbered (base most : Nat) (chars : List Char) : Option (Char × List Char) :=
  let (value, count, rest) := Numeral.digits base most 0 0 chars
  if count = 0 then none else some (Char.ofNat (value % 256), rest)

/-- The character that an escape names, and what follows it. -/
def special? : List Char → Option (Char × List Char)
  | 'a' :: rest => some ('\x07', rest)
  | 'f' :: rest => some ('\x0c', rest)
  | 'r' :: rest => some ('\r', rest)
  | 't' :: rest => some ('\t', rest)
  | 'v' :: rest => some ('\x0b', rest)
  | 'd' :: rest => numbered 10 3 rest
  | 'o' :: rest => numbered 8 3 rest
  | 'x' :: rest => numbered 16 2 rest
  | 'c' :: c :: rest =>
    let code := c.toUpper.toNat
    some (Char.ofNat (if code < 64 then code + 64 else code - 64), rest)
  | _ => none

/-! ## Texts between delimiters -/

/-- Reads up to a delimiter. A delimiter after a backslash does not end the text, nor does one
    between square brackets if there can be any. What stands after backslashes stays as it is, the
    delimiter apart. -/
def delimited (delimiter : Char) (hasSets : Bool) :
    Nat → Bool → List Char → List Char → Option (List Char × List Char)
  | 0, _, _, _ => none
  | _, _, _, [] => none
  | fuel + 1, inSet, sofar, c :: rest =>
    if c = delimiter && !inSet then some (sofar.reverse, rest)
    else if c = '\\' && !inSet then
      match rest with
      | [] => none
      | d :: rest =>
        if d = delimiter && d ≠ '&' then delimited delimiter hasSets fuel false (d :: sofar) rest
        else if d = '\n' && hasSets then delimited delimiter hasSets fuel false (d :: sofar) rest
        else delimited delimiter hasSets fuel false (d :: '\\' :: sofar) rest
    else if hasSets && !inSet && c = '[' then
      -- A bracket in the first place of a set does not close it.
      let (start, rest) := match rest with
        | '^' :: ']' :: rest => ([']', '^'], rest)
        | '^' :: rest => (['^'], rest)
        | ']' :: rest => ([']'], rest)
        | rest => ([], rest)
      delimited delimiter hasSets fuel true (start ++ c :: sofar) rest
    else if inSet && c = '[' then
      match rest with
      | d :: after =>
        if d = ':' || d = '.' || d = '=' then
          match Regex.upToPair d ']' after with
          | some (name, after) =>
            delimited delimiter hasSets fuel true (([']', d] ++ name.reverse) ++ d :: c :: sofar) after
          | none => delimited delimiter hasSets fuel true (c :: sofar) rest
        else delimited delimiter hasSets fuel true (c :: sofar) rest
      | [] => none
    else if inSet && c = ']' then delimited delimiter hasSets fuel false (c :: sofar) rest
    else if c = '\n' && hasSets && !inSet then none
    else delimited delimiter hasSets fuel inSet (c :: sofar) rest

/-- Reads a text up to a delimiter, or fails with a message. -/
def readDelimited (delimiter : Char) (hasSets : Bool) (message : String) : ReadM (List Char) := do
  let chars ← get
  match delimited delimiter hasSets (chars.length + 1) false [] chars with
  | some (text, rest) =>
    set rest
    return text
  | none =>
    set ([] : List Char)
    refuse message

/-- Puts characters in the place of escapes that name them, in the text of a regular expression. -/
def unescapeSearch : Nat → List Char → List Char
  | 0, chars => chars
  | _, [] => []
  | fuel + 1, '\\' :: rest =>
    match rest with
    | 'n' :: rest => '\n' :: unescapeSearch fuel rest
    | rest =>
      match special? rest with
      | some (c, rest) =>
        if "$*.[\\]^".contains c then '\\' :: c :: unescapeSearch fuel rest
        else c :: unescapeSearch fuel rest
      | none =>
        match rest with
        | [] => ['\\']
        | c :: rest => '\\' :: c :: unescapeSearch fuel rest
  | fuel + 1, c :: rest => c :: unescapeSearch fuel rest

/-- A regular expression, and how many groups it has. Its text may be empty. -/
def searchOf (dialect : Regex.Dialect) (chars : List Char) (foldsCase hasLines : Bool) :
    ReadM (Search × Nat) := do
  if chars.isEmpty then return ({ regex := none, foldsCase, hasLines }, 9)
  let text := String.ofList (unescapeSearch (chars.length + 1) chars)
  match Regex.read dialect text with
  | .ok (regex, groups) => return ({ regex, foldsCase, hasLines }, groups)
  | .error .bareClass => throw (.plain 1 Regex.Fault.bareClass.message)
  | .error fault => refuse fault.message

/-! ## Addresses -/

/-- Reads an address, if there is one. -/
def readAddress (dialect : Regex.Dialect) : ReadM (Option Address) := do
  match ← peek? with
  | some '$' =>
    discard next?
    return some .last
  | some c =>
    if c = '/' || c = '\\' then
      discard next?
      let delimiter ←
        if c = '/' then pure '/'
        else
          match ← next? with
          | some c => pure c
          | none => refuse "unexpected `,'"
      let chars ← readDelimited delimiter true "unterminated address regex"
      let flags ← readWhile fun c => c = 'I' || c = 'M'
      let (search, _) ← searchOf dialect chars (flags.contains 'I') (flags.contains 'M')
      return some (.found search)
    else
      match ← readNumber with
      | none => return none
      | some number =>
        skipBlanks
        if (← peek?) = some '~' then
          discard next?
          let step ← readNumber
          return some (if step.getD 0 = 0 then .line number else .step number (step.getD 0))
        else return some (.line number)
  | none => return none

def readRangeEnd (dialect : Regex.Dialect) : ReadM RangeEnd := do
  skipBlanks
  match ← peek? with
  | some '+' =>
    discard next?
    return .later ((← readNumber).getD 0)
  | some '~' =>
    discard next?
    return .multiple ((← readNumber).getD 0)
  | _ =>
    match ← readAddress dialect with
    | some address => return .address address
    | none => do
      discard next?
      refuse "unexpected `,'"

/-- Reads which lines a command is for. -/
def readSelector (dialect : Regex.Dialect) : ReadM Selector := do
  let first ← readAddress dialect
  skipBlanks
  let stop ←
    if first.isSome && (← peek?) = some ',' then do
      discard next?
      pure (some (← readRangeEnd dialect))
    else pure none
  match first, stop with
  | some (.line 0), some (.address (.found _)) => pure ()
  | some (.line 0), _ =>
    discard next?
    refuse "invalid usage of line address 0"
  | _, _ => pure ()
  skipBlanks
  let inverted ←
    if (← peek?) = some '!' then do
      discard next?
      skipBlanks
      if (← peek?) = some '!' then
        discard next?
        refuse "multiple `!'s"
      pure true
    else pure false
  return { first, stop, inverted }

/-! ## Commands -/

def readEnd : ReadM Unit := do
  skipBlanks
  match ← peek? with
  | none | some '\x7d' | some '#' => return
  | some c =>
    discard next?
    if c ≠ ';' && c ≠ '\n' then refuse "extra characters after command"

/-- Reads the name of a file, which goes on to the end of the line. -/
def readPath : ReadM String := do
  skipBlanks
  let path ← readWhile (· ≠ '\n')
  if path.isEmpty then refuse "missing filename in r/R/w/W commands"
  discard next?
  return path

/-- A text up to a line break that no backslash stands before. -/
def textLine : Nat → List Char → List Char × List Char
  | 0, rest => ([], rest)
  | _, [] => ([], [])
  | _, '\n' :: rest => ([], rest)
  | fuel + 1, '\\' :: rest =>
    match special? rest with
    | some (c, rest) =>
      let (text, rest) := textLine fuel rest
      (c :: text, rest)
    | none =>
      match rest with
      | [] => ([], [])
      | c :: rest =>
        let (text, rest) := textLine fuel rest
        ((if c = 'n' then '\n' else c) :: text, rest)
  | fuel + 1, c :: rest =>
    let (text, rest) := textLine fuel rest
    (c :: text, rest)

def readText : ReadM String := do
  skipBlanks
  match ← get with
  | [] => refuse "expected \\ after `a', `c' or `i'"
  | '\\' :: rest =>
    let after := rest.dropWhile isBlank
    let chars ← match after with
      | [] => pure []
      | '\n' :: after => pure after
      | _ => pure rest
    match after, chars with
    | [], _ =>
      set ([] : List Char)
      return ""
    | '\n' :: _, chars =>
      let (text, rest) := textLine (chars.length + 1) chars
      set rest
      return String.ofList text ++ "\n"
    | _, c :: more =>
      let (text, rest) := textLine (more.length + 1) more
      set rest
      return String.ofList (c :: text) ++ "\n"
    | _, [] => return ""
  | chars =>
    let (text, rest) := textLine (chars.length + 1) chars
    set rest
    return String.ofList text ++ "\n"

/-- Reads the name of a place in a script. -/
def readLabel (stopsAtBrace : Bool) : ReadM String := do
  skipBlanks
  let name ← readWhile fun c => !isSpace c && c ≠ ';' && !(stopsAtBrace && c = '\x7d')
  return name

/-- Reads what takes the place of a match. -/
def replacementOf : Nat → List Char → List Char → List Replacement
  | 0, _, _ => []
  | fuel + 1, sofar, chars =>
    let flushed (rest : List Replacement) : List Replacement :=
      if sofar.isEmpty then rest else .text (String.ofList sofar.reverse) :: rest
    match chars with
    | [] => flushed []
    | '&' :: rest => flushed (.group 0 :: replacementOf fuel [] rest)
    | '\\' :: rest =>
      match rest with
      | [] => replacementOf fuel ('\\' :: sofar) []
      | 'n' :: rest => replacementOf fuel ('\n' :: sofar) rest
      | 'U' :: rest => flushed (.casing .upper :: replacementOf fuel [] rest)
      | 'L' :: rest => flushed (.casing .lower :: replacementOf fuel [] rest)
      | 'E' :: rest => flushed (.casing .keep :: replacementOf fuel [] rest)
      | 'u' :: rest => flushed (.once .upper :: replacementOf fuel [] rest)
      | 'l' :: rest => flushed (.once .lower :: replacementOf fuel [] rest)
      | c :: after =>
        if c.isDigit then flushed (.group (c.toNat - 48) :: replacementOf fuel [] after)
        else
          match special? rest with
          | some (c, rest) => replacementOf fuel (c :: sofar) rest
          | none => replacementOf fuel (c :: sofar) after
    | c :: rest => replacementOf fuel (c :: sofar) rest

/-- What may stand behind a substitution. -/
structure SubstitutionFlags where
  foldsCase : Bool := false
  hasLines : Bool := false
  all : Bool := false
  prints : Bool := false
  first : Option Nat := none
  file : Option String := none

def readFlags : Nat → SubstitutionFlags → ReadM SubstitutionFlags
  | 0, flags => return flags
  | fuel + 1, flags => do
    match ← peek? with
    | none => return flags
    | some c =>
      if c = '\x7d' || c = '#' then return flags
      else if c.isDigit then
        let number := (← readNumber).getD 0
        if number = 0 then refuse "number option to `s' command may not be zero"
        if flags.first.isSome then refuse "multiple number options to `s' command"
        readFlags fuel { flags with first := some number }
      else
        discard next?
        match c with
        | 'i' | 'I' => readFlags fuel { flags with foldsCase := true }
        | 'm' | 'M' => readFlags fuel { flags with hasLines := true }
        | 'e' => readFlags fuel flags
        | 'p' =>
          if flags.prints then refuse "multiple `p' options to `s' command"
          readFlags fuel { flags with prints := true }
        | 'g' =>
          if flags.all then refuse "multiple `g' options to `s' command"
          readFlags fuel { flags with all := true }
        | 'w' => return { flags with file := some (← readPath) }
        | ';' | '\n' => return flags
        | ' ' | '\t' | '\r' => readFlags fuel flags
        | _ => refuse "unknown option to `s'"

def readSubstitution (dialect : Regex.Dialect) : ReadM Verb := do
  let unterminated := "unterminated `s' command"
  match ← next? with
  | none => refuse unterminated
  | some delimiter =>
    if delimiter = '\n' || delimiter = '\\' then refuse unterminated
    let searched ← readDelimited delimiter true unterminated
    let replaced ← readDelimited delimiter false unterminated
    let flags ← readFlags ((← get).length + 1) {}
    let (search, groups) ← searchOf dialect searched flags.foldsCase flags.hasLines
    let parts := replacementOf (replaced.length + 1) [] replaced
    let wanted := parts.foldl
      (fun most part =>
        match part with
        | .group number => max most number
        | _ => most)
      0
    if groups < wanted then
      refuse ("invalid reference \\" ++ toString wanted ++ " on `s' command's RHS")
    return .substitute {
      search, parts, first := flags.first.getD 1, all := flags.all, prints := flags.prints, file := flags.file }

/-- The characters of a list of characters. -/
def listedChars : Nat → List Char → Option (List Char)
  | 0, _ => some []
  | _, [] => some []
  | fuel + 1, '\\' :: rest =>
    match rest with
    | '\\' :: rest => (listedChars fuel rest).map ('\\' :: ·)
    | 'n' :: rest => (listedChars fuel rest).map ('\n' :: ·)
    | rest =>
      match special? rest with
      | some (c, rest) => (listedChars fuel rest).map (c :: ·)
      | none => (listedChars fuel rest).map ('\\' :: ·)
  | fuel + 1, c :: rest => (listedChars fuel rest).map (c :: ·)

/-- Reads which characters take the place of which. -/
def readExchange : ReadM Verb := do
  let unterminated := "unterminated `y' command"
  match ← next? with
  | none => refuse unterminated
  | some delimiter =>
    let source ← readDelimited delimiter false unterminated
    let target ← readDelimited delimiter false unterminated
    let source := (listedChars (source.length + 1) source).getD []
    let target := (listedChars (target.length + 1) target).getD []
    if source.length ≠ target.length then refuse "strings for `y' command are different lengths"
    readEnd
    return .exchangeChars (source.zip target)

/-- Reads the end of a command that has no more to it. -/
def ended (verb : Verb) : ReadM Verb := do
  readEnd
  return verb

/-- Reads what a command does after its letter. -/
def readVerb (dialect : Regex.Dialect) (selector : Selector) (letter : Char) : ReadM Verb := do
  let single : ReadM Unit :=
    if selector.stop.isSome then refuse "command only uses one address" else pure ()
  match letter with
  | '\x7b' => return .opening
  | '\x7d' =>
    if selector.first.isSome then refuse "\x7d doesn't want any addresses"
    ended .closing
  | ':' =>
    if selector.first.isSome then refuse ": doesn't want any addresses"
    let name ← readLabel false
    if name.isEmpty then refuse "\":\" lacks a label"
    return .label name
  | 'b' => do
    let name ← readLabel true
    ended (.jump .always name)
  | 't' => do
    let name ← readLabel true
    ended (.jump .ifReplaced name)
  | 'T' => do
    let name ← readLabel true
    ended (.jump .unlessReplaced name)
  | 'a' => return .append (← readText)
  | 'i' => return .insert (← readText)
  | 'c' => return .change (← readText)
  | 'd' => ended .delete
  | 'D' => ended .deleteFirst
  | 'g' => ended .get
  | 'G' => ended .getMore
  | 'h' => ended .hold
  | 'H' => ended .holdMore
  | 'x' => ended .exchange
  | 'l' => do
    skipBlanks
    let width ← readNumber
    ended (.show width)
  | 'n' => ended .next
  | 'N' => ended .nextMore
  | 'p' => ended .print
  | 'P' => ended .printFirst
  | 'q' | 'Q' => do
    single
    skipBlanks
    let code ← readNumber
    ended (.quit (code.getD 0) (letter = 'q'))
  | 'r' => return .readFile (← readPath)
  | 'R' => return .readLine (← readPath)
  | 'w' => return .write (← readPath)
  | 'W' => return .writeFirst (← readPath)
  | 's' => readSubstitution dialect
  | 'y' => readExchange
  | '=' => ended .number
  | 'F' => ended .name
  | 'z' => ended .clear
  | 'v' => do
    discard (readLabel true)
    ended .nothing
  | c => refuse ("unknown command: `" ++ String.singleton c ++ "'")

/-- Reads commands up to the end of a script. The number says how many blocks are open. -/
def readCommands (dialect : Regex.Dialect) : Nat → Nat → ReadM (List Command)
  | 0, _ => return []
  | fuel + 1, depth => do
    discard (readWhile fun c => isSpace c || c = ';')
    match ← peek? with
    | none => if depth = 0 then return [] else throw (.whole "unmatched `\x7b'")
    | some '#' =>
      discard (readWhile (· ≠ '\n'))
      readCommands dialect fuel depth
    | some _ =>
      let selector ← readSelector dialect
      match ← next? with
      | none => refuse "missing command"
      | some '#' => refuse "comments don't accept any addresses"
      | some letter =>
        if letter = '\x7d' && depth = 0 then refuse "unexpected `\x7d'"
        let verb ← readVerb dialect selector letter
        let depth := match verb with
          | .opening => depth + 1
          | .closing => depth - 1
          | _ => depth
        let more ← readCommands dialect fuel depth
        return { selector, verb } :: more

/-- The labels that a script jumps to and does not have. -/
def missingLabels (commands : List Command) : List String :=
  let labels := commands.filterMap fun command =>
    match command.verb with
    | .label name => some name
    | _ => none
  commands.filterMap fun command =>
    match command.verb with
    | .jump _ target => if target.isEmpty || labels.contains target then none else some target
    | _ => none

def read (dialect : Regex.Dialect) (text : String) : Except Fault (List Command) := do
  let chars := text.toList
  let (commands, _) ← (readCommands dialect (chars.length + 1) 0).run chars
  match missingLabels commands with
  | [] => return commands
  | label :: _ => throw (.plain 1 ("can't find label for jump to `" ++ label ++ "'"))

end Shell.Machine.Edit
