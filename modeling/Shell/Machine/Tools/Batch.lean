import Shell.Machine.Tools.Lines
import Shell.Machine.Tools.Running

/-! # Commands for what is read

The program that divides its input into arguments and runs a command for them, as often as it takes. Where the input
cannot be read on, the command still runs for what came before.
-/

namespace Shell.Machine

namespace Batch

/-- Something that is read from the input. -/
inductive Item where
  | argument (text : String)
  /-- The end of a line that is not empty. -/
  | lineEnd
  /-- A quote that nothing closes. -/
  | unmatched (quote : Char)
deriving Repr, DecidableEq, Inhabited

/-- How input is divided. -/
structure Manner where
  /-- Whether an argument goes on to the end of a line. -/
  whole : Bool := false
  /-- An argument that ends the input. -/
  stop : Option String := none
deriving Repr, DecidableEq, Inhabited

/-- Divides text at blanks, in which quotes and backslashes mean what they mean to a shell. Items come in order. -/
def items (manner : Manner) : Nat → Option (List Char) → List Char → List Item
  | 0, _, _ => []
  | _, none, [] => []
  | _, some chars, [] =>
    if chars.isEmpty then [] else finish chars [.lineEnd]
  | fuel + 1, none, c :: rest =>
    if Numeral.isBlank c then items manner fuel none rest else items manner fuel (some []) (c :: rest)
  | fuel + 1, some chars, c :: rest =>
    if c = '\n' then finish chars (.lineEnd :: items manner fuel none rest)
    else if !manner.whole && (c = ' ' || c = '\t') then finish chars (items manner fuel none rest)
    else if c = '\'' || c = '"' then
      let (text, after) := rest.span fun d => d ≠ c && d ≠ '\n'
      match after with
      | d :: after => if d = c then quoted fuel (text.reverse ++ chars) after else [.unmatched c]
      | [] => [.unmatched c]
    else if c = '\\' then
      match rest with
      | d :: rest => items manner fuel (some (d :: chars)) rest
      | [] => items manner fuel (some chars) []
    else items manner fuel (some (c :: chars)) rest
where
  /-- Ends an argument, and everything if it is the one that does so. -/
  finish (chars : List Char) (rest : List Item) : List Item :=
    let text := String.ofList chars.reverse
    if manner.stop = some text then [] else .argument text :: rest
  /-- Goes on after a quoted part. -/
  quoted (fuel : Nat) (chars : List Char) (rest : List Char) : List Item :=
    items manner fuel (some chars) rest

/-- How many arguments a command gets. -/
structure Limits where
  arguments : Option Nat := none
  lines : Option Nat := none
  /-- The most that a command may take up. -/
  size : Nat := 131072

/-- The commands that items make up. -/
inductive Order where
  | run (arguments : List String)
  | unmatched (quote : Char)
  | tooLong
deriving Repr, DecidableEq, Inhabited

/-- How much an argument takes up. -/
def sizeOf (text : String) : Nat := text.length + 1

/-- Collects arguments for commands; those that were collected last come first. -/
def orders (limits : Limits) (start : Nat) : List String → Nat → Nat → List Item → List Order
  | sofar, _, _, [] => if sofar.isEmpty then [] else [.run sofar.reverse]
  | sofar, _, _, .unmatched quote :: _ =>
    (if sofar.isEmpty then [] else [.run sofar.reverse]) ++ [.unmatched quote]
  | sofar, size, lines, .lineEnd :: rest =>
    if limits.lines.any (· ≤ lines + 1) then
      (if sofar.isEmpty then [] else [.run sofar.reverse]) ++ orders limits start [] start 0 rest
    else orders limits start sofar size (lines + 1) rest
  | sofar, size, lines, .argument text :: rest =>
    if limits.size < start + sizeOf text then
      (if sofar.isEmpty then [] else [.run sofar.reverse]) ++ [.tooLong]
    else
      let isFull := limits.size < size + sizeOf text || limits.arguments.any (· ≤ sofar.length)
      if isFull && !sofar.isEmpty then
        .run sofar.reverse :: orders limits start [text] (start + sizeOf text) 0 rest
      else orders limits start (text :: sofar) (size + sizeOf text) lines rest

/-- One command for each argument. -/
def single : List Item → List Order
  | [] => []
  | .argument text :: rest => .run [text] :: single rest
  | .lineEnd :: rest => single rest
  | .unmatched quote :: _ => [.unmatched quote]

/-- The character that separates arguments, as it is written. -/
def delimiter? (text : String) : Except String Char :=
  match text.toList with
  | [c] => .ok c
  | '\\' :: rest =>
    match Escape.replace { hexadecimal := true, leadingZero := true } rest with
    | .text [c] [] => .ok c
    | _ => .error ("Invalid escape sequence " ++ text ++ " in input delimiter specification.")
  | _ =>
    .error ("Invalid input delimiter specification " ++ text ++
      ": the delimiter must be either a single character or an escape sequence starting with \\.")

/-- The options that exclude one another, and how each is called in a report. -/
def exclusive : List (String × String × String) := [
  ("I", "--replace", "--replace/-I/-i"), ("i", "--replace", "--replace/-I/-i"), ("L", "--max-lines", "-L"),
  ("l", "--max-lines", "--max-lines/-l"), ("n", "--max-args", "--max-args/-n")]

end Batch

namespace ToolM

open Batch

/-- What comes of a command: a status, or none if it could not be run. -/
def endBatch (name : String) (ending : Option Ending) : ToolM Nat := do
  match ending with
  | some (.exited 0) | none => return 0
  | some (.exited 255) => fail 124 (name ++ ": exited with status 255; aborting")
  | some (.exited _) => return 123
  | some (.signaled signal) => fail 125 (name ++ ": terminated by signal " ++ toString signal)

/-- Runs a command and waits for it. A command that cannot be run ends the program. -/
def runBatch (command : List String) : ToolM Nat := do
  flush
  let (reading, writing) : Nat × Nat ← ask .makePipe
  let environment := (← get).environment
  let child ← fork do
    discard (ask (.close reading))
    let kept : Nat ← match ← ask (.duplicate writing 10) with
      | .ok kept => pure kept
      | .error _ => pure writing
    discard (ask (.close writing))
    discard (ask (.close 0))
    discard (ask (.openFile "/dev/null" { read := true } 0))
    let error ← become command environment
    report (command.headD "" ++ ": " ++ error.text)
    discard (ask (.write kept (Octets.toBytes (if error = .missing || error = .notADirectory then "m" else "d"))))
    return becomeStatus error
  discard (ask (.close writing))
  let (failure, _) ← readAll reading
  discard (ask (.close reading))
  let ending ← awaitChild child patience
  if failure.isEmpty then endBatch (command.headD "") ending
  else abort (if failure = "m" then 127 else 126)

/-- The options with their values, where a later one of those that exclude one another takes the place of others. -/
def chooseExclusive (arguments : Arguments) : ToolM Arguments := do
  let mut chosen : Option String := none
  let mut dropped : List String := []
  for option in arguments.options do
    match exclusive.lookup option.name with
    | none => pure ()
    | some (own, called) =>
      match chosen.bind fun name => exclusive.lookup name with
      | none => chosen := some option.name
      | some (before, _) =>
        if before = "--replace" && own = "--max-args" && option.value = "1" then dropped := "n" :: dropped
        else
          if before ≠ own then
            report ("warning: options " ++ before ++ " and " ++ called ++
              " are mutually exclusive, ignoring previous " ++ before ++ " value")
            dropped := chosen.toList ++ dropped
          chosen := some option.name
  let given := dropped
  return { arguments with options := arguments.options.filter fun option => !given.contains option.name }

/-- Runs a command with arguments from the input. -/
def xargs : ToolM Unit := do
  let arguments ← readArguments 1 true
    ["0,null", "d,delimiter,:", "n,max-args,:", "I,,:", "i,replace,?", "L,,:", "l,max-lines,?", "E,,:", "e,eof,?",
      "r,no-run-if-empty", "t,verbose", "P,max-procs,:", "s,max-chars,:", "x,exit", "a,arg-file,:", "p,interactive",
      "o,open-tty", ",show-limits", ",process-slot-var,:"]
  let number (name : String) (least : Nat) : ToolM (Option Nat) := do
    match arguments.value? name with
    | none => return none
    | some text =>
      match Numeral.whole? text with
      | none => misuse 1 ("invalid number \"" ++ text ++ "\" for -" ++ name ++ " option")
      | some value =>
        if value < least then
          misuse 1 ("value " ++ text ++ " for -" ++ name ++ " option should be >= " ++ toString least)
        return some value.toNat
  let most ← number "n" 1
  let lines ← number "L" 1
  discard (number "P" 0)
  let size ← number "s" 1
  let arguments ← chooseExclusive arguments
  let command := if arguments.operands.isEmpty then ["echo"] else arguments.operands
  let separator : Option Char ← match arguments.value? "d" with
    | some text =>
      match delimiter? text with
      | .ok c => pure (some c)
      | .error text => fail 1 text
    | none => pure (if arguments.has "0" then some '\x00' else none)
  let descriptor ← match arguments.value? "a" with
    | none | some "-" => pure 0
    | some path =>
      match ← openInput path with
      | .ok descriptor => pure descriptor
      | .error error => fail 1 ("Cannot open input file " ++ Quote.text path ++ ": " ++ error.text)
  let (text, _) ← readAll descriptor
  let mark : Option String := match arguments.last? ["I", "i"] with
    | none => none
    | some name => some (match (arguments.value? name).getD "" with
      | "" => "\x7b\x7d"
      | text => text)
  let found : List Item := match separator with
    | some c =>
      let items := text.splitOn (String.singleton c)
      let items := if items.getLast? = some "" then items.dropLast else items
      items.flatMap fun text => [.argument text, .lineEnd]
    | none =>
      let stop := ((arguments.value? "E").orElse fun _ => arguments.value? "e").filter fun text => !text.isEmpty
      items { whole := mark.isSome, stop } (2 * text.length + 2) none text.toList
  let start := (command.map sizeOf).foldl (· + ·) 0
  let limits : Limits := {
    arguments := if arguments.has "n" then most else none
    lines := if arguments.has "L" then lines
      else if arguments.has "l" then some ((arguments.value? "l").bind String.toNat?|>.getD 1) else none
    size := min (size.getD 131072) 131072 }
  let orders := match mark with
    | some _ => single found
    | none =>
      match orders limits start [] start 0 found with
      | [] => if arguments.has "r" then [] else [.run []]
      | orders => orders
  let mut status := 0
  for order in orders do
    match order with
    | .unmatched c =>
      fail 1 ("unmatched " ++ (if c = '"' then "double" else "single") ++
        " quote; by default quotes are special to xargs unless you use the -0 option")
    | .tooLong => fail 1 "argument line too long"
    | .run found =>
      let batch := match mark with
        | some mark => command.map fun word => word.replace mark (found.headD "")
        | none => command ++ found
      if arguments.has "t" then
        discard (ask (.write 2 (Octets.toBytes (" ".intercalate (batch.map Quote.ifNeeded) ++ "\n"))))
      match ← runBatch batch with
      | 0 => pure ()
      | code => status := code
  quit status

end ToolM

end Shell.Machine
