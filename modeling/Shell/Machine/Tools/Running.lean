import Shell.Machine.Utility.Tool
import Shell.Machine.Utility.Decimal

/-! # Programs that run programs

`timeout`, `nice` and the like become other programs or start them; `sleep` and `kill` only concern processes.
-/

namespace Shell.Machine.ToolM

/-- Becomes the program at a path. A file that holds no program counts as a script. -/
def becomeAt (path : String) (arguments environment : List String) : ToolM SystemError := do
  match ← ask (.execute path arguments environment) with
  | .notAProgram => ask (.execute "/bin/sh" ("/bin/sh" :: path :: arguments.drop 1) environment)
  | error => return error

/-- Becomes the first program that can be executed in some directories. -/
def becomeIn (arguments environment : List String) : SystemError → List String → ToolM SystemError
  | error, [] => return error
  | error, place :: rest => do
    let name := arguments.headD ""
    let path := if place.isEmpty then name else place ++ "/" ++ name
    match ← becomeAt path arguments environment with
    | .missing | .notADirectory => becomeIn arguments environment error rest
    | .denied => becomeIn arguments environment .denied rest
    | other => return other

/-- Becomes another program, looked for where an environment says. There is a result only if that fails. -/
def become (arguments environment : List String) : ToolM SystemError := do
  let name := arguments.headD ""
  if name.contains '/' then becomeAt name arguments environment
  else
    let path := (environment.find? fun entry => entry.startsWith "PATH=").map fun entry =>
      (entry.drop 5).toString
    becomeIn arguments environment .missing ((path.getD "/bin:/usr/bin").splitOn ":")

/-- The status of a program that could not become another one. -/
def becomeStatus (error : SystemError) : Nat :=
  if error = .missing then 127 else 126

/-- Starts a child that does something and then ends with a status. -/
def fork (child : ToolM Nat) : ToolM Nat :=
  fun tool next =>
    .fork ((child.run tool) fun (code, _) => .exit code) fun number => next (number, tool)

/-! ## Time -/

/-- So many microseconds make up a unit of time. -/
def unit? : List Char → Option Nat
  | [] => some 1000000
  | ['s'] => some 1000000
  | ['m'] => some 60000000
  | ['h'] => some 3600000000
  | ['d'] => some 86400000000
  | _ => none

/-- The microseconds that a text names. -/
def duration? (text : String) : Option Nat :=
  match Decimal.read 64 text with
  | some (.finite negative ratio, rest) => do
    let unit ← unit? rest
    if negative && ratio.dividend ≠ 0 then none
    else some ((ratio.dividend * unit + ratio.divisor - 1) / ratio.divisor)
  | some (.infinite false, rest) => (unit? rest).map fun _ => 1000000000000000000
  | _ => none

/-- Waits. -/
def sleep : ToolM Unit := do
  let arguments ← readArguments 1 false []
  if arguments.operands.isEmpty then missingOperand
  let mut time := 0
  let mut wrong := false
  for text in arguments.operands do
    match duration? text with
    | some more => time := time + more
    | none =>
      report ("invalid time interval " ++ Quote.text text)
      wrong := true
  if wrong then advise 1
  ask (.pause time)

/-- How long a program waits before it looks again whether a child has ended. -/
def lookInterval : Nat := 1000

/-- Waits until a child has ended, but only for so long. -/
def awaitFor (child : Nat) : Nat → Nat → ToolM (Option Ending)
  | 0, _ => return none
  | fuel + 1, time => do
    match ← ask (.await (some child) .none) with
    | .ok (some (_, ending)) => return some ending
    | .ok none =>
      if time = 0 then return none
      let step := min lookInterval time
      ask (.pause step)
      awaitFor child fuel (time - step)
    | .error _ => return none

/-- Waits until a child has ended. -/
def awaitChild (child : Nat) : Nat → ToolM (Option Ending)
  | 0 => return none
  | fuel + 1 => do
    match ← ask (.await (some child) .untilEnded) with
    | .ok (some (_, ending)) => return some ending
    | .ok none => awaitChild child fuel
    | .error _ => return none

def signal? (text : String) : Option Signal :=
  match Numeral.natural? text with
  | some number => if number ≤ Signal.greatest then some number else none
  | none =>
    let upper := text.toUpper
    Signal.ofName? (if upper.startsWith "SIG" then (upper.drop 3).toString else upper)

def statusOf : Ending → Nat
  | .exited code => code
  | .signaled signal => 128 + signal

/-- Runs a program, but only for so long. -/
def timeout : ToolM Unit := do
  let arguments ← readArguments 125 true
    ["k,kill-after,:", "s,signal,:", ",preserve-status", ",foreground", "v,verbose"]
  match arguments.operands with
  | [] => advise 125
  | [_] => advise 125
  | time :: command =>
    let some limit := duration? time
      | misuse 125 ("invalid time interval " ++ Quote.text time)
    let signal ← match arguments.value? "s" with
      | none => pure Signal.terminate
      | some text =>
        match signal? text with
        | some signal => pure signal
        | none => misuse 125 (Quote.text text ++ ": invalid signal")
    let child ← fork do
      let error ← become command (← get).environment
      report ("failed to run command " ++ Quote.text (command.headD "") ++ ": " ++ error.text)
      return becomeStatus error
    let isLimited := limit ≠ 0
    let ended ← if isLimited then awaitFor child patience limit else awaitChild child patience
    match ended with
    | some ending => quit (statusOf ending)
    | none =>
      discard (ask (.send child signal))
      let later ← match (arguments.value? "k").bind duration? with
        | none => awaitChild child patience
        | some time => do
          match ← awaitFor child patience time with
          | some ending => pure (some ending)
          | none =>
            discard (ask (.send child Signal.kill))
            awaitChild child patience
      let status := (later.map statusOf).getD 124
      if later = some (.signaled Signal.kill) then
        let self : Nat ← ask .ownNumber
        discard (ask (.send self Signal.kill))
      quit (if arguments.has "preserve-status" then status else 124)

/-- The argument of an option that is a number after a hyphen, as in `-5`, `--5` and `-+5`. -/
def bareNumber? (text : String) : Option String :=
  match text.toList with
  | '-' :: rest =>
    let digits := match rest with
      | '-' :: digits | '+' :: digits => digits
      | digits => digits
    if digits.head?.any Char.isDigit then some (String.ofList rest) else none
  | _ => none

/-- Reads the options of `nice`: the number that was given last, and the other arguments. -/
def readAdjustment : Nat → Option String → List String → Except String (Option String × List String)
  | 0, given, rest => .ok (given, rest)
  | _, given, [] => .ok (given, [])
  | fuel + 1, given, first :: rest => do
    match bareNumber? first with
    | some number => readAdjustment fuel (some number) rest
    | none =>
      if !first.startsWith "-" || first = "-" then return (given, first :: rest)
      if first = "--" then return (given, rest)
      let found ← (OptionTable.ofEntries true ["n,adjustment,:"]).read (first :: rest.take 1)
      readAdjustment fuel (found.value? "n") (rest.drop (1 - found.operands.length))

/-- Runs a program as if it mattered less. -/
def nice : ToolM Unit := do
  let given := (← get).arguments
  let (adjustment, command) ← match readAdjustment (given.length + 1) none given with
    | .ok found => pure found
    | .error text => misuse 125 text
  let change : Int ← match adjustment with
    | none => pure 10
    | some text =>
      match Numeral.whole? text with
      | some value => pure value
      | none => fail 125 ("invalid adjustment " ++ Quote.text text)
  if command.isEmpty then
    if adjustment.isSome then misuse 125 "a command must be given with an adjustment"
    let own : Int ← ask (.priority 0)
    print (toString own ++ "\n")
  else
    let _own : Int ← ask (.priority change)
    let error ← become command (← get).environment
    fail (becomeStatus error) (Quote.text (command.headD "") ++ ": " ++ error.text)

/-- Runs a program that goes on when others hang up. -/
def nohup : ToolM Unit := do
  let arguments ← readArguments 125 true []
  let command := arguments.operands
  if command.isEmpty then misuse 125 "missing operand"
  ask (.arrange 1 .ignored)
  let error ← become command (← get).environment
  fail (becomeStatus error)
    ("failed to run command " ++ Quote.text (command.headD "") ++ ": " ++ error.text)

/-! ## Signals -/

/-- Sends signals to processes. -/
def kill : ToolM Unit := do
  let given := (← get).arguments
  let (signal, targets) ← match given with
    | "-s" :: name :: rest | "--signal" :: name :: rest => pure (signal? name, rest)
    | "-l" :: name :: _ => do
      match signal? name, name.toNat? with
      | none, _ =>
        report ("unknown signal name " ++ name)
        quit 0
      | some signal, some _ => print (signalName signal ++ "\n")
      | some signal, none => print (toString signal ++ "\n")
      quit 0
    | ["-l"] => do
      print signalList
      quit 0
    | "--" :: rest => pure (some Signal.terminate, rest)
    | first :: rest =>
      if first.startsWith "-" && first.length > 1 then option (first.drop 1).toString rest
      else pure (some Signal.terminate, given)
    | [] => pure (some Signal.terminate, [])
  if targets.isEmpty then
    explain
    quit 1
  for text in targets do
    match Numeral.whole? text with
    | none => complain ("failed to parse argument: '" ++ text ++ "'")
    | some number =>
      match ← ask (.send number (signal.getD 0)) with
      | .ok _ =>
        if signal.isNone then complain ("(" ++ text ++ "): " ++ SystemError.invalid.text)
      | .error error => complain ("(" ++ text ++ "): " ++ error.text)
where
  /-- The name of a signal. That of input and output goes by what it reports. -/
  signalName (signal : Signal) : String :=
    if signal = 29 then "POLL" else Signal.name signal
  /-- The names of all signals. -/
  signalList : String :=
    let names (low high : Nat) : String :=
      " ".intercalate ((List.range (high - low)).map fun n => signalName (low + n)) ++ "\n"
    names 1 17 ++ names 17 32
  /-- Shows how the program is called. -/
  explain : ToolM Unit :=
    let lines := ["", "Usage:", " kill [options] <pid> [...]", "", "Options:",
      " <pid> [...]            send signal to every <pid> listed",
      " -<signal>, -s, --signal <signal>",
      "                        specify the <signal> to be sent",
      " -q, --queue <value>    integer value to be sent with the signal",
      " -l, --list=[<signal>]  list all signal names, or convert one to a name",
      " -L, --table            list all signal names in a nice table",
      "", " -h, --help     display this help and exit", " -V, --version  output version information and exit",
      "", "For more details see kill(1).", ""]
    discard (ask (.write 2 (Octets.toBytes ("\n".intercalate lines))))
  /-- The signal that an option names, which has to begin like one. -/
  option (name : String) (rest : List String) : ToolM (Option Signal × List String) := do
    match signal? name with
    | some signal => return (some signal, rest)
    | none =>
      report ("invalid argument " ++ (name.take 1).toString)
      explain
      abort 1

end Shell.Machine.ToolM
