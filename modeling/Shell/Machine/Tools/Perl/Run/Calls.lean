import Shell.Machine.Tools.Perl.Functions
import Shell.Machine.Tools.Perl.Run.Search
import Shell.Machine.Tools.Perl.Pack

/-! # Calls of general programs

How functions and methods are found and called.
-/

/-! ## Values as programs

How `Dumper` writes values: as texts that stand for the same values in a program. What is inside of something is
indented.
-/

namespace Shell.Machine.Perl.PerlM

/-- How values are written. -/
structure DumpStyle where
  /-- Nothing: on one line. One: by depth. Two: by column. -/
  indent : Nat := 2
  sorts : Bool := false
  bare : Bool := false

/-- A text in single quotes. -/
def singleQuoted (text : String) : String :=
  "'" ++ String.ofList (text.toList.flatMap fun c => if c = '\\' || c = '\'' then ['\\', c] else [c]) ++ "'"

/-- True for texts that are written without quotes. -/
def isPlainNumber (text : String) : Bool :=
  let digits := if text.startsWith "-" then (text.drop 1).toString else text
  text = "0" || (digits ≠ "" && digits.length ≤ 9 && digits.toList.all Char.isDigit && !digits.startsWith "0")

/-- So many blanks. -/
def blanks (count : Nat) : String := String.ofList (List.replicate count ' ')

/-- A value as a program. `column` is where it begins. -/
def dumpValue (style : DumpStyle) : Nat → Nat → Value → PerlM String
  | 0, _, _ => return "'...'"
  | fuel + 1, column, value => do
    let class_ : Option String ← match value with
      | .reference target => pure (← look fun world => world.blessed[target]?)
      | _ => pure none
    let start := if style.indent = 2 && class_.isSome then column + 7 else column
    let between := if style.indent = 0 then "," else ",\n"
    let inner := start + 2
    let wrap (open_ close : String) (items : List String) : String :=
      if items.isEmpty then open_ ++ close
      else if style.indent = 0 then open_ ++ between.intercalate items ++ close
      else
        open_ ++ "\n" ++ between.intercalate (items.map fun item => blanks inner ++ item) ++ "\n" ++
          blanks start ++ close
    let text : String ← match value with
      | .undefined => pure "undef"
      | .reference (.array id) => do
        let items ← (← arrayValues id).toList.mapM fun item => dumpValue style fuel inner item
        pure (wrap "[" "]" items)
      | .reference (.hash id) => do
        let table ← hashAt id
        let keys := if style.sorts then table.keys.mergeSort else table.keys
        let items ← keys.mapM fun key => do
          let shown := singleQuoted key ++ " => "
          let cell := ((table.cells[key]?).map (·.1)).getD 0
          let column := if style.indent = 2 then inner + shown.length else inner
          return shown ++ (← dumpValue style fuel column (← load cell))
        pure (wrap "\x7b" "\x7d" items)
      | .reference (.cell id) => do pure ("\\" ++ (← dumpValue style fuel (column + 2) (← load id)))
      | .reference (.code _) => pure "sub \x7b \"DUMMY\" \x7d"
      | .reference (.pattern id) =>
        let shown := ((← look fun world => world.patterns[id]?).map (·.text)).getD ""
        let letters := ((shown.drop 3).toString.splitOn ":").headD ""
        let inside := ((shown.drop (4 + letters.length)).dropEnd 1).toString
        pure ("qr/" ++ inside ++ "/" ++ letters)
      | .reference (.handle _) => pure "\\*\x7b'::$fh'\x7d"
      | .whole number =>
        let text := toString number
        pure (if isPlainNumber text then text else singleQuoted text)
      | value => do
        let text ← textOf value
        pure (if isPlainNumber text then text else singleQuoted text)
    return match class_ with
      | some class_ => "bless( " ++ text ++ ", " ++ singleQuoted class_ ++ " )"
      | none => text

/-- Values as programs, each with a name. -/
def dumpAll (values : List Value) : PerlM String := do
  let setting (name : String) : PerlM Value := special ("Data::Dumper::" ++ name)
  let indent ← setting "Indent"
  let style : DumpStyle := {
    indent := if indent.isDefined then min indent.nat 2 else 2, sorts := (← setting "Sortkeys").holds
    bare := (← setting "Terse").holds }
  let texts ← values.zipIdx.mapM fun (value, place) => do
    let name := if style.bare then "" else "$VAR" ++ toString (place + 1) ++ " = "
    let column := if style.indent = 2 then name.length else 0
    let text ← dumpValue style 100 column value
    let newline := if style.indent = 0 && !style.bare then "" else "\n"
    return name ++ text ++ (if style.bare then "" else ";") ++ (if style.indent = 0 && style.bare then "" else newline)
  return String.join texts

end Shell.Machine.Perl.PerlM

/-! ## Calls -/

namespace Shell.Machine.Perl.PerlM

/-- What a call gives, given what the function has arrived at. -/
def resultFor (want : Want) (values : Array Value) : Array Value :=
  match want with
  | .all => values
  | _ => #[(values.back?).getD .undefined]

/-- Carries a function out. -/
def enter (runner : Runner) (id : Nat) (arguments : Array Nat) (want : Want) : PerlM (Array Value) := do
  tick
  let code := (← look fun world => world.codes[id]?).getD default
  if let some values := code.constant then return resultFor want values.toArray
  if let some native := code.native then return resultFor want (← applyNative native want (← arguments.mapM load))
  let (frames, line) ← modifyGet fun world =>
    ((world.frames, world.line),
      { world with
        frames := { function := code.name, package := world.package, line := world.line, want } :: world.frames })
  let leave : PerlM Unit := modify fun world => { world with frames, line }
  let body : PerlM (Array Value) := guarded do
    modify fun world => { world with scope := code.scope.getD world.outer, package := code.package }
    bind ⟨.array, "_"⟩ (← makeArray arguments)
    try runner.block want code.body catch
      | .return_ values => return values
      | jump => throw jump
  let values ← try body catch jump => do
    leave
    throw jump
  leave
  return resultFor want values

def qualified (name : String) : String :=
  if name.contains ':' then name else "main::" ++ name

/-- The package that the name of a function belongs to. -/
def packageOfName (name : String) : String :=
  match (name.splitOn "::").dropLast with
  | [] => "main"
  | parts => "::".intercalate parts

def isModuleFunction (name : String) : Bool :=
  let parts := name.splitOn "::"
  match moduleFunctions.lookup ("::".intercalate parts.dropLast) with
  | some (_, all) => all.contains (parts.getLastD "")
  | none => false

/-- The parts of a path: the name, what is before it, and the first suffix that fits. -/
def pathDivided (path : String) (suffixes : List Value) : PerlM (Array Value) := do
  let name := (path.splitOn "/").getLastD ""
  let before := (path.dropEnd name.length).toString
  let before := if before = "" then "./" else before
  let rec go : List Value → PerlM (String × String)
    | [] => return (name, "")
    | suffix :: rest => do
      let pattern ← patternAt (← patternNumber ("(?:" ++ (← textOf suffix) ++ ")$") ['s'])
      match Ordered.find? { text := name.toList.toArray } pattern.regex 0 with
      | some found => return ((name.take found.span.start).toString, (name.drop found.span.start).toString)
      | none => go rest
  let (name, suffix) ← go suffixes
  return #[.string name, .string before, .string suffix]

/-- Carries out a function of a module. -/
def callModule (name : String) (want : Want) (arguments : Array Value) : PerlM (Array Value) := do
  if name = "Data::Dumper::Dumper" then return #[.string (← dumpAll arguments.toList)]
  if name = "File::Basename::fileparse" then
    return resultFor want (← pathDivided (← textOf (arguments.getD 0 .undefined)) (arguments.toList.drop 1))
  if name.startsWith "Carp::" then
    if let some frame := (← look (·.frames)).head? then
      modify fun world => { world with line := frame.line }
  return resultFor want (← applyNative name want arguments)

/-- The number of a function that has a name and more. -/
def functionNamed (name : String) : PerlM (Option Nat) :=
  look fun world => world.functions[name]?.filter fun id => (world.codes[id]?).any (·.isDefined)

def callNamed (runner : Runner) (name : String) (arguments : Array Nat) (want : Want) : PerlM (Array Value) := do
  match ← functionNamed name with
  | some id => runner.call id arguments want
  | none =>
    if isModuleFunction name then return ← callModule name want (← arguments.mapM load)
    let package := packageOfName name
    match ← functionNamed (inClass package "AUTOLOAD") with
    | some id =>
      setSpecial (if package = "main" then "AUTOLOAD" else package ++ "::AUTOLOAD") (.string (qualified name))
      runner.call id arguments want
    | none => die ("Undefined subroutine &" ++ qualified name ++ " called")

/-- The function that a name stands for, which may still be without a body. -/
def functionReference (name : String) : PerlM Value := do
  match ← look fun world => world.functions[name]? with
  | some id => return .reference (.code id)
  | none =>
    let native := if isModuleFunction name then some name else none
    let id ← makeCode { name := qualified name, isDefined := native.isSome, native }
    modify fun world => { world with functions := world.functions.insert name id }
    return .reference (.code id)

def callValue (runner : Runner) (function : Value) (arguments : Array Nat) (want : Want) : PerlM (Array Value) := do
  match function with
  | .reference (.code id) =>
    let code := (← look fun world => world.codes[id]?).getD default
    if !code.isDefined then die ("Undefined subroutine &" ++ code.name ++ " called")
    runner.call id arguments want
  | .undefined => die "Can't use an undefined value as a subroutine reference"
  | value => callNamed runner (← nameBehind value "CODE") arguments want

/-- The array of the arguments of the function that is being carried out. -/
def currentArguments : PerlM (Array Nat) := do arrayAt (← holdingOf ⟨.array, "_"⟩)

/-! ## Output -/

/-- Writes values to a handle. -/
def printValues (id : Nat) (kind : Printing) (values : List Value) : PerlM Value := do
  let text ← match kind, values with
    | .printf, [] => pure ""
    | .printf, format :: rest => do
      let format ← textOf format
      formatWith textOf (format.length + 1) format.toList rest ""
    | kind, values => do
      let texts ← values.mapM textOf
      let between ← specialText ","
      let after ← if kind = .say then pure "\n" else specialText "\\"
      pure (between.intercalate texts ++ after)
  let written ← writeTo id text
  if id = 1 && (← special "|").holds then tool ToolM.flush
  return .truth written

/-! ## Methods -/

def handleMethod (id : Nat) (name : String) (arguments : List Value) : PerlM (Array Value) := do
  match name with
  | "print" => return #[← printValues id .print arguments]
  | "printf" => return #[← printValues id .printf arguments]
  | "say" => return #[← printValues id .say arguments]
  | "close" => return #[.truth (← closeHandle id)]
  | "getline" =>
    match ← lineOf id with
    | some line => return #[.string line]
    | none => return #[.undefined]
  | "getlines" => linesOf id patience #[]
  | "eof" => return #[.truth (← atEnd id)]
  | "opened" => return #[.truth (← handleAt id).isOpen]
  | "fileno" =>
    match (← handleAt id).descriptor with
    | some descriptor => return #[.ofNat descriptor]
    | none => return #[.undefined]
  | "autoflush" =>
    if id = 1 then setSpecial "|" (.whole 1)
    return #[.truth true]
  | "flush" =>
    if id = 1 then tool ToolM.flush
    return #[.truth (← drain id)]
  | "binmode" | "blocking" => return #[.truth true]
  | _ => die ("Can't locate object method \"" ++ name ++ "\" via package \"IO::File\"")
where
  /-- All lines that are left. -/
  linesOf (id : Nat) : Nat → Array Value → PerlM (Array Value)
    | 0, sofar => return sofar
    | fuel + 1, sofar => do
      match ← lineOf id with
      | some line => linesOf id fuel (sofar.push (.string line))
      | none => return sofar

/-- The handle that methods of a value are called on. -/
def handleInvoked (value : Value) : PerlM (Option Nat) := do
  match value with
  | .reference (.handle id) => return if (← look (·.blessed)).contains (.handle id) then none else some id
  | .string name => return standardNames.findIdx? (· = name)
  | _ => return none

def universalMethod (name class_ : String) (arguments : List Value) : PerlM (Option (Array Value)) := do
  let asked ← textOf (arguments.headD .undefined)
  match name with
  | "isa" | "DOES" => return some #[.truth ((← ancestors 100 class_).contains asked)]
  | "can" =>
    match ← methodIn (← ancestors 100 class_) asked with
    | some id => return some #[.reference (.code id)]
    | none => return some #[.truth false]
  | "import" | "unimport" => return some #[]
  | "VERSION" => return some #[← special (class_ ++ "::VERSION")]
  | _ => return none

def callInClass (runner : Runner) (want : Want) (class_ name : String) (isObject : Bool) (arguments : Array Nat) :
    PerlM (Array Value) := do
  let (classes, name) ← match name.splitOn "::" with
    | ["SUPER", name] => do pure ((← ancestors 100 (← look (·.package))).drop 1, name)
    | [_] => do pure (← ancestors 100 class_, name)
    | parts => do pure (← ancestors 100 ("::".intercalate parts.dropLast), parts.getLastD "")
  match ← methodIn classes name with
  | some id => runner.call id arguments want
  | none =>
    if let some values := ← universalMethod name class_ ((← (arguments.toList.drop 1).mapM load)) then return values
    match ← methodIn classes "AUTOLOAD" with
    | some id =>
      let code := (← look fun world => world.codes[id]?).getD default
      let package := code.package
      setSpecial (if package = "main" then "AUTOLOAD" else package ++ "::AUTOLOAD") (.string (class_ ++ "::" ++ name))
      runner.call id arguments want
    | none =>
      let functions ← look (·.functions)
      let isKnown := isObject || class_ = "main" ||
        functions.toList.any fun entry => entry.1.startsWith (class_ ++ "::")
      let hint := if isKnown then "" else " (perhaps you forgot to load \"" ++ class_ ++ "\"?)"
      die ("Can't locate object method \"" ++ name ++ "\" via package \"" ++ class_ ++ "\"" ++ hint)

def callMethod (runner : Runner) (want : Want) (invocant name : Expr) (arguments : List Expr) :
    PerlM (Array Value) := do
  let object ← runner.one invocant
  let cells := #[← makeCell object] ++ (← argumentCells runner arguments)
  let method ← runner.one name
  if let .reference (.code id) := method then return ← runner.call id cells want
  let name ← textOf method
  if let some id ← handleInvoked object then
    return resultFor want (← handleMethod id name (← (cells.toList.drop 1).mapM load))
  match ← packageOf? object with
  | some class_ => callInClass runner want class_ name true cells
  | none =>
    match object with
    | .undefined => die ("Can't call method \"" ++ name ++ "\" on an undefined value")
    | .reference _ => die ("Can't call method \"" ++ name ++ "\" on unblessed reference")
    | value =>
      let class_ := Reader.plainName (← textOf value)
      if class_ = "" then die ("Can't call method \"" ++ name ++ "\" without a package or object reference")
      callInClass runner want class_ name false cells

/-! ## Who calls -/

/-- What there is to know about a call that is being carried out. -/
def callerValues (want : Want) (place : Option Nat) : PerlM (Array Value) := do
  match ← look fun world => world.frames[place.getD 0]? with
  | none => return if want = .all then #[] else #[.undefined]
  | some frame =>
    let package := Value.string frame.package
    if want ≠ .all then return #[package]
    let common := #[package, .string (← look (·.file)), .ofNat frame.line]
    if place.isNone then return common
    let wanted : Value := match frame.want with
      | .all => .whole 1
      | .one => .truth false
      | .nothing => .undefined
    return common ++ #[.string (qualified frame.function), .whole 1, wanted]

end Shell.Machine.Perl.PerlM
