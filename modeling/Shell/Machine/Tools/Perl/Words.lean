import Shell.Machine.Tools.Perl.Source
import Shell.Machine.Utility.Decimal

/-! # Words of general programs

Which words name functions that are there from the beginning and how many operands these take, which operators stand
between two operands and how tightly they bind, and how numbers are written.
-/

namespace Shell.Machine.Perl

/-- How a function that is there from the beginning is called. -/
inductive Manner where
  /-- Without arguments. -/
  | bare
  /-- With one argument, or none. -/
  | single
  /-- With one argument, for which the usual variable stands in. -/
  | usual
  /-- With a list of arguments. -/
  | many
deriving Repr, DecidableEq, Inhabited

/-- How the functions are called that are there from the beginning. -/
def mannerOf? (name : String) : Option Manner :=
  if ["time", "wait", "wantarray", "times", "getppid", "fork"].contains name then some .bare
  else if ["lc", "uc", "lcfirst", "ucfirst", "length", "defined", "ref", "chr", "ord", "int", "abs", "sqrt", "sin",
      "cos", "exp", "log", "hex", "oct", "quotemeta", "chomp", "chop", "unlink", "rmdir", "readlink", "stat", "lstat",
      "require", "pos", "fc", "alarm", "evalbytes", "study"].contains name then some .usual
  else if ["scalar", "rand", "srand", "exists", "delete", "each", "keys", "values", "shift", "pop", "caller", "undef",
      "close", "chdir", "readdir", "closedir", "rewinddir", "sleep", "localtime", "gmtime", "exit", "umask", "eof",
      "fileno", "tell", "lock", "readline", "chroot", "getc"].contains name then some .single
  else if ["push", "unshift", "splice", "join", "split", "sprintf", "die", "warn", "reverse", "open", "binmode", "seek",
      "read", "sysread", "syswrite", "pack", "unpack", "system", "exec", "kill", "chmod", "chown", "utime", "rename",
      "link", "symlink", "mkdir", "opendir", "index", "rindex", "substr", "atan2", "bless", "select", "truncate",
      "waitpid", "pipe", "crypt", "vec", "local", "formline", "flock", "sysopen", "sysseek", "exec", "glob",
      "return", "setpgrp", "getpwnam", "getpwuid", "getgrgid", "getgrnam"].contains name then some .many
  else none

/-- The functions of modules, with the names that a program knows them by without asking, if it uses the module. -/
def moduleFunctions : List (String × List String × List String) := [
  ("List::Util", [], ["sum", "sum0", "min", "max", "minstr", "maxstr", "first", "any", "all", "none", "notall", "reduce",
    "shuffle", "uniq", "uniqnum", "uniqstr", "product", "pairs", "pairkeys", "pairvalues"]),
  ("Scalar::Util", [], ["blessed", "reftype", "looks_like_number", "refaddr", "dualvar", "weaken"]),
  ("POSIX", ["floor", "ceil", "fmod", "pow", "strftime", "strtol", "isatty", "INT_MAX", "INT_MIN", "DBL_MAX", "UINT_MAX",
      "EXIT_SUCCESS", "EXIT_FAILURE"],
    ["floor", "ceil", "fmod", "pow", "strftime", "strtol", "isatty", "INT_MAX", "INT_MIN", "DBL_MAX", "UINT_MAX",
      "EXIT_SUCCESS", "EXIT_FAILURE"]),
  ("File::Basename", ["basename", "dirname", "fileparse"], ["basename", "dirname", "fileparse"]),
  ("Cwd", ["cwd", "getcwd"], ["cwd", "getcwd", "abs_path", "realpath"]),
  ("Carp", ["croak", "carp", "confess"], ["croak", "carp", "confess", "cluck"]),
  ("Data::Dumper", ["Dumper"], ["Dumper"]),
  ("Time::HiRes", [], ["time", "sleep", "usleep"]),
  ("Text::ParseWords", ["shellwords", "quotewords"], ["shellwords", "quotewords"])]

/-- The modules that need not be looked for. -/
def knownModules : List String :=
  moduleFunctions.map (·.1) ++ ["strict", "warnings", "utf8", "feature", "lib", "vars", "constant", "parent", "base",
    "integer", "bytes", "open", "Exporter", "Getopt::Long", "IO::Handle", "IO::File", "FindBin", "Fcntl", "Errno",
    "File::Spec", "File::Temp", "File::Path", "overload", "subs", "sort", "locale", "re", "English", "Symbol", "mro",
    "experimental", "diagnostics", "autodie", "threads", "Config", "IPC::Open3", "Encode", "Socket"]

/-- The functions that have a block before their list. -/
def walkOf? : String → Option Walk
  | "first" => some .first
  | "any" => some .any
  | "all" => some .all
  | "none" => some .none
  | "reduce" => some .reduce
  | _ => none

/-- An operator between two operands: how tightly it binds, and whether it groups to the right. -/
structure Joint where
  text : String
  level : Nat
  toRight : Bool := false
deriving Repr, Inhabited

namespace Joint

/-- What the operators between operands are, the longest first. -/
def signs : List Joint := [
  ⟨"<=>", 12, false⟩, ⟨"...", 7, false⟩, ⟨"**", 20, true⟩, ⟨"=~", 18, false⟩, ⟨"!~", 18, false⟩, ⟨"==", 12, false⟩,
  ⟨"!=", 12, false⟩, ⟨"<=", 13, false⟩, ⟨">=", 13, false⟩, ⟨"<<", 15, false⟩, ⟨">>", 15, false⟩, ⟨"&&", 9, false⟩,
  ⟨"||", 8, false⟩, ⟨"//", 8, false⟩, ⟨"..", 7, false⟩, ⟨"*", 17, false⟩, ⟨"/", 17, false⟩, ⟨"%", 17, false⟩,
  ⟨"+", 16, false⟩, ⟨"-", 16, false⟩, ⟨".", 16, false⟩, ⟨"<", 13, false⟩, ⟨">", 13, false⟩, ⟨"&", 11, false⟩,
  ⟨"|", 10, false⟩, ⟨"^", 10, false⟩]

def words : List Joint := [
  ⟨"x", 17, false⟩, ⟨"lt", 13, false⟩, ⟨"gt", 13, false⟩, ⟨"le", 13, false⟩, ⟨"ge", 13, false⟩, ⟨"eq", 12, false⟩,
  ⟨"ne", 12, false⟩, ⟨"cmp", 12, false⟩, ⟨"isa", 13, false⟩]

/-- What changes a variable, the longest first. -/
def assignments : List String :=
  ["**=", "||=", "&&=", "//=", "<<=", ">>=", "+=", "-=", "*=", "/=", ".=", "%=", "x=", "&=", "|=", "^=", "="]

/-- True when a text comes next. -/
def starts (text : String) (input : List Char) : Bool :=
  input.take text.length = text.toList

/-- The assignment that comes next. -/
def assignment? (input : List Char) : Option String :=
  match assignments.find? fun text => starts text input with
  | some "=" =>
    match input with
    | _ :: c :: _ => if "=~>".contains c then none else some "="
    | _ => some "="
  | some "x=" =>
    match input with
    | _ :: _ :: c :: _ => if "=~>".contains c then none else some "x="
    | _ => some "x="
  | found => found

/-- The operator between operands that comes next. -/
def ahead? (input : List Char) : Option Joint :=
  match input with
  | [] => none
  | c :: rest =>
    if Reader.isNameStart c then
      let name := String.ofList (input.takeWhile Reader.isNamePart)
      if (assignment? input).isSome then none
      else if c = 'x' && !rest.isEmpty && (name.toList.drop 1).all Char.isDigit then some ⟨"x", 17, false⟩
      else words.find? fun joint => joint.text = name
    else if (assignment? input).isSome || starts "++" input || starts "--" input || starts "->" input then none
    else signs.find? fun joint => starts joint.text input

/-- What two values are made into one by, for an operator that always takes both. -/
def binary? : String → Option Binary
  | "+" => some .add
  | "-" => some .subtract
  | "*" => some .multiply
  | "/" => some .divide
  | "%" => some .remainder
  | "**" => some .power
  | "." => some .concatenate
  | "<<" => some .shiftLeft
  | ">>" => some .shiftRight
  | "&" => some .bitAnd
  | "|" => some .bitOr
  | "^" => some .bitXor
  | "<" => some .less
  | "<=" => some .lessOrEqual
  | ">" => some .greater
  | ">=" => some .greaterOrEqual
  | "==" => some .equal
  | "!=" => some .different
  | "<=>" => some .order
  | "lt" => some .textLess
  | "le" => some .textLessOrEqual
  | "gt" => some .textGreater
  | "ge" => some .textGreaterOrEqual
  | "eq" => some .textEqual
  | "ne" => some .textDifferent
  | "cmp" => some .textOrder
  | _ => none

def assignmentOf (text : String) : Assignment :=
  match text with
  | "=" => .plain
  | "||=" => .choosing .or
  | "&&=" => .choosing .and
  | "//=" => .choosing .defined
  | "x=" => .repeated
  | text => ((binary? (text.dropEnd 1).toString).map Assignment.binary).getD .plain

/-- Two operands with an operator between them. -/
def join (joint : Joint) (left right : Expr) : Expr :=
  match joint.text with
  | "||" => .choose .or left right
  | "&&" => .choose .and left right
  | "//" => .choose .defined left right
  | ".." | "..." => .range left right
  | "x" => .repeat_ left right
  | "isa" => .builtin "isa" [left, right]
  | "=~" => bind false left right
  | "!~" => bind true left right
  | text =>
    match binary? text with
    | some operator => .binary operator left right
    | none => .undefined
where
  /-- A pattern with the text that it is looked for in. -/
  bind (negated : Bool) (left : Expr) : Expr → Expr
    | .matches_ none _ pattern flags => .matches_ (some left) negated pattern flags
    | .substitute none _ pattern by_ flags => .substitute (some left) negated pattern by_ flags
    | .transliterate none _ from_ to_ letters => .transliterate (some left) negated from_ to_ letters
    | pattern => .matches_ (some left) negated pattern {}

end Joint

/-- Numbers that are greater than this one are not kept as whole ones. -/
def greatestWhole : Int := 18446744073709551615

/-- A whole number, or one that is near to it if it is too great. -/
def wholeOrDecimal (value : Int) : Expr :=
  if value ≤ greatestWhole then .whole value else .decimal (Double.ofValue (.finite false ⟨value.toNat, 1⟩))

/-- The number that characters begin with, and what follows it. -/
def numberAhead (input : List Char) : Expr × List Char :=
  let plain (text : List Char) : List Char := text.filter (· ≠ '_')
  let inBase (base : Nat) (rest : List Char) : Expr × List Char :=
    let digits := rest.takeWhile fun c => c = '_' || (Numeral.digit? base c).isSome
    let (value, _, _) := Numeral.digits base digits.length 0 0 (plain digits)
    (wholeOrDecimal value, rest.drop digits.length)
  match input with
  | '0' :: 'x' :: rest | '0' :: 'X' :: rest => inBase 16 rest
  | '0' :: 'b' :: rest | '0' :: 'B' :: rest => inBase 2 rest
  | '0' :: 'o' :: rest => inBase 8 rest
  | _ =>
    let isDigit (c : Char) : Bool := c.isDigit || c = '_'
    let whole := input.takeWhile isDigit
    let rest := input.drop whole.length
    let (fraction, rest) := match rest with
      | '.' :: c :: _ =>
        if c = '.' then ([], rest)
        else
          let digits := (rest.drop 1).takeWhile isDigit
          ('.' :: digits, rest.drop (digits.length + 1))
      | '.' :: [] => (['.'], [])
      | _ => ([], rest)
    let (power, rest) := match rest with
      | e :: sign :: c :: _ =>
        if (e = 'e' || e = 'E') && (sign = '+' || sign = '-') && c.isDigit then
          let digits := (rest.drop 2).takeWhile Char.isDigit
          (e :: sign :: digits, rest.drop (digits.length + 2))
        else if (e = 'e' || e = 'E') && sign.isDigit then
          let digits := (rest.drop 1).takeWhile Char.isDigit
          (e :: digits, rest.drop (digits.length + 1))
        else ([], rest)
      | [e, d] => if (e = 'e' || e = 'E') && d.isDigit then ([e, d], []) else ([], rest)
      | _ => ([], rest)
    if fraction.isEmpty && power.isEmpty then
      match plain whole with
      | '0' :: digits =>
        let (value, _, _) := Numeral.digits 8 digits.length 0 0 digits
        (.whole value, rest)
      | digits => (wholeOrDecimal ((String.ofList digits).toNat?.getD 0), rest)
    else
      let text := String.ofList (plain (whole ++ fraction ++ power))
      let value := ((Double.read (if text.startsWith "." then "0" ++ text else text)).map (·.1)).getD 0
      (.decimal value, rest)

end Shell.Machine.Perl
