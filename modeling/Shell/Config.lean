import Shell.Process.Launcher
import Shell.SystemError
import Shell.Token.Stream

/-! # Configuration

The settings of a shell, as they are written in a TOML document. Whatever is left out has its default, and
keys that are not known do not count. A table may also be written as an array of its values. Any reader of TOML
documents will do.
-/

namespace Shell

namespace Toml

/-- A value. Numbers and times are kept as they are written. -/
inductive Value where
  | text (content : String)
  | flag (b : Bool)
  | integer (lexeme : String)
  | float (lexeme : String)
  | moment (lexeme : String)
  | array (items : List Value)
  | table (entries : List (String × Value))
deriving Repr, Inhabited

/-- Gives the entries of a document, if a text is one. -/
abbrev Parser := String → Option (List (String × Value))

end Toml

/-- The settings of a shell. -/
structure Config where
  stream : StreamOptions := {}
  spawn : SpawnSettings := {}
deriving Repr, DecidableEq, Inhabited

namespace Config

/-- Values to be found by name or by position. -/
inductive Fields where
  | named (entries : List (String × Toml.Value))
  | ordered (values : List Toml.Value)

namespace Fields

/-- The fields in a value. A time holds none that are known. -/
def ofValue? : Toml.Value → Option Fields
  | .table entries => some (named entries)
  | .array values => some (ordered values)
  | .moment _ => some (named [])
  | _ => none

def get? (name : String) (position : Nat) : Fields → Option Toml.Value
  | named entries => entries.lookup name
  | ordered values => values[position]?

/-- A field that is a truth value, or its default. -/
def flag? (name : String) (position : Nat) (default : Bool) (fields : Fields) : Option Bool :=
  match fields.get? name position with
  | none => some default
  | some (.flag b) => some b
  | some _ => none

/-- A field that is a text, or its default. -/
def text? (name : String) (position : Nat) (default : String) (fields : Fields) :
    Option String :=
  match fields.get? name position with
  | none => some default
  | some (.text content) => some content
  | some _ => none

def fields? (name : String) (position : Nat) (fields : Fields) : Option Fields :=
  match fields.get? name position with
  | none => some (named [])
  | some value => ofValue? value

end Fields

/-- The switches of token streams. -/
def readStream? (fields : Fields) : Option StreamOptions := do
  let default : StreamOptions := {}
  return {
    suppressNewlines := ← fields.flag? "suppress_newlines" 0 default.suppressNewlines
    resolveKeywords := ← fields.flag? "resolve_keywords" 1 default.resolveKeywords
    resolveAliases := ← fields.flag? "resolve_aliases" 2 default.resolveAliases }

/-- The settings for starting commands. -/
def readSpawn? (fields : Fields) : Option SpawnSettings := do
  let default : SpawnSettings := {}
  return {
    defaultPath := ← fields.text? "default_path" 0 default.defaultPath
    inheritEnv := ← fields.flag? "inherit_env" 1 default.inheritEnv }

/-- The settings in a document, if it is one and they are of the right types. -/
def read? (parse : Toml.Parser) (text : String) : Option Config := do
  let fields := Fields.named (← parse text)
  return {
    stream := ← readStream? (← fields.fields? "lexer" 0)
    spawn := ← readSpawn? (← fields.fields? "spawn" 1) }

end Config

/-- Why there is no configuration. -/
inductive ConfigError where
  | read (path : String) (cause : ReadError)
  /-- The file is no TOML document, or its values are not of the right types. -/
  | parse (path : String)
deriving Repr, DecidableEq, Inhabited

namespace ConfigError

def cause : ConfigError → String
  | read _ cause => cause.message
  | parse _ => "TOML parse error"

def message : ConfigError → String
  | read path cause => "failed to read config from " ++ path ++ ": " ++ cause.message
  | parse path => "failed to parse config from " ++ path ++ ": TOML parse error"

end ConfigError

/-- The configuration in a file, given what there is to read in it. -/
def Config.ofContent (parse : Toml.Parser) (path : String) :
    Except ReadError String → Except ConfigError Config
  | .error cause => .error (.read path cause)
  | .ok text =>
    match Config.read? parse text with
    | some config => .ok config
    | none => .error (.parse path)

end Shell
