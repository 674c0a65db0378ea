import Shell.Argument
import Shell.Config
import Shell.Eval.Session

/-! # Failures

Why a run of the program fails, and the report of it: what was being done, and what kept it from being done.
-/

namespace Shell

/-- Why a run fails. -/
inductive Failure where
  /-- There is no script after the option for one. -/
  | noScript
  | manyScripts
  | noExpression
  /-- Something stands where a binding of a name is expected. -/
  | notABinding (text : String)
  | noCommand
  | argument (error : ArgumentError)
  /-- The input with the script cannot be read. -/
  | input (cause : ReadError)
  /-- The file with the script cannot be read. -/
  | script (path : String) (cause : ReadError)
  /-- There is no place for a configuration. -/
  | noConfigDirectory
  | config (cause : ConfigError)
  | scan (cause : ScanError)
  | arithmetic (expr : String) (cause : Arith.Error)
  | evaluation (cause : Fault)
deriving Repr, DecidableEq, Inhabited

namespace Failure

/-- What was being done, or what is wrong if that says it all. -/
def context : Failure → String
  | noScript => "-c requires a script argument"
  | manyScripts => "tokens takes at most one script"
  | noExpression => "arith requires an expression"
  | notABinding text => "Expected NAME=VALUE, got '" ++ text ++ "'"
  | noCommand => "exec requires a command"
  | argument (.scan text _) => "Invalid word: " ++ text
  | argument (.notOneWord text) => "'" ++ text ++ "' is not a single shell word"
  | input _ => "Failed to read script from stdin"
  | script path _ => "Failed to read script: " ++ path
  | noConfigDirectory => "Failed to load configuration"
  | config _ => "Failed to load configuration"
  | scan _ => "Tokenizing failed"
  | arithmetic expr _ => "Failed to evaluate '" ++ expr ++ "'"
  | evaluation _ => "Evaluation failed"

/-- What kept it from being done, each with what lies behind it after it. -/
def causes : Failure → List String
  | argument (.scan _ cause) => [cause.message]
  | input cause => [cause.message]
  | script _ cause => [cause.message]
  | noConfigDirectory => ["could not determine config directory"]
  | config cause => [cause.message, cause.cause]
  | scan cause => [cause.message]
  | arithmetic _ cause => [cause.message]
  | evaluation (.error (.arithmetic cause)) => [(EvalError.arithmetic cause).message, cause.message]
  | evaluation (.error error) => [error.message]
  | evaluation (.shortWord word) => [word.shortageMessage]
  | evaluation .loopLimit => ["a loop does not end"]
  | _ => []

/-- A text whose lines after the first stand so many characters to the right. -/
def indent (width : Nat) (text : String) : String :=
  ("\n" ++ "".pushn ' ' width).intercalate (text.splitOn "\n")

/-- The causes as they are listed. They are numbered if there are several. -/
def listing : List String → List String
  | [only] => ["    " ++ indent 4 only]
  | causes => causes.mapIdx fun number cause => "    " ++ toString number ++ ": " ++ indent 7 cause

def report (failure : Failure) : String :=
  let causes := failure.causes
  let head := "Error: " ++ failure.context
  let lines := if causes.isEmpty then [head] else [head, "", "Caused by:"] ++ listing causes
  "\n".intercalate lines ++ "\n"

end Failure

end Shell
