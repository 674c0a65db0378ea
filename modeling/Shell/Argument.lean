import Shell.Token.Stream

/-! # Arguments

A word of a command line that another shell has already divided. It is read as if it stood between double
quotes: what is to be put in is put in, and nothing else divides or changes it.
-/

namespace Shell

/-- Why an argument is not a word. -/
inductive ArgumentError where
  | scan (argument : String) (cause : ScanError)
  /-- Its spelling is not one word, which no argument's is. -/
  | notOneWord (argument : String)
deriving Repr, DecidableEq, Inhabited

namespace Argument

/-- One character as it stands between double quotes, given those after it. A backslash before a
    dollar sign or a back quote keeps its meaning, and every other one means itself. -/
def spellChar : Char → List Char → List Char
  | '\\', '$' :: _ => ['\\']
  | '\\', '`' :: _ => ['\\']
  | '\\', _ => ['\\', '\\']
  | '"', _ => ['\\', '"']
  | c, _ => [c]

/-- Characters as they stand between double quotes. -/
def spell : List Char → List Char
  | [] => []
  | c :: rest => spellChar c rest ++ spell rest

/-- An argument between double quotes. -/
def quote (argument : String) : String :=
  String.ofList (['"'] ++ spell argument.toList ++ ['"'])

/-- Arguments are never taken for reserved words and never replaced. -/
def options : StreamOptions :=
  { resolveKeywords := false, resolveAliases := false }

def read (argument : String) : Except ArgumentError Word :=
  match tokenizeAll (quote argument) options with
  | .error cause => .error (.scan argument cause)
  | .ok [item, last] =>
    if item.token = .word ∧ last.token = .finish then .ok item.toWord
    else .error (.notOneWord argument)
  | .ok _ => .error (.notOneWord argument)

/-- The binding of a name to the word that a text stands for. -/
def readBinding (binding : Assignment) : Except ArgumentError Assignment := do
  return { binding with value := ← read binding.value.raw }

end Argument

end Shell
