import Shell.Name
import Shell.Text.Quoted

/-! # Words

A word before expansion: its text with a marker wherever something is to be put in, and what is to be put in
at each marker.
-/

namespace Shell

/-- The character that holds the place of a substitution. -/
def marker : Char := '\x01'

/-- Something to be put into a word. -/
inductive Substitution where
  /-- The text of a variable, or of a special parameter such as `?`. -/
  | parameter (name : String)
  /-- The value of an expression. -/
  | arithmetic (expr : String)
  /-- The output of a script. -/
  | command (script : String)
deriving Repr, DecidableEq, Inhabited

namespace Substitution

/-- A way of writing it that stands for it in any word. -/
def render : Substitution → String
  | parameter name => "$\x7b" ++ name ++ "\x7d"
  | arithmetic expr => "$((" ++ expr ++ "))"
  | command script => "$(" ++ script ++ ")"

end Substitution

/-- A word before expansion. -/
structure Word where
  /-- The text, with a marker for each substitution. -/
  raw : String
  /-- What stands at the markers, from left to right. -/
  subs : List Substitution := []
deriving Repr, DecidableEq, Inhabited

namespace Word

/-- A word that expands to itself. -/
def literal (raw : String) : Word := ⟨raw, []⟩

def markers (word : Word) : Nat :=
  word.raw.toList.count marker

/-- True when nothing is to be put in. -/
def isLiteral (word : Word) : Bool :=
  word.subs.isEmpty

/-- True when there is exactly one substitution for each marker. -/
def isBalanced (word : Word) : Bool :=
  word.markers == word.subs.length

/-- A word whose markers and substitutions agree in number. -/
def ofParts? (raw : String) (subs : List Substitution) : Option Word :=
  let word : Word := ⟨raw, subs⟩
  if word.isBalanced then some word else none

/-- What is wrong with parts that do not make a word. -/
def mismatchMessage (word : Word) : String :=
  "assertion `left == right` failed: word has " ++ toString word.markers
    ++ " substitution markers but " ++ toString word.subs.length ++ " substitutions"

/-- What is wrong with a word that has a marker too many. -/
def shortageMessage (word : Word) : String :=
  "argument " ++ Text.quoted word.raw ++ " has more markers than substitutions"

end Word

/-- A binding of a name to a word, as it stands in front of a command. -/
structure Assignment where
  name : String
  value : Word
deriving Repr, DecidableEq, Inhabited

namespace Assignment

/-- Divides a text at its first equals sign, if what stands before it is a name. -/
def ofText? (text : String) : Option Assignment :=
  let (name, rest) := text.toList.span (· ≠ '=')
  match rest with
  | [] => none
  | _ :: value =>
    if Name.isValid name then some ⟨String.ofList name, .literal (String.ofList value)⟩ else none

end Assignment

end Shell
