import Shell.Eval.Session

/-! # Expansion

A word is expanded from left to right, each substitution being put in at its marker. What is put in is not
looked at again.
-/

namespace Shell.EvalM

variable {σ τ : Type}

/-- The output of a script without the line breaks at its end. -/
def trimOutput (output : String) : List Char :=
  (output.toList.reverse.dropWhile (· == '\n')).reverse

def resolve (world : World σ τ) : Substitution → EvalM σ τ (List Char)
  | .parameter name => do
    let session ← get
    return String.toList <|
      if name = "?" then session.lastStatus.render
      else if name = "!" then (session.lastBackground.map toString).getD ""
      else if name = "$" then world.processId
      else (session.scope.get? name).getD ""
  | .arithmetic expr => return (Arith.Numeral.render (← arithmetic expr)).toList
  | .command script => return trimOutput (← substitute world script)

/-- Expands the rest of a word, given the substitutions that are left. -/
def expandFrom (world : World σ τ) (word : Word) :
    List Char → List Substitution → EvalM σ τ (List Char)
  | [], _ => return []
  | c :: rest, subs =>
    if c = marker then
      match subs with
      | [] => throw (.shortWord word)
      | sub :: subs' => do
        let value ← resolve world sub
        return value ++ (← expandFrom world word rest subs')
    else return c :: (← expandFrom world word rest subs)

/-- Expands a word. Without substitutions it stands for its text, whatever that contains. -/
def expand (world : World σ τ) (word : Word) : EvalM σ τ String :=
  if word.isLiteral then return word.raw
  else return String.ofList (← expandFrom world word word.raw.toList word.subs)

end Shell.EvalM
