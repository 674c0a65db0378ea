import Shell.Proofs.Token.Endings
import Shell.Proofs.Token.Spelling

/-! # Substitutions in brackets and braces

From the dollar sign on the scanner copies what it reads, until a bracket or a brace closes the
substitution. It looks neither at the word nor at where the text stands. So the same text makes the
same substitution in every word, quoted or not, and the text is the one that the substitution is
rendered to.
-/

namespace Shell.Scan

/-- A mode inside a substitution, for each word that it may belong to, and what has been read of it. -/
inductive Inside : (Hole → Mode) → List Char → Prop where
  | braces (name : String) :
    Inside (fun hole => .braces hole name) ('$' :: '\x7b' :: name.toList)
  | bracket : Inside .bracket ['$', '(']
  | arithmetic (depth : Nat) (expr : String) :
    Inside (fun hole => .arithmetic hole depth expr) ('$' :: '(' :: '(' :: expr.toList)
  | arithmeticEnd (expr : String) :
    Inside (fun hole => .arithmeticEnd hole expr) ('$' :: '(' :: '(' :: (expr.toList ++ [')']))
  | script (part : ScriptPart) (depth : Nat) (script : String) :
    Inside (fun hole => .script hole part depth script) ('$' :: '(' :: script.toList)

/-- What a character makes of a mode inside a substitution. -/
inductive Turn (c : Char) (mode : Hole → Mode) (typed : List Char) : Prop where
  | stays (mode' : Hole → Mode) : Inside mode' (typed ++ [c]) →
    (∀ place hole, step place c (mode hole) = ([], mode' hole)) → Turn c mode typed
  | completes (sub : Substitution) : (c = ')' ∨ c = '\x7d') →
    sub.render.toList = typed ++ [c] →
    (∀ place hole, step place c (mode hole) = ([], hole.fill sub)) → Turn c mode typed
  | fails : (∀ place hole, step place c (mode hole) =
      ([.error (.openSubstitution hole.opened)], .halted)) → Turn c mode typed

/-- A character of a script is copied, or it is the bracket that closes the script. -/
theorem scriptChar_cases (part : ScriptPart) (depth : Nat) (script : String) (c : Char) :
    (∃ part' depth', ∀ hole, scriptChar hole part depth script c =
      .script hole part' depth' (script.push c)) ∨
    (c = ')' ∧ ∀ hole, scriptChar hole part depth script c = hole.fill (.command script)) := by
  cases part with
  | plain =>
      by_cases closing : c = ')'
      · subst closing
        cases depth with
        | zero => exact .inr ⟨rfl, fun _ => rfl⟩
        | succ depth => exact .inl ⟨.plain, depth, fun _ => rfl⟩
      · simp only [scriptChar, if_neg closing]
        refine .inl ?_
        split
        · exact ⟨_, _, fun _ => rfl⟩
        split
        · exact ⟨_, _, fun _ => rfl⟩
        split
        · exact ⟨_, _, fun _ => rfl⟩
        split
        · exact ⟨_, _, fun _ => rfl⟩
        · exact ⟨_, _, fun _ => rfl⟩
  | escaped | single | double | doubleEscaped => exact .inl ⟨_, _, fun _ => rfl⟩

theorem turn_scriptChar {c : Char} {mode : Hole → Mode} (part : ScriptPart) (depth : Nat)
    (script : String)
    (here : ∀ place hole, step place c (mode hole) = ([], scriptChar hole part depth script c)) :
    Turn c mode ('$' :: '(' :: script.toList) := by
  rcases scriptChar_cases part depth script c with ⟨part', depth', stays⟩ | ⟨rfl, completes⟩
  · refine .stays (fun hole => .script hole part' depth' (script.push c)) ?_ ?_
    · simpa using Inside.script part' depth' (script.push c)
    · exact fun place hole => (here place hole).trans (congrArg _ (stays hole))
  · refine .completes (.command script) (.inl rfl) ?_ ?_
    · simp [Substitution.render]
    · exact fun place hole => (here place hole).trans (congrArg _ (completes hole))

theorem Inside.turn {mode : Hole → Mode} {typed : List Char} (inside : Inside mode typed)
    (c : Char) : Turn c mode typed := by
  cases inside with
  | braces name =>
      by_cases closing : c = '\x7d'
      · subst closing
        exact .completes (.parameter name) (.inr rfl) (by simp [Substitution.render])
          fun _ _ => rfl
      · refine .stays (fun hole => .braces hole (name.push c)) ?_ fun place hole => ?_
        · simpa using Inside.braces (name.push c)
        · simp only [step, if_neg closing]
  | bracket =>
      by_cases opening : c = '('
      · subst opening
        exact .stays _ (.arithmetic 0 "") fun _ _ => rfl
      · refine turn_scriptChar .plain 0 "" fun place hole => ?_
        simp only [step, if_neg opening]
  | arithmetic depth expr =>
      by_cases opening : c = '('
      · subst opening
        refine .stays (fun hole => .arithmetic hole (depth + 1) (expr.push '(')) ?_
          fun _ _ => rfl
        simpa using Inside.arithmetic (depth + 1) (expr.push '(')
      by_cases closing : c = ')'
      · subst closing
        cases depth with
        | zero => exact .stays _ (.arithmeticEnd expr) fun _ _ => rfl
        | succ depth =>
            refine .stays (fun hole => .arithmetic hole depth (expr.push ')')) ?_
              fun _ _ => rfl
            simpa using Inside.arithmetic depth (expr.push ')')
      · refine .stays (fun hole => .arithmetic hole depth (expr.push c)) ?_
          fun place hole => ?_
        · simpa using Inside.arithmetic depth (expr.push c)
        · simp only [step, arithmeticChar, if_neg opening, if_neg closing]
  | arithmeticEnd expr =>
      by_cases closing : c = ')'
      · subst closing
        exact .completes (.arithmetic expr) (.inl rfl) (by simp [Substitution.render])
          fun _ _ => rfl
      · refine .fails fun place hole => ?_
        simp only [step, if_neg closing]
  | script part depth script => exact turn_scriptChar part depth script fun _ _ => rfl

theorem Inside.finish {mode : Hole → Mode} {typed : List Char} (inside : Inside mode typed)
    (place : Place) (hole : Hole) :
    Scan.finish place (mode hole) = [.error (.openSubstitution hole.opened)] := by
  cases inside <;> rfl

/-- A text has a first part that completes the substitution, or it never does. -/
theorem Inside.completes_or_fails {mode : Hole → Mode} {typed : List Char}
    (inside : Inside mode typed) (text : List Char) :
    (∃ read c rest sub, text = read ++ c :: rest ∧ (c = ')' ∨ c = '\x7d') ∧
      sub.render.toList = typed ++ read ++ [c] ∧
      ∀ place hole, Leads place (mode hole) (read ++ [c]) (hole.fill sub)) ∨
    ∀ place hole, run place (mode hole) text = [.error (.openSubstitution hole.opened)] := by
  induction text generalizing mode typed with
  | nil => exact .inr inside.finish
  | cons c text ih =>
      cases inside.turn c with
      | stays _ further here =>
          rcases ih further with ⟨read, d, rest, sub, rfl, closer, rendered, leads⟩ | fails
          · refine .inl ⟨c :: read, d, rest, sub, rfl, closer, by simp [rendered], ?_⟩
            exact fun place hole => .cons _ (here place hole) (leads _ hole)
          · refine .inr fun place hole => ?_
            rw [run, here]
            exact fails _ hole
      | completes sub closer rendered here =>
          refine .inl ⟨[], c, text, sub, rfl, closer, by simp [rendered], ?_⟩
          exact fun place hole => .cons _ (here place hole) .nil
      | fails here =>
          refine .inr fun place hole => ?_
          rw [run, here]
          simp only [run_halted, List.append_nil]

theorem dollar_completes_or_fails {opener : Char} (opens : opener = '(' ∨ opener = '\x7b')
    (text : List Char) :
    (∃ read c rest sub, text = read ++ c :: rest ∧ (c = ')' ∨ c = '\x7d') ∧
      sub.render.toList = '$' :: opener :: (read ++ [c]) ∧
      ∀ place hole, Leads place (.dollar hole) (opener :: (read ++ [c])) (hole.fill sub)) ∨
    ∀ place hole, run place (.dollar hole) (opener :: text) =
      [.error (.openSubstitution hole.opened)] := by
  obtain ⟨mode, inside, here⟩ : ∃ mode, Inside mode ['$', opener] ∧
      ∀ place hole, step place opener (.dollar hole) = ([], mode hole) := by
    rcases opens with rfl | rfl
    · exact ⟨.bracket, .bracket, fun _ _ => rfl⟩
    · exact ⟨fun hole => .braces hole "", .braces "", fun _ _ => rfl⟩
  rcases inside.completes_or_fails text with ⟨read, c, rest, sub, same, closer, rendered, leads⟩ | fails
  · refine .inl ⟨read, c, rest, sub, same, closer, by simp [rendered], fun place hole => ?_⟩
    exact .cons _ (here place hole) (leads _ hole)
  · refine .inr fun place hole => ?_
    rw [run, here]
    exact fails _ hole

/-- Outside quotes, in whatever word, the scanner takes what a substitution is rendered to for it. -/
def Takes (sub : Substitution) : Prop :=
  ∀ place draft, Leads place (.word draft) sub.render.toList (.word (draft.fill sub))

theorem takes_of_leads {sub : Substitution} {text : List Char}
    (rendered : sub.render.toList = '$' :: text)
    (leads : ∀ place hole, Leads place (.dollar hole) text (hole.fill sub)) : Takes sub := by
  intro place draft
  rw [rendered]
  exact .cons (.dollar ⟨draft, .bare, place⟩) rfl (leads _ _)

end Shell.Scan
