import Shell.Token.Scan

/-! # The same text at another place

A scan notes places and does nothing else with them. If those of the drafts and those of the
characters are replaced in the same way, it makes the same steps and finds the same items, at the
places put instead. So it makes no difference where a text begins, except to the places themselves.
-/

namespace Shell

variable (f : Place → Place)

def Draft.relocate (draft : Draft) : Draft :=
  { draft with start := f draft.start }

def Item.relocate (item : Item) : Item :=
  { item with start := f item.start }

def ScanError.relocate : ScanError → ScanError
  | openQuote quote opened => openQuote quote (f opened)
  | openSubstitution opened => openSubstitution (f opened)

namespace Scan

def Context.relocate : Context → Context
  | bare => bare
  | double opened => double (f opened)

def Hole.relocate (hole : Hole) : Hole :=
  ⟨hole.draft.relocate f, hole.context.relocate f, f hole.opened⟩

def Mode.relocate : Mode → Mode
  | between => between
  | comment => comment
  | continuation start => continuation (f start)
  | operator op start => operator op (f start)
  | word draft => word (draft.relocate f)
  | escape draft => escape (draft.relocate f)
  | single draft opened => single (draft.relocate f) (f opened)
  | double draft opened => double (draft.relocate f) (f opened)
  | doubleEscape draft opened => doubleEscape (draft.relocate f) (f opened)
  | dollar hole => dollar (hole.relocate f)
  | name hole text => name (hole.relocate f) text
  | braces hole text => braces (hole.relocate f) text
  | bracket hole => bracket (hole.relocate f)
  | arithmetic hole depth text => arithmetic (hole.relocate f) depth text
  | arithmeticEnd hole text => arithmeticEnd (hole.relocate f) text
  | script hole part depth text => script (hole.relocate f) part depth text
  | back hole text => back (hole.relocate f) text
  | backEscape hole text => backEscape (hole.relocate f) text
  | halted => halted

def relocate : Except ScanError Item → Except ScanError Item
  | .ok item => .ok (item.relocate f)
  | .error error => .error (error.relocate f)

/-- All that one step makes. -/
def relocateBoth (result : Found × Mode) : Found × Mode :=
  (result.1.map (relocate f), result.2.relocate f)

/-! ## Steps -/

variable {f}

theorem relocateBoth_mode (mode : Mode) :
    relocateBoth f ([], mode) = ([], mode.relocate f) := rfl

theorem resume_relocate (draft : Draft) (context : Context) :
    (context.relocate f).resume (draft.relocate f) = (context.resume draft).relocate f := by
  cases context <;> rfl

theorem fill_relocate (sub : Substitution) (hole : Hole) :
    (hole.relocate f).fill sub = (hole.fill sub).relocate f :=
  resume_relocate (hole.draft.fill sub) hole.context

theorem wordChar_relocate (draft : Draft) (place : Place) (c : Char) :
    wordChar (draft.relocate f) (f place) c = (wordChar draft place c).relocate f := by
  simp only [wordChar, apply_ite (Mode.relocate f)]
  rfl

theorem betweenChar_relocate (place : Place) (c : Char) :
    betweenChar (f place) c = relocateBoth f (betweenChar place c) := by
  have begun := wordChar_relocate (f := f) { start := place } place c
  cases operator : Doubling.ofChar? c with
  | some op =>
      simp only [betweenChar, operator, apply_ite (relocateBoth f)]
      rfl
  | none =>
      simp only [betweenChar, operator, apply_ite (relocateBoth f), relocateBoth_mode, ← begun]
      rfl

theorem bareChar_relocate (draft : Draft) (place : Place) (c : Char) :
    bareChar (draft.relocate f) (f place) c = relocateBoth f (bareChar draft place c) := by
  simp only [bareChar, apply_ite (relocateBoth f), betweenChar_relocate, wordChar_relocate]
  rfl

theorem escapedChar_relocate (draft : Draft) (c : Char) :
    escapedChar (draft.relocate f) c = (escapedChar draft c).relocate f := by
  simp only [escapedChar, apply_ite (Mode.relocate f)]
  rfl

theorem doubleChar_relocate (draft : Draft) (opened place : Place) (c : Char) :
    doubleChar (draft.relocate f) (f opened) (f place) c =
      (doubleChar draft opened place c).relocate f := by
  simp only [doubleChar, apply_ite (Mode.relocate f)]
  rfl

theorem doubleEscapedChar_relocate (draft : Draft) (opened place : Place) (c : Char) :
    doubleEscapedChar (draft.relocate f) (f opened) (f place) c =
      (doubleEscapedChar draft opened place c).relocate f := by
  simp only [doubleEscapedChar, apply_ite (Mode.relocate f), ← doubleChar_relocate]
  rfl

theorem contextChar_relocate (draft : Draft) (place : Place) (c : Char) (context : Context) :
    (context.relocate f).char (draft.relocate f) (f place) c =
      relocateBoth f (context.char draft place c) := by
  cases context with
  | bare => exact bareChar_relocate draft place c
  | double opened => exact congrArg (Prod.mk []) (doubleChar_relocate draft opened place c)

theorem dollarChar_relocate (hole : Hole) (place : Place) (c : Char) :
    dollarChar (hole.relocate f) (f place) c = relocateBoth f (dollarChar hole place c) := by
  simp only [dollarChar, apply_ite (relocateBoth f), fill_relocate, ← contextChar_relocate]
  rfl

theorem arithmeticChar_relocate (hole : Hole) (depth : Nat) (text : String) (c : Char) :
    arithmeticChar (hole.relocate f) depth text c =
      (arithmeticChar hole depth text c).relocate f := by
  simp only [arithmeticChar, apply_ite (Mode.relocate f)]
  cases depth <;> rfl

theorem scriptChar_relocate (hole : Hole) (part : ScriptPart) (depth : Nat) (text : String)
    (c : Char) :
    scriptChar (hole.relocate f) part depth text c =
      (scriptChar hole part depth text c).relocate f := by
  cases part with
  | plain =>
      simp only [scriptChar, apply_ite (Mode.relocate f)]
      cases depth with
      | zero => simp only [fill_relocate]; rfl
      | succ depth => rfl
  | escaped | single | double | doubleEscaped => rfl

theorem backEscapedChar_relocate (hole : Hole) (text : String) (c : Char) :
    backEscapedChar (hole.relocate f) text c = (backEscapedChar hole text c).relocate f := by
  simp only [backEscapedChar, apply_ite (Mode.relocate f)]
  rfl

/-- A step does with places nothing but note them. -/
theorem step_relocate (place : Place) (c : Char) (mode : Mode) :
    step (f place) c (mode.relocate f) = relocateBoth f (step place c mode) := by
  cases mode with
  | between => exact betweenChar_relocate place c
  | comment =>
      simp only [Mode.relocate, step, apply_ite (relocateBoth f), betweenChar_relocate]
      rfl
  | continuation start =>
      have begun := escapedChar_relocate (f := f) { start } c
      rw [Mode.relocate, step, step]
      simp only [apply_ite (relocateBoth f), relocateBoth_mode, ← begun]
      rfl
  | operator operator start =>
      simp only [Mode.relocate, step, apply_ite (relocateBoth f), betweenChar_relocate]
      cases operator <;> rfl
  | word draft => exact bareChar_relocate draft place c
  | escape draft => exact congrArg (Prod.mk []) (escapedChar_relocate draft c)
  | single draft opened =>
      simp only [Mode.relocate, step, apply_ite (relocateBoth f)]
      rfl
  | double draft opened => exact congrArg (Prod.mk []) (doubleChar_relocate draft opened place c)
  | doubleEscape draft opened =>
      exact congrArg (Prod.mk []) (doubleEscapedChar_relocate draft opened place c)
  | dollar hole => exact dollarChar_relocate hole place c
  | name hole text =>
      simp only [Mode.relocate, step, apply_ite (relocateBoth f), ← contextChar_relocate]
      rfl
  | braces hole text =>
      simp only [Mode.relocate, step, apply_ite (relocateBoth f), fill_relocate]
      rfl
  | bracket hole =>
      simp only [Mode.relocate, step, apply_ite (relocateBoth f), scriptChar_relocate]
      rfl
  | arithmetic hole depth text =>
      exact congrArg (Prod.mk []) (arithmeticChar_relocate hole depth text c)
  | arithmeticEnd hole text =>
      simp only [Mode.relocate, step, apply_ite (relocateBoth f), fill_relocate]
      rfl
  | script hole part depth text =>
      exact congrArg (Prod.mk []) (scriptChar_relocate hole part depth text c)
  | back hole text =>
      simp only [Mode.relocate, step, apply_ite (relocateBoth f), fill_relocate]
      rfl
  | backEscape hole text => exact congrArg (Prod.mk []) (backEscapedChar_relocate hole text c)
  | halted => rfl

theorem contextFinish_relocate (draft : Draft) (place : Place) (context : Context) :
    (context.relocate f).finish (draft.relocate f) (f place) =
      (context.finish draft place).map (relocate f) := by
  cases context <;> rfl

theorem finish_relocate (place : Place) (mode : Mode) :
    finish (f place) (mode.relocate f) = (finish place mode).map (relocate f) := by
  cases mode with
  | dollar hole => exact contextFinish_relocate (hole.draft.push '$') place hole.context
  | name hole text => exact contextFinish_relocate (hole.draft.fill _) place hole.context
  | operator operator start => cases operator <;> rfl
  | _ => rfl

theorem run_relocate (follows : ∀ place c, f (place.after c) = (f place).after c) (place : Place)
    (mode : Mode) (text : List Char) :
    run (f place) (mode.relocate f) text = (run place mode text).map (relocate f) := by
  induction text generalizing place mode with
  | nil => exact finish_relocate place mode
  | cons c rest ih =>
      simp only [run, step_relocate, relocateBoth, ← follows, ih, List.map_append]

end Scan

end Shell
