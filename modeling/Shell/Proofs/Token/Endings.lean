import Shell.Proofs.Token.Drafts

/-! # How a scan ends

The last thing that a scan finds is the end of the text or an error, and there is no other of either. A step
of the machine finds neither and goes on, or it finds an error and halts.
-/

namespace Shell.Scan

/-- True for what ends a scan: the end of the text or an error. -/
def isEnd : Except ScanError Item → Bool
  | .error _ => true
  | .ok item => item.token == .finish

/-- The last of what is found ends the scan, and nothing else does. -/
inductive Terminated : Found → Prop where
  | last {found : Except ScanError Item} : isEnd found = true → Terminated [found]
  | cons {found : Except ScanError Item} {rest : Found} :
    isEnd found = false → Terminated rest → Terminated (found :: rest)

theorem Terminated.append {found rest : Found} (inner : ∀ one ∈ found, isEnd one = false)
    (terminated : Terminated rest) : Terminated (found ++ rest) := by
  induction found with
  | nil => exact terminated
  | cons one found ih =>
      rw [List.forall_mem_cons] at inner
      exact .cons inner.1 (ih inner.2)

theorem Terminated.eq_append {found : Found} (terminated : Terminated found) :
    ∃ items last, found = items ++ [last] ∧ (∀ one ∈ items, isEnd one = false) ∧
      isEnd last = true := by
  induction terminated with
  | @last one ends => exact ⟨[], one, rfl, by simp, ends⟩
  | @cons one rest inner _ ih =>
      obtain ⟨items, last, rfl, inner', ends⟩ := ih
      exact ⟨one :: items, last, rfl, List.forall_mem_cons.mpr ⟨inner, inner'⟩, ends⟩

theorem Terminated.length_eq_of_isEnd {found : Found} {n : Nat} {one : Except ScanError Item}
    (terminated : Terminated found) (at_n : found[n]? = some one) (ends : isEnd one = true) :
    n + 1 = found.length := by
  induction terminated generalizing n with
  | last =>
      have isLast : n < 1 := (List.getElem?_eq_some_iff.mp at_n).1
      simpa using isLast
  | cons inner _ ih =>
      cases n with
      | zero =>
          obtain rfl : _ = one := by simpa using at_n
          rw [inner] at ends
          cases ends
      | succ n => simpa using ih at_n

theorem Terminated.drop {found : Found} {n : Nat} {one : Except ScanError Item}
    (terminated : Terminated found) (at_n : found[n]? = some one) (inner : isEnd one = false) :
    Terminated (found.drop (n + 1)) := by
  induction terminated generalizing n with
  | last ends =>
      obtain ⟨isLast, same⟩ := List.getElem?_eq_some_iff.mp at_n
      obtain rfl : n = 0 := by simpa using isLast
      subst same
      exact absurd ends (by simpa using inner)
  | cons _ rest ih =>
      cases n with
      | zero => simpa using rest
      | succ n => simpa using ih at_n

/-- Nothing that is found ends the scan, and there is more to come. -/
structure GoesOn (result : Found × Mode) : Prop where
  inner : ∀ one ∈ result.1, isEnd one = false
  live : result.2 ≠ .halted

theorem goesOn_mode {mode : Mode} (live : mode ≠ .halted) : GoesOn ([], mode) :=
  ⟨by simp, live⟩

theorem GoesOn.cons {one : Except ScanError Item} {result : Found × Mode} (inner : isEnd one = false)
    (rest : GoesOn result) : GoesOn (one :: result.1, result.2) :=
  ⟨List.forall_mem_cons.mpr ⟨inner, rest.inner⟩, rest.live⟩

theorem goesOn_item {one : Except ScanError Item} {mode : Mode} (inner : isEnd one = false)
    (live : mode ≠ .halted) : GoesOn ([one], mode) :=
  (goesOn_mode live).cons inner

theorem Carries.goesOn {extra : Nat} {draft : Draft} {mode : Mode}
    (carries : Carries extra draft mode) : GoesOn ([], mode) := by
  refine goesOn_mode ?_
  rintro rfl
  obtain ⟨draft', same, -⟩ := carries
  cases same

theorem goesOn_betweenChar (place : Place) (c : Char) : GoesOn (betweenChar place c) := by
  unfold betweenChar
  split
  · exact goesOn_mode (by simp)
  split
  · exact goesOn_mode (by simp)
  split
  · exact goesOn_mode (by simp)
  split
  · exact goesOn_item rfl (by simp)
  split
  · exact goesOn_item rfl (by simp)
  split
  · exact goesOn_item rfl (by simp)
  split
  · exact goesOn_mode (by simp)
  · exact (carries_wordChar _ place c).goesOn

theorem goesOn_bareChar (draft : Draft) (place : Place) (c : Char) :
    GoesOn (bareChar draft place c) := by
  unfold bareChar
  split
  · exact (goesOn_betweenChar place c).cons rfl
  · exact (carries_wordChar draft place c).goesOn

theorem goesOn_contextChar (draft : Draft) (place : Place) (c : Char) (context : Context) :
    GoesOn (context.char draft place c) := by
  cases context with
  | bare => exact goesOn_bareChar draft place c
  | double opened => exact (carries_doubleChar draft opened place c).goesOn

theorem goesOn_dollarChar (hole : Hole) (place : Place) (c : Char) :
    GoesOn (dollarChar hole place c) := by
  unfold dollarChar
  split
  · exact goesOn_mode (by simp)
  split
  · exact goesOn_mode (by simp)
  split
  · exact (carries_fill _ hole).goesOn
  split
  · exact goesOn_mode (by simp)
  · exact goesOn_contextChar _ place c hole.context

theorem isEnd_single (operator : Doubling) (start : Place) :
    isEnd (.ok (operator.single start)) = false := by
  cases operator with
  | ampersand | bar | semicolon => rfl

theorem isEnd_double (operator : Doubling) (start : Place) :
    isEnd (.ok (operator.double start)) = false := by
  cases operator with
  | ampersand | bar | semicolon => rfl

/-- A machine that has not halted goes on after a character, or an error halts it, which happens
    only where an expression should have been closed. -/
theorem step_goesOn_or_halts (place : Place) (c : Char) {mode : Mode} (live : mode ≠ .halted) :
    GoesOn (step place c mode) ∨ ∃ hole expr, mode = .arithmeticEnd hole expr ∧
      step place c mode = ([.error (.openSubstitution hole.opened)], .halted) := by
  cases mode with
  | halted => exact absurd rfl live
  | between => exact .inl (goesOn_betweenChar place c)
  | comment =>
      simp only [step]
      split
      · exact .inl (goesOn_betweenChar place c)
      · exact .inl (goesOn_mode (by simp))
  | continuation start =>
      simp only [step]
      split
      · exact .inl (goesOn_mode (by simp))
      · exact .inl (carries_escapedChar _ c).goesOn
  | operator operator start =>
      simp only [step]
      split
      · exact .inl (goesOn_item (isEnd_double operator start) (by simp))
      · exact .inl ((goesOn_betweenChar place c).cons (isEnd_single operator start))
  | word draft => exact .inl (goesOn_bareChar draft place c)
  | escape draft => exact .inl (carries_escapedChar draft c).goesOn
  | single draft opened =>
      simp only [step]
      repeat' split
      all_goals exact .inl (goesOn_mode (by simp))
  | double draft opened => exact .inl (carries_doubleChar draft opened place c).goesOn
  | doubleEscape draft opened =>
      exact .inl (carries_doubleEscapedChar draft opened place c).goesOn
  | dollar hole => exact .inl (goesOn_dollarChar hole place c)
  | name hole text =>
      simp only [step]
      split
      · exact .inl (goesOn_mode (by simp))
      · exact .inl (goesOn_contextChar _ place c hole.context)
  | braces hole text =>
      simp only [step]
      split
      · exact .inl (carries_fill _ hole).goesOn
      · exact .inl (goesOn_mode (by simp))
  | bracket hole =>
      simp only [step]
      split
      · exact .inl (goesOn_mode (by simp))
      · exact .inl (carries_scriptChar hole .plain 0 "" c).goesOn
  | arithmetic hole depth text => exact .inl (carries_arithmeticChar hole depth text c).goesOn
  | arithmeticEnd hole text =>
      simp only [step]
      split
      · exact .inl (carries_fill _ hole).goesOn
      · exact .inr ⟨hole, text, rfl, rfl⟩
  | script hole part depth text =>
      exact .inl (carries_scriptChar hole part depth text c).goesOn
  | back hole text =>
      simp only [step]
      split
      · exact .inl (carries_fill _ hole).goesOn
      split
      · exact .inl (goesOn_mode (by simp))
      · exact .inl (goesOn_mode (by simp))
  | backEscape hole text => exact .inl (carries_backEscapedChar hole text c).goesOn

theorem step_goesOn_or_error (place : Place) (c : Char) {mode : Mode} (live : mode ≠ .halted) :
    GoesOn (step place c mode) ∨ ∃ error, step place c mode = ([.error error], .halted) :=
  (step_goesOn_or_halts place c live).imp_right fun ⟨_, _, _, halts⟩ => ⟨_, halts⟩

theorem terminated_contextFinish (draft : Draft) (place : Place) (context : Context) :
    Terminated (context.finish draft place) := by
  cases context with
  | bare => exact .cons rfl (.last rfl)
  | double opened => exact .last rfl

theorem terminated_finish (place : Place) {mode : Mode} (live : mode ≠ .halted) :
    Terminated (finish place mode) := by
  cases mode with
  | halted => exact absurd rfl live
  | between | comment | single | double | doubleEscape | braces | bracket | arithmetic
  | arithmeticEnd | script | back | backEscape => exact .last rfl
  | operator operator start => exact .cons (isEnd_single operator start) (.last rfl)
  | continuation | word | escape => exact terminated_contextFinish _ place .bare
  | dollar hole | name hole text => exact terminated_contextFinish _ place hole.context

theorem run_halted (place : Place) (chars : List Char) : run place .halted chars = [] := by
  induction chars generalizing place with
  | nil => rfl
  | cons c rest ih => exact ih (place.after c)

theorem terminated_run (place : Place) (chars : List Char) {mode : Mode} (live : mode ≠ .halted) :
    Terminated (run place mode chars) := by
  induction chars generalizing place mode with
  | nil => exact terminated_finish place live
  | cons c rest ih =>
      rw [run]
      obtain goesOn | ⟨error, halts⟩ := step_goesOn_or_error place c live
      · exact .append goesOn.inner (ih (place.after c) goesOn.live)
      · simp only [halts, run_halted, List.append_nil]
        exact .last rfl

/-- The last that a scan finds is the end of the text or an error, and there is no other of either. -/
theorem terminated_scan (text : String) : Terminated (scan text) :=
  terminated_run {} text.toList (by simp)

end Shell.Scan
