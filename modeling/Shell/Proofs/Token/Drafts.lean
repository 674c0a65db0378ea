import Shell.Token.Scan

/-! # What one character does to a draft

A character goes on with the draft of a mode, ends it or begins another. `outcome_step` says so
of every mode, with the number of markers that the draft gains beside those of its
substitutions. Later proofs need nothing else of the machine.
-/

namespace Shell

/-- A word has so many markers more than substitutions. -/
def Word.Exceeds (extra : Nat) (word : Word) : Prop :=
  word.markers = word.subs.length + extra

/-- A draft goes on as another, with so many markers more than its substitutions account for. -/
structure Draft.Grows (extra : Nat) (draft draft' : Draft) : Prop where
  start : draft'.start = draft.start
  exceeds {before : Nat} : draft.toItem.toWord.Exceeds before →
    draft'.toItem.toWord.Exceeds (before + extra)

namespace Draft

theorem grows_refl (draft : Draft) : Grows 0 draft draft := ⟨rfl, id⟩

theorem grows_quote (draft : Draft) : Grows 0 draft draft.quote := ⟨rfl, id⟩

theorem grows_push {c : Char} (other : c ≠ marker) (draft : Draft) :
    Grows 0 draft (draft.push c) := by
  refine ⟨rfl, fun {before} exceeds => ?_⟩
  simpa [Word.Exceeds, Word.markers, Item.toWord, toItem, push, List.count_append,
    other] using exceeds

theorem grows_push_marker (draft : Draft) : Grows 1 draft (draft.push marker) := by
  refine ⟨rfl, fun {before} exceeds => ?_⟩
  simp only [Word.Exceeds, Word.markers, Item.toWord, toItem] at exceeds
  simp [Word.Exceeds, Word.markers, Item.toWord, toItem, push, List.count_append, exceeds,
    Nat.add_assoc]

theorem grows_fill (sub : Substitution) (draft : Draft) : Grows 0 draft (draft.fill sub) := by
  refine ⟨rfl, fun {before} exceeds => ?_⟩
  simp only [Word.Exceeds, Word.markers, Item.toWord, toItem] at exceeds
  simp [Word.Exceeds, Word.markers, Item.toWord, toItem, fill, List.count_append, exceeds]
  omega

theorem Grows.trans {extra : Nat} {draft draft' draft'' : Draft} (first : Grows 0 draft draft')
    (second : Grows extra draft' draft'') : Grows extra draft draft'' :=
  ⟨second.start.trans first.start, fun exceeds => second.exceeds (first.exceeds exceeds)⟩

end Draft

namespace Scan

/-- What has been read of the item that a mode belongs to. -/
def Mode.draft? : Mode → Option Draft
  | .between | .comment | .halted => none
  | .continuation start | .operator _ start => some { start }
  | .word draft | .escape draft | .single draft _ | .double draft _ | .doubleEscape draft _ =>
    some draft
  | .dollar hole | .name hole _ | .braces hole _ | .bracket hole | .arithmetic hole _ _
  | .arithmeticEnd hole _ | .script hole _ _ _ | .back hole _ | .backEscape hole _ =>
    some hole.draft

/-- Where the word begins in which a marker is escaped outside quotes by what came before. -/
def escapedHere (c : Char) : Mode → List Place
  | .continuation start => if c = marker then [start] else []
  | .escape draft => if c = marker then [draft.start] else []
  | _ => []

/-- The draft of a mode is one that has grown. -/
def Carries (extra : Nat) (draft : Draft) (mode : Mode) : Prop :=
  ∃ draft', mode.draft? = some draft' ∧ Draft.Grows extra draft draft'

/-- At a place nothing begins, or a whole item, or a draft. -/
inductive Begins (place : Place) : Found × Mode → Prop where
  | nothing {mode : Mode} : mode.draft? = none → Begins place ([], mode)
  | item {item : Item} {mode : Mode} :
    item.start = place → item.toWord.Exceeds 0 → mode.draft? = none →
      Begins place ([.ok item], mode)
  | draft {mode : Mode} (draft : Draft) :
    mode.draft? = some draft → draft.start = place → draft.toItem.toWord.Exceeds 0 →
      Begins place ([], mode)

/-- What a character at a place can make of a mode. -/
inductive Outcome (place : Place) (c : Char) (mode : Mode) : Found × Mode → Prop where
  | begins {result : Found × Mode} :
    mode.draft? = none → Begins place result → Outcome place c mode result
  | grows {draft : Draft} {mode' : Mode} :
    mode.draft? = some draft → Carries (escapedHere c mode).length draft mode' →
      Outcome place c mode ([], mode')
  | ends {draft : Draft} {item : Item} {found : Found} {mode' : Mode} :
    mode.draft? = some draft → escapedHere c mode = [] → item.start = draft.start →
      (∀ extra, draft.toItem.toWord.Exceeds extra → item.toWord.Exceeds extra) →
      Begins place (found, mode') →
      Outcome place c mode (.ok item :: found, mode')
  | drops {found : Found} {mode' : Mode} :
    escapedHere c mode = [] → (∀ item, .ok item ∉ found) → mode'.draft? = none →
      Outcome place c mode (found, mode')

theorem exceeds_empty (start : Place) : ({ start } : Draft).toItem.toWord.Exceeds 0 := rfl

theorem eq_zero_of_exceeds_empty {start : Place} {extra : Nat}
    (exceeds : ({ start } : Draft).toItem.toWord.Exceeds extra) : extra = 0 := by
  simpa [Word.Exceeds, Word.markers, Item.toWord, Draft.toItem] using exceeds.symm

theorem exceeds_plain {token : Token} {start : Place} {value : String}
    (plain : marker ∉ value.toList) : ({ token, start, value } : Item).toWord.Exceeds 0 :=
  List.count_eq_zero.mpr plain

theorem Carries.trans {extra : Nat} {draft draft' : Draft} {mode : Mode}
    (first : Draft.Grows 0 draft draft') (second : Carries extra draft' mode) :
    Carries extra draft mode :=
  let ⟨last, same, grows⟩ := second
  ⟨last, same, first.trans grows⟩

theorem carries_resume (draft : Draft) (context : Context) :
    Carries 0 draft (context.resume draft) := by
  cases context with
  | bare | double => exact ⟨draft, rfl, draft.grows_refl⟩

theorem carries_fill (sub : Substitution) (hole : Hole) : Carries 0 hole.draft (hole.fill sub) :=
  .trans (hole.draft.grows_fill sub) (carries_resume _ hole.context)

theorem carries_wordChar (draft : Draft) (place : Place) (c : Char) :
    Carries 0 draft (wordChar draft place c) := by
  unfold wordChar
  split
  · exact ⟨draft, rfl, draft.grows_refl⟩
  split
  · exact ⟨draft.quote, rfl, draft.grows_quote⟩
  split
  · exact ⟨draft.quote, rfl, draft.grows_quote⟩
  split
  · exact ⟨draft, rfl, draft.grows_refl⟩
  split
  · exact ⟨draft, rfl, draft.grows_refl⟩
  split
  · exact ⟨draft, rfl, draft.grows_refl⟩
  · rename_i other
    exact ⟨draft.push c, rfl, draft.grows_push other⟩

theorem begins_betweenChar (place : Place) (c : Char) : Begins place (betweenChar place c) := by
  unfold betweenChar
  split
  · exact .nothing rfl
  split
  · exact .nothing rfl
  split
  · exact .draft { start := place } rfl rfl rfl
  split
  · exact .item rfl (exceeds_plain (by decide)) rfl
  split
  · exact .item rfl (exceeds_plain (by decide)) rfl
  split
  · exact .item rfl (exceeds_plain (by decide)) rfl
  split
  · exact .draft { start := place } rfl rfl rfl
  · obtain ⟨draft, same, grows⟩ := carries_wordChar { start := place } place c
    exact .draft draft same grows.start (grows.exceeds (exceeds_empty place))

theorem carries_escapedChar (draft : Draft) (c : Char) :
    Carries (if c = marker then 1 else 0) draft (escapedChar draft c) := by
  by_cases same : c = marker
  · subst same
    exact ⟨draft.quote.push marker, rfl, draft.grows_quote.trans draft.quote.grows_push_marker⟩
  · rw [if_neg same, escapedChar]
    split
    · exact ⟨draft, rfl, draft.grows_refl⟩
    · exact ⟨draft.quote.push c, rfl, draft.grows_quote.trans (draft.quote.grows_push same)⟩

theorem carries_doubleChar (draft : Draft) (opened place : Place) (c : Char) :
    Carries 0 draft (doubleChar draft opened place c) := by
  unfold doubleChar
  split
  · exact ⟨draft, rfl, draft.grows_refl⟩
  split
  · exact ⟨draft, rfl, draft.grows_refl⟩
  split
  · exact ⟨draft, rfl, draft.grows_refl⟩
  split
  · exact ⟨draft, rfl, draft.grows_refl⟩
  split
  · exact ⟨draft, rfl, draft.grows_refl⟩
  · rename_i other
    exact ⟨draft.push c, rfl, draft.grows_push other⟩

theorem carries_doubleEscapedChar (draft : Draft) (opened place : Place) (c : Char) :
    Carries 0 draft (doubleEscapedChar draft opened place c) := by
  unfold doubleEscapedChar
  split
  · rename_i special
    have other : c ≠ marker := by
      rintro rfl
      revert special
      decide
    exact ⟨draft.push c, rfl, draft.grows_push other⟩
  split
  · exact ⟨draft, rfl, draft.grows_refl⟩
  · exact .trans (draft.grows_push (by decide)) (carries_doubleChar _ opened place c)

theorem carries_arithmeticChar (hole : Hole) (depth : Nat) (text : String) (c : Char) :
    Carries 0 hole.draft (arithmeticChar hole depth text c) := by
  unfold arithmeticChar
  split
  · exact ⟨_, rfl, hole.draft.grows_refl⟩
  split
  · cases depth with
    | zero | succ => exact ⟨_, rfl, hole.draft.grows_refl⟩
  · exact ⟨_, rfl, hole.draft.grows_refl⟩

theorem carries_scriptChar (hole : Hole) (part : ScriptPart) (depth : Nat) (text : String)
    (c : Char) : Carries 0 hole.draft (scriptChar hole part depth text c) := by
  have stay : ∀ part depth text, Carries 0 hole.draft (.script hole part depth text) :=
    fun _ _ _ => ⟨_, rfl, hole.draft.grows_refl⟩
  cases part with
  | plain =>
      simp only [scriptChar]
      split
      · exact stay _ _ _
      split
      · exact stay _ _ _
      split
      · exact stay _ _ _
      split
      · exact stay _ _ _
      split
      · cases depth with
        | zero => exact carries_fill _ hole
        | succ => exact stay _ _ _
      · exact stay _ _ _
  | escaped | single | double | doubleEscaped => exact stay _ _ _

theorem carries_backEscapedChar (hole : Hole) (text : String) (c : Char) :
    Carries 0 hole.draft (backEscapedChar hole text c) := by
  unfold backEscapedChar
  split
  · exact ⟨_, rfl, hole.draft.grows_refl⟩
  · exact ⟨_, rfl, hole.draft.grows_refl⟩

theorem outcome_bareChar {place : Place} {c : Char} {mode : Mode} {draft draft' : Draft}
    (reads : mode.draft? = some draft) (plain : escapedHere c mode = [])
    (grows : Draft.Grows 0 draft draft') :
    Outcome place c mode (bareChar draft' place c) := by
  unfold bareChar
  split
  · exact .ends reads plain grows.start (fun _ exceeds => grows.exceeds exceeds)
      (begins_betweenChar place c)
  · refine .grows reads ?_
    rw [plain]
    exact .trans grows (carries_wordChar draft' place c)

theorem outcome_contextChar {place : Place} {c : Char} {mode : Mode} {draft draft' : Draft}
    (reads : mode.draft? = some draft) (plain : escapedHere c mode = [])
    (grows : Draft.Grows 0 draft draft') (context : Context) :
    Outcome place c mode (context.char draft' place c) := by
  cases context with
  | bare => exact outcome_bareChar reads plain grows
  | double opened =>
      refine .grows reads ?_
      rw [plain]
      exact .trans grows (carries_doubleChar draft' opened place c)

theorem outcome_dollarChar (hole : Hole) (place : Place) (c : Char) :
    Outcome place c (.dollar hole) (dollarChar hole place c) := by
  unfold dollarChar
  split
  · exact .grows rfl ⟨_, rfl, hole.draft.grows_refl⟩
  split
  · exact .grows rfl ⟨_, rfl, hole.draft.grows_refl⟩
  split
  · exact .grows rfl (carries_fill _ hole)
  split
  · exact .grows rfl ⟨_, rfl, hole.draft.grows_refl⟩
  · exact outcome_contextChar rfl rfl (hole.draft.grows_push (by decide)) hole.context

theorem Doubling.exceeds_single (operator : Doubling) (start : Place) :
    (operator.single start).start = start ∧ (operator.single start).toWord.Exceeds 0 := by
  cases operator <;> exact ⟨rfl, exceeds_plain (by decide)⟩

theorem Doubling.exceeds_double (operator : Doubling) (start : Place) :
    (operator.double start).start = start ∧ (operator.double start).toWord.Exceeds 0 := by
  cases operator <;> exact ⟨rfl, exceeds_plain (by decide)⟩

/-- The only markers that a step lets through are those that are escaped. -/
theorem outcome_step (place : Place) (c : Char) (mode : Mode) :
    Outcome place c mode (step place c mode) := by
  cases mode with
  | between => exact .begins rfl (begins_betweenChar place c)
  | comment =>
      simp only [step]
      split
      · exact .begins rfl (begins_betweenChar place c)
      · exact .begins rfl (.nothing rfl)
  | continuation start =>
      have reads : (Mode.continuation start).draft? = some { start } := rfl
      simp only [step]
      split
      · rename_i line
        subst line
        exact .drops rfl (by simp) rfl
      · refine .grows reads ?_
        have carries := carries_escapedChar { start } c
        simp only [escapedHere]
        split <;> simp_all
  | operator operator start =>
      have reads : (Mode.operator operator start).draft? = some { start } := rfl
      simp only [step]
      split
      · obtain ⟨starts, plain⟩ := operator.exceeds_double start
        exact .ends reads rfl starts (fun _ exceeds => eq_zero_of_exceeds_empty exceeds ▸ plain)
          (.nothing rfl)
      · obtain ⟨starts, plain⟩ := operator.exceeds_single start
        exact .ends reads rfl starts (fun _ exceeds => eq_zero_of_exceeds_empty exceeds ▸ plain)
          (begins_betweenChar place c)
  | word draft => exact outcome_bareChar rfl rfl draft.grows_refl
  | escape draft =>
      refine .grows rfl ?_
      have carries := carries_escapedChar draft c
      simp only [escapedHere]
      split <;> simp_all
  | single draft opened =>
      simp only [step]
      split
      · exact .grows rfl ⟨draft, rfl, draft.grows_refl⟩
      split
      · exact .grows rfl ⟨draft, rfl, draft.grows_refl⟩
      · rename_i other
        exact .grows rfl ⟨draft.push c, rfl, draft.grows_push other⟩
  | double draft opened => exact .grows rfl (carries_doubleChar draft opened place c)
  | doubleEscape draft opened => exact .grows rfl (carries_doubleEscapedChar draft opened place c)
  | dollar hole => exact outcome_dollarChar hole place c
  | name hole text =>
      simp only [step]
      split
      · exact .grows rfl ⟨_, rfl, hole.draft.grows_refl⟩
      · exact outcome_contextChar rfl rfl (hole.draft.grows_fill _) hole.context
  | braces hole text =>
      simp only [step]
      split
      · exact .grows rfl (carries_fill _ hole)
      · exact .grows rfl ⟨_, rfl, hole.draft.grows_refl⟩
  | bracket hole =>
      simp only [step]
      split
      · exact .grows rfl ⟨_, rfl, hole.draft.grows_refl⟩
      · exact .grows rfl (carries_scriptChar hole .plain 0 "" c)
  | arithmetic hole depth text => exact .grows rfl (carries_arithmeticChar hole depth text c)
  | arithmeticEnd hole text =>
      simp only [step]
      split
      · exact .grows rfl (carries_fill _ hole)
      · exact .drops rfl (by simp) rfl
  | script hole part depth text => exact .grows rfl (carries_scriptChar hole part depth text c)
  | back hole text =>
      simp only [step]
      split
      · exact .grows rfl (carries_fill _ hole)
      split
      · exact .grows rfl ⟨_, rfl, hole.draft.grows_refl⟩
      · exact .grows rfl ⟨_, rfl, hole.draft.grows_refl⟩
  | backEscape hole text => exact .grows rfl (carries_backEscapedChar hole text c)
  | halted => exact .begins rfl (.nothing rfl)

end Scan

end Shell
