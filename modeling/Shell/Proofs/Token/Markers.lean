import Shell.Proofs.Token.Drafts

/-! # Markers and substitutions

The scanner keeps the markers of a text out of its words, with one exception: outside quotes, a
backslash lets a marker through. So a word has a marker for each of its substitutions, and one
more for each marker that is escaped in it. The induction is on the text; the words are told
apart by where they begin.
-/

namespace Shell.Scan

/-- Where the words begin in which markers are escaped outside quotes, once for each such marker. -/
def escapedMarkers (place : Place) (mode : Mode) : List Char → List Place
  | [] => []
  | c :: rest => escapedHere c mode ++ escapedMarkers (place.after c) (step place c mode).2 rest

theorem offset_lt_after (place : Place) (c : Char) : place.offset < (place.after c).offset :=
  Nat.lt_add_of_pos_right c.utf8Size_pos

/-- The draft of a mode begins before a place. -/
def Ready (place : Place) (mode : Mode) : Prop :=
  ∀ draft, mode.draft? = some draft → draft.start.offset < place.offset

theorem start_step {place : Place} {c : Char} {mode : Mode} {draft' : Draft}
    (reads : (step place c mode).2.draft? = some draft') :
    (∃ draft, mode.draft? = some draft ∧ draft'.start = draft.start) ∨ draft'.start = place := by
  have outcome := outcome_step place c mode
  have begun : ∀ found, Begins place (found, (step place c mode).2) → draft'.start = place := by
    intro found begins
    generalize (step place c mode).2 = mode' at begins reads
    cases begins with
    | nothing none | item _ _ none => simp [none] at reads
    | draft _ same starts => rwa [← Option.some.inj (same.symm.trans reads)]
  generalize step place c mode = result at *
  cases outcome with
  | begins _ begins => exact .inr (begun _ begins)
  | grows same carries =>
      obtain ⟨_, same', grows⟩ := carries
      obtain rfl := Option.some.inj (same'.symm.trans reads)
      exact .inl ⟨_, same, grows.start⟩
  | ends _ _ _ _ begins => exact .inr (begun _ begins)
  | drops _ _ none => simp [none] at reads

theorem ready_step {place : Place} {c : Char} {mode : Mode} (ready : Ready place mode) :
    Ready (place.after c) (step place c mode).2 := by
  intro draft' reads
  rcases start_step reads with ⟨draft, same, starts⟩ | starts
  · exact starts ▸ Nat.lt_trans (ready draft same) (offset_lt_after place c)
  · exact starts ▸ offset_lt_after place c

theorem escapedHere_eq_replicate {c : Char} {mode : Mode} {draft : Draft}
    (reads : mode.draft? = some draft) :
    escapedHere c mode = List.replicate (escapedHere c mode).length draft.start := by
  cases mode with
  | continuation start | escape =>
      obtain rfl := Option.some.inj reads
      simp only [escapedHere]
      split <;> rfl
  | _ => rfl

theorem escapedHere_of_none {c : Char} {mode : Mode} (none : mode.draft? = none) :
    escapedHere c mode = [] := by
  cases mode <;> first | rfl | cases none

theorem mem_escapedMarkers {place : Place} {mode : Mode} {text : List Char} {start : Place}
    (h : start ∈ escapedMarkers place mode text) :
    (∃ draft, mode.draft? = some draft ∧ start = draft.start) ∨ place.offset ≤ start.offset := by
  induction text generalizing place mode with
  | nil => simp [escapedMarkers] at h
  | cons c rest ih =>
      rcases List.mem_append.mp h with here | later
      · cases reads : mode.draft? with
        | none => simp [escapedHere_of_none reads] at here
        | some draft =>
            rw [escapedHere_eq_replicate reads] at here
            exact .inl ⟨draft, rfl, List.eq_of_mem_replicate here⟩
      · rcases ih later with ⟨draft', reads, rfl⟩ | beyond
        · rcases start_step reads with same | starts
          · exact .inl same
          · exact .inr (Nat.le_of_eq (congrArg Place.offset starts.symm))
        · exact .inr (Nat.le_trans (Nat.le_of_lt (offset_lt_after place c)) beyond)

theorem count_escapedMarkers_eq_zero {place : Place} {mode : Mode} {text : List Char}
    {start : Place} (before : start.offset < place.offset)
    (other : ∀ draft, mode.draft? = some draft → start ≠ draft.start) :
    (escapedMarkers place mode text).count start = 0 := by
  refine List.count_eq_zero.mpr fun member => ?_
  rcases mem_escapedMarkers member with ⟨draft, reads, same⟩ | beyond
  · exact other draft reads same
  · omega

/-- An item that a mode leads to: it ends the draft, with so many markers added, or begins later. -/
def Accounted (place : Place) (mode : Mode) (extra : Nat) (item : Item) : Prop :=
  (∃ draft, mode.draft? = some draft ∧ item.start = draft.start ∧
    ∀ before, draft.toItem.toWord.Exceeds before → item.toWord.Exceeds (before + extra)) ∨
  (place.offset ≤ item.start.offset ∧ item.toWord.Exceeds extra)

theorem accounted_contextFinish {place : Place} {mode : Mode} {draft draft' : Draft} {item : Item}
    (reads : mode.draft? = some draft) (grows : Draft.Grows 0 draft draft') {context : Context}
    (h : .ok item ∈ context.finish draft' place) : Accounted place mode 0 item := by
  cases context with
  | bare =>
      simp only [Context.finish, List.mem_cons, Except.ok.injEq, List.not_mem_nil, or_false] at h
      rcases h with rfl | rfl
      · exact .inl ⟨draft, reads, grows.start, fun _ exceeds => grows.exceeds exceeds⟩
      · exact .inr ⟨Nat.le_refl _, exceeds_plain (by decide)⟩
  | double opened => simp [Context.finish] at h

theorem accounted_finish {place : Place} {mode : Mode} {item : Item}
    (h : .ok item ∈ finish place mode) : Accounted place mode 0 item := by
  cases mode with
  | between | comment =>
      simp only [finish, List.mem_singleton, Except.ok.injEq] at h
      subst h
      exact .inr ⟨Nat.le_refl _, exceeds_plain (by decide)⟩
  | continuation start =>
      rw [finish] at h
      exact accounted_contextFinish rfl (Draft.grows_push (by decide) _) h
  | operator operator start =>
      simp only [finish, List.mem_cons, Except.ok.injEq, List.not_mem_nil, or_false] at h
      rcases h with rfl | rfl
      · obtain ⟨starts, plain⟩ := operator.exceeds_single start
        refine .inl ⟨{ start }, rfl, starts, fun _ exceeds => ?_⟩
        rw [eq_zero_of_exceeds_empty exceeds]
        exact plain
      · exact .inr ⟨Nat.le_refl _, exceeds_plain (by decide)⟩
  | word draft =>
      rw [finish] at h
      exact accounted_contextFinish rfl draft.grows_refl h
  | escape draft =>
      rw [finish] at h
      exact accounted_contextFinish rfl (draft.grows_push (by decide)) h
  | dollar hole =>
      rw [finish] at h
      exact accounted_contextFinish rfl (hole.draft.grows_push (by decide)) h
  | name hole text =>
      rw [finish] at h
      exact accounted_contextFinish rfl (hole.draft.grows_fill _) h
  | single | double | doubleEscape | braces | bracket | arithmetic | arithmeticEnd | script | back
  | backEscape | halted => simp [finish] at h

/-- What a character begins is found before anything else, or is what is found later. -/
theorem accounted_begins {place place' : Place} {mode : Mode} {found : Found} {rest : List Char}
    {item : Item} (later : place.offset < place'.offset) (begins : Begins place (found, mode))
    (ih : .ok item ∈ run place' mode rest →
      Accounted place' mode ((escapedMarkers place' mode rest).count item.start) item)
    (h : .ok item ∈ found ++ run place' mode rest) :
    place.offset ≤ item.start.offset ∧
      item.toWord.Exceeds ((escapedMarkers place' mode rest).count item.start) := by
  have beyond : ∀ {extra}, place'.offset ≤ item.start.offset ∧ item.toWord.Exceeds extra →
      place.offset ≤ item.start.offset ∧ item.toWord.Exceeds extra :=
    fun ⟨after, exceeds⟩ => ⟨Nat.le_trans (Nat.le_of_lt later) after, exceeds⟩
  cases begins with
  | nothing none =>
      rcases ih h with ⟨draft, reads, -⟩ | found
      · simp [none] at reads
      · exact beyond found
  | item starts plain none =>
      rcases List.mem_cons.mp h with same | h
      · cases same
        rw [count_escapedMarkers_eq_zero (starts ▸ later) (by simp [none])]
        exact ⟨Nat.le_of_eq (congrArg Place.offset starts.symm), plain⟩
      · rcases ih h with ⟨draft, reads, -⟩ | found
        · simp [none] at reads
        · exact beyond found
  | draft _ same starts plain =>
      rcases ih h with ⟨draft, reads, begun, grown⟩ | found
      · obtain rfl := Option.some.inj (same.symm.trans reads)
        have exceeds := grown 0 plain
        rw [Nat.zero_add] at exceeds
        exact ⟨Nat.le_of_eq (congrArg Place.offset (begun.trans starts).symm), exceeds⟩
      · exact beyond found

theorem accounted_run {place : Place} {mode : Mode} (ready : Ready place mode) {text : List Char}
    {item : Item} (h : .ok item ∈ run place mode text) :
    Accounted place mode ((escapedMarkers place mode text).count item.start) item := by
  induction text generalizing place mode with
  | nil => exact accounted_finish h
  | cons c rest ih =>
      have later := offset_lt_after place c
      have ih' := ih (ready_step ready (c := c))
      have outcome := outcome_step place c mode
      simp only [run, escapedMarkers, List.count_append] at h ⊢
      generalize step place c mode = result at *
      cases outcome with
      | begins none begins =>
          rw [escapedHere_of_none none, List.count_nil, Nat.zero_add]
          exact .inr (accounted_begins later begins ih' h)
      | @grows draft mode' reads carries =>
          obtain ⟨draft', reads', grows⟩ := carries
          rw [escapedHere_eq_replicate reads]
          rcases ih' h with ⟨_, same, begun, grown⟩ | ⟨beyond, exceeds⟩
          · obtain rfl := Option.some.inj (reads'.symm.trans same)
            refine .inl ⟨draft, reads, begun.trans grows.start, fun before exceeds => ?_⟩
            rw [begun, grows.start, List.count_replicate_self, ← Nat.add_assoc]
            have := grown _ (grows.exceeds exceeds)
            rwa [begun, grows.start] at this
          · have other : draft.start ≠ item.start := by
              intro same
              have := ready draft reads
              rw [same] at this
              omega
            rw [List.count_replicate, if_neg (by simpa using other), Nat.zero_add]
            exact .inr ⟨by omega, exceeds⟩
      | @ends draft ended found mode' reads plain starts keeps begins =>
          rw [plain, List.count_nil, Nat.zero_add]
          rcases List.mem_cons.mp h with same | h
          · cases same
            have before := ready draft reads
            rw [count_escapedMarkers_eq_zero (starts ▸ Nat.lt_trans before later)]
            · exact .inl ⟨draft, reads, starts, fun extra exceeds => keeps extra exceeds⟩
            · intro draft' reads' same
              cases begins with
              | nothing none | item _ _ none => simp [none] at reads'
              | draft _ same' begun =>
                  obtain rfl := Option.some.inj (same'.symm.trans reads')
                  rw [← starts, same, begun] at before
                  omega
          · exact .inr (accounted_begins later begins ih' h)
      | drops plain absent none =>
          rw [plain, List.count_nil, Nat.zero_add]
          rcases List.mem_append.mp h with found | h
          · exact absurd found (absent item)
          · rcases ih' h with ⟨draft, reads, -⟩ | ⟨beyond, exceeds⟩
            · simp [none] at reads
            · exact .inr ⟨by omega, exceeds⟩

/-- A word has a marker for each substitution, and one more for each that is escaped in it. -/
theorem exceeds_scan {text : String} {item : Item} (h : .ok item ∈ scan text) :
    item.toWord.Exceeds ((escapedMarkers {} .between text.toList).count item.start) := by
  rcases accounted_run (fun _ reads => by cases reads) h with ⟨draft, reads, -⟩ | ⟨-, exceeds⟩
  · cases reads
  · exact exceeds

/-! ## Where markers are escaped -/

/-- The next character is taken as it is, and no quotes are open. -/
def Mode.escapes : Mode → Bool
  | .continuation _ | .escape _ => true
  | _ => false

theorem escapedHere_of_not_escapes {c : Char} {mode : Mode} (h : mode.escapes = false) :
    escapedHere c mode = [] := by
  cases mode <;> first | rfl | cases h

theorem escapes_fill (sub : Substitution) (hole : Hole) : (hole.fill sub).escapes = false := by
  obtain ⟨draft, context, opened⟩ := hole
  cases context <;> rfl

theorem escapes_wordChar {draft : Draft} {place : Place} {c : Char} (other : c ≠ '\\') :
    (wordChar draft place c).escapes = false := by
  simp only [wordChar, if_neg other]
  repeat' split
  all_goals rfl

theorem escapes_betweenChar {place : Place} {c : Char} (other : c ≠ '\\') :
    (betweenChar place c).2.escapes = false := by
  simp only [betweenChar, if_neg other]
  repeat' split
  all_goals first | rfl | exact escapes_wordChar other

theorem escapes_bareChar {draft : Draft} {place : Place} {c : Char} (other : c ≠ '\\') :
    (bareChar draft place c).2.escapes = false := by
  unfold bareChar
  split
  · exact escapes_betweenChar other
  · exact escapes_wordChar other

theorem escapes_doubleChar (draft : Draft) (opened place : Place) (c : Char) :
    (doubleChar draft opened place c).escapes = false := by
  unfold doubleChar
  repeat' split
  all_goals rfl

theorem escapes_contextChar {draft : Draft} {place : Place} {c : Char} (other : c ≠ '\\')
    (context : Context) : (context.char draft place c).2.escapes = false := by
  cases context with
  | bare => exact escapes_bareChar other
  | double opened => exact escapes_doubleChar draft opened place c

theorem escapes_scriptChar (hole : Hole) (part : ScriptPart) (depth : Nat) (text : String)
    (c : Char) : (scriptChar hole part depth text c).escapes = false := by
  cases part with
  | plain =>
      simp only [scriptChar]
      repeat' split
      all_goals first | rfl | exact escapes_fill _ hole
  | escaped | single | double | doubleEscaped => rfl

/-- Nothing but a backslash lets the next character be taken as it is. -/
theorem escapes_step {place : Place} {c : Char} (other : c ≠ '\\') (mode : Mode) :
    (step place c mode).2.escapes = false := by
  cases mode with
  | between => exact escapes_betweenChar other
  | comment | operator =>
      simp only [step]
      split
      · first | rfl | exact escapes_betweenChar other
      · first | rfl | exact escapes_betweenChar other
  | word draft => exact escapes_bareChar other
  | double draft opened => exact escapes_doubleChar draft opened place c
  | doubleEscape draft opened =>
      simp only [step, doubleEscapedChar]
      split
      · rfl
      split
      · rfl
      · exact escapes_doubleChar _ opened place c
  | dollar hole =>
      simp only [step, dollarChar]
      repeat' split
      all_goals
        first
          | rfl
          | exact escapes_fill _ hole
          | exact escapes_contextChar other hole.context
  | name hole text =>
      simp only [step]
      split
      · rfl
      · exact escapes_contextChar other hole.context
  | bracket hole =>
      simp only [step]
      split
      · rfl
      · exact escapes_scriptChar hole .plain 0 "" c
  | script hole part depth text => exact escapes_scriptChar hole part depth text c
  | braces hole | arithmeticEnd hole | back hole =>
      simp only [step]
      repeat' split
      all_goals first | rfl | exact escapes_fill _ hole
  | continuation | escape | single | arithmetic | backEscape | halted =>
      simp only [step, escapedChar, arithmeticChar, backEscapedChar]
      repeat' split
      all_goals rfl

theorem escapedMarkers_eq_nil {place : Place} {mode : Mode} {text : List Char}
    (first : mode.escapes = true → text.head? ≠ some marker) (plain : ¬['\\', marker] <:+: text) :
    escapedMarkers place mode text = [] := by
  induction text generalizing place mode with
  | nil => rfl
  | cons c rest ih =>
      have here : escapedHere c mode = [] := by
        cases escapes : mode.escapes with
        | false => exact escapedHere_of_not_escapes escapes
        | true =>
            have other : c ≠ marker := by simpa using first escapes
            cases mode <;> simp [escapedHere, other]
      rw [escapedMarkers, here, List.nil_append]
      refine ih (fun escapes next => plain ?_)
        (fun within => plain (within.trans (List.suffix_cons c rest).isInfix))
      have backslash : c = '\\' :=
        Decidable.byContradiction fun other => by simp [escapes_step other mode] at escapes
      obtain ⟨more, rfl⟩ : ∃ more, rest = marker :: more := List.head?_eq_some_iff.mp next
      exact backslash ▸ ⟨[], more, rfl⟩

theorem isBalanced_scan {text : String} (plain : ¬['\\', marker] <:+: text.toList) {item : Item}
    (h : .ok item ∈ scan text) : item.toWord.isBalanced = true := by
  have exceeds := exceeds_scan h
  rw [escapedMarkers_eq_nil (fun escapes => by cases escapes) plain] at exceeds
  simpa [Word.isBalanced, Word.Exceeds, Item.toWord] using exceeds

end Shell.Scan
