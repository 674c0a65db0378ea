import Shell.Proofs.Token.Lines

/-! # Where items stand

Each mode remembers places of the text: where its word begins, where its quotes were opened, where
the substitution begins that is being read. What stands at these places is what the mode says, so
every item and every error is found where it is written. Places only move forward, and a character
pays for one item at most.
-/

namespace Shell

def Quote.char : Quote → Char
  | single => '\''
  | double => '"'
  | back => '`'

namespace Scan

/-- Where an item begins, or what an error says was never closed. -/
def placeOf : Except ScanError Item → Place
  | .ok item => item.start
  | .error error => error.opened

/-- What is found and how the text goes on where it stands. -/
inductive Written : Except ScanError Item → List Char → Prop where
  | finish {start : Place} : Written (.ok (finishItem start)) []
  | operator (op : Spelling.Operator) {start : Place} {rest : List Char} :
    Written (.ok (op.item start)) (op.spell ++ rest)
  /-- A word does not begin with what would end it, nor with a marker. -/
  | word {item : Item} {c : Char} {rest : List Char} :
    item.token = .word → isDelimiter c = false → c ≠ marker → Written (.ok item) (c :: rest)
  | quote (quote : Quote) {opened : Place} {rest : List Char} :
    Written (.error (.openQuote quote opened)) (quote.char :: rest)
  | substitution {opened : Place} {rest : List Char} :
    Written (.error (.openSubstitution opened)) ('$' :: rest)

/-- A text goes on like this at a place. -/
def At (text : List Char) (place : Place) (rest : List Char) : Prop :=
  ∃ before, text = before ++ rest ∧ place = ({} : Place).past before

/-- What is found is written where it stands. -/
def Stands (text : List Char) (one : Except ScanError Item) : Prop :=
  ∃ rest, At text (placeOf one) rest ∧ Written one rest

/-- A place where a word may begin. -/
def Begun (text : List Char) (start : Place) : Prop :=
  ∃ c rest, At text start (c :: rest) ∧ isDelimiter c = false ∧ c ≠ marker

/-- In the word that begins at a place, a character opened something. -/
def Opened (text : List Char) (c : Char) (start opened : Place) : Prop :=
  ∃ rest, At text opened (c :: rest) ∧ start.offset ≤ opened.offset

def Context.Placed (text : List Char) (start : Place) : Context → Prop
  | bare => True
  | double opened => Opened text '"' start opened

/-- The places of a hole that a character opened. -/
structure Hole.Placed (text : List Char) (c : Char) (hole : Hole) : Prop where
  begun : Begun text hole.draft.start
  context : hole.context.Placed text hole.draft.start
  opened : Opened text c hole.draft.start hole.opened

/-- At the places of a mode stands what it says, given what comes after it. -/
def Mode.Placed (text rest : List Char) : Mode → Prop
  | .between | .comment | .halted => True
  | .continuation start => At text start ('\\' :: rest)
  | .operator op start => At text start (op.char :: rest)
  | .word draft | .escape draft => Begun text draft.start
  | .single draft opened => Begun text draft.start ∧ Opened text '\'' draft.start opened
  | .double draft opened | .doubleEscape draft opened =>
    Begun text draft.start ∧ Opened text '"' draft.start opened
  | .dollar hole | .name hole _ | .braces hole _ | .bracket hole | .arithmetic hole _ _
  | .arithmeticEnd hole _ | .script hole _ _ _ => hole.Placed text '$'
  | .back hole _ | .backEscape hole _ => hole.Placed text '`'

/-- All that is found stands where it is written, and so does all that the next mode remembers. -/
structure Sound (text rest : List Char) (result : Found × Mode) : Prop where
  found : ∀ one ∈ result.1, Stands text one
  mode : result.2.Placed text rest

/-! ## One character -/

theorem At.after {text rest : List Char} {place : Place} {c : Char}
    (here : At text place (c :: rest)) : At text (place.after c) rest := by
  obtain ⟨before, rfl, rfl⟩ := here
  exact ⟨before ++ [c], by simp, by rw [Place.past_append]; rfl⟩

theorem sound_mode {text rest : List Char} {mode : Mode} (placed : mode.Placed text rest) :
    Sound text rest ([], mode) :=
  ⟨by simp, placed⟩

theorem Sound.cons {text rest : List Char} {one : Except ScanError Item} {result : Found × Mode}
    (stands : Stands text one) (sound : Sound text rest result) :
    Sound text rest (one :: result.1, result.2) :=
  ⟨List.forall_mem_cons.mpr ⟨stands, sound.found⟩, sound.mode⟩

theorem sound_item {text rest : List Char} {one : Except ScanError Item} {mode : Mode}
    (stands : Stands text one) (placed : mode.Placed text rest) : Sound text rest ([one], mode) :=
  (sound_mode placed).cons stands

theorem Begun.stands {text : List Char} {draft : Draft} (begun : Begun text draft.start) :
    Stands text (.ok draft.toItem) :=
  let ⟨_, _, there, plain, other⟩ := begun
  ⟨_, there, .word rfl plain other⟩

theorem At.begun {text rest : List Char} {start : Place} (there : At text start ('\\' :: rest)) :
    Begun text start :=
  ⟨_, _, there, by decide, by decide⟩

theorem stands_single {text rest : List Char} {op : Doubling} {start : Place}
    (there : At text start (op.char :: rest)) : Stands text (.ok (op.single start)) := by
  cases op with
  | ampersand => exact ⟨_, there, .operator .background⟩
  | bar => exact ⟨_, there, .operator .pipe⟩
  | semicolon => exact ⟨_, there, .operator .semicolon⟩

theorem stands_double {text rest : List Char} {op : Doubling} {start : Place}
    (there : At text start (op.char :: op.char :: rest)) : Stands text (.ok (op.double start)) := by
  cases op with
  | ampersand => exact ⟨_, there, .operator .both⟩
  | bar => exact ⟨_, there, .operator .either⟩
  | semicolon => exact ⟨_, there, .operator .endCase⟩

theorem ofChar?_char {c : Char} {op : Doubling} (known : Doubling.ofChar? c = some op) :
    c = op.char := by
  unfold Doubling.ofChar? at known
  split at known
  all_goals cases known
  all_goals rfl

section Characters

variable {text rest : List Char} {place : Place} {c : Char} (here : At text place (c :: rest))
include here

theorem placed_wordChar {draft : Draft} (begun : Begun text draft.start)
    (before : draft.start.offset ≤ place.offset) : (wordChar draft place c).Placed text rest := by
  have opened : ∀ d, c = d → Opened text d draft.start place := by
    rintro d rfl
    exact ⟨rest, here, before⟩
  unfold wordChar
  split
  · exact begun
  split
  · exact ⟨begun, opened _ ‹_›⟩
  split
  · exact ⟨begun, opened _ ‹_›⟩
  split
  · exact ⟨begun, trivial, opened _ ‹_›⟩
  split
  · exact ⟨begun, trivial, opened _ ‹_›⟩
  split
  · exact begun
  · exact begun

theorem sound_betweenChar : Sound text rest (betweenChar place c) := by
  unfold betweenChar
  split
  · exact sound_mode trivial
  rename_i noBlank
  split
  · exact sound_mode trivial
  split
  · rename_i backslash
    subst backslash
    exact sound_mode here
  split
  · rename_i line
    exact sound_item ⟨_, line ▸ here, .operator .newline⟩ trivial
  rename_i noLine
  split
  · rename_i opening
    exact sound_item ⟨_, opening ▸ here, .operator .opening⟩ trivial
  rename_i noOpening
  split
  · rename_i closing
    exact sound_item ⟨_, closing ▸ here, .operator .closing⟩ trivial
  rename_i noClosing
  split
  · rename_i op known
    obtain rfl := ofChar?_char known
    exact sound_mode here
  · rename_i noOperator
    have others : c ≠ '&' ∧ c ≠ '|' ∧ c ≠ ';' := by
      refine ⟨?_, ?_, ?_⟩
      all_goals
        rintro rfl
        cases noOperator
    simp only [Bool.or_eq_true, decide_eq_true_eq, not_or] at noBlank
    have plain : isDelimiter c = false := by
      simp [isDelimiter, noBlank, noLine, noOpening, noClosing, others]
    exact sound_mode (placed_wordChar here ⟨c, rest, here, plain, noBlank.2⟩ (Nat.le_refl _))

theorem sound_bareChar {draft : Draft} (begun : Begun text draft.start)
    (before : draft.start.offset ≤ place.offset) : Sound text rest (bareChar draft place c) := by
  unfold bareChar
  split
  · exact (sound_betweenChar here).cons begun.stands
  · exact sound_mode (placed_wordChar here begun before)

theorem placed_doubleChar {draft : Draft} {opened : Place} (begun : Begun text draft.start)
    (quotes : Opened text '"' draft.start opened) (before : draft.start.offset ≤ place.offset) :
    (doubleChar draft opened place c).Placed text rest := by
  unfold doubleChar
  split
  · exact begun
  split
  · exact ⟨begun, quotes⟩
  split
  · rename_i dollar
    exact ⟨begun, quotes, rest, dollar ▸ here, before⟩
  split
  · rename_i quote
    exact ⟨begun, quotes, rest, quote ▸ here, before⟩
  split
  · exact ⟨begun, quotes⟩
  · exact ⟨begun, quotes⟩

theorem sound_contextChar {draft : Draft} {context : Context} (begun : Begun text draft.start)
    (placed : context.Placed text draft.start) (before : draft.start.offset ≤ place.offset) :
    Sound text rest (context.char draft place c) := by
  cases context with
  | bare => exact sound_bareChar here begun before
  | double opened => exact sound_mode (placed_doubleChar here begun placed before)

end Characters

section Holes

variable {text rest : List Char} {hole : Hole}

theorem placed_fill {c : Char} (placed : hole.Placed text c) (sub : Substitution) :
    (hole.fill sub).Placed text rest := by
  obtain ⟨draft, context, opened⟩ := hole
  cases context with
  | bare => exact placed.begun
  | double => exact ⟨placed.begun, placed.context⟩

theorem sound_dollarChar {place : Place} {c : Char} (here : At text place (c :: rest))
    (placed : hole.Placed text '$') (before : hole.draft.start.offset ≤ place.offset) :
    Sound text rest (dollarChar hole place c) := by
  unfold dollarChar
  split
  · exact sound_mode placed
  split
  · exact sound_mode placed
  split
  · exact sound_mode (placed_fill placed _)
  split
  · exact sound_mode placed
  · exact sound_contextChar here placed.begun placed.context before

theorem placed_arithmeticChar (placed : hole.Placed text '$') (depth : Nat) (expr : String)
    (c : Char) : (arithmeticChar hole depth expr c).Placed text rest := by
  unfold arithmeticChar
  split
  · exact placed
  split
  · cases depth with
    | zero | succ => exact placed
  · exact placed

theorem placed_scriptChar (placed : hole.Placed text '$') (part : ScriptPart) (depth : Nat)
    (script : String) (c : Char) : (scriptChar hole part depth script c).Placed text rest := by
  cases part with
  | plain =>
      simp only [scriptChar]
      split
      · exact placed
      split
      · exact placed
      split
      · exact placed
      split
      · exact placed
      split
      · cases depth with
        | zero => exact placed_fill placed _
        | succ => exact placed
      · exact placed
  | escaped | single | double | doubleEscaped => exact placed

theorem placed_backEscapedChar (placed : hole.Placed text '`') (script : String) (c : Char) :
    (backEscapedChar hole script c).Placed text rest := by
  unfold backEscapedChar
  split
  · exact placed
  · exact placed

end Holes

theorem placed_escapedChar {text rest : List Char} {draft : Draft}
    (begun : Begun text draft.start) (c : Char) : (escapedChar draft c).Placed text rest := by
  unfold escapedChar
  split
  · exact begun
  · exact begun

/-- A machine that remembers the right places finds everything where it is written. -/
theorem sound_step {text rest : List Char} {place : Place} {c : Char} {mode : Mode}
    (here : At text place (c :: rest)) (ready : Ready place mode)
    (placed : mode.Placed text (c :: rest)) : Sound text rest (step place c mode) := by
  cases mode with
  | between => exact sound_betweenChar here
  | comment =>
      simp only [step]
      split
      · exact sound_betweenChar here
      · exact sound_mode trivial
  | continuation start =>
      simp only [step]
      split
      · exact sound_mode trivial
      · exact sound_mode (placed_escapedChar placed.begun c)
  | operator op start =>
      simp only [step]
      split
      · rename_i same
        subst same
        exact sound_item (stands_double placed) trivial
      · exact (sound_betweenChar here).cons (stands_single placed)
  | word draft => exact sound_bareChar here placed (ready draft rfl).le
  | escape draft => exact sound_mode (placed_escapedChar placed c)
  | single draft opened =>
      simp only [step]
      split
      · exact sound_mode placed.1
      split
      · exact sound_mode placed
      · exact sound_mode placed
  | double draft opened =>
      exact sound_mode (placed_doubleChar here placed.1 placed.2 (ready draft rfl).le)
  | doubleEscape draft opened =>
      simp only [step, doubleEscapedChar]
      split
      · exact sound_mode placed
      split
      · exact sound_mode placed
      · exact sound_mode (placed_doubleChar here placed.1 placed.2 (ready draft rfl).le)
  | dollar hole => exact sound_dollarChar here placed (ready hole.draft rfl).le
  | name hole name =>
      simp only [step]
      split
      · exact sound_mode placed
      · exact sound_contextChar here placed.begun placed.context (ready hole.draft rfl).le
  | braces hole name =>
      simp only [step]
      split
      · exact sound_mode (placed_fill placed _)
      · exact sound_mode placed
  | bracket hole =>
      simp only [step]
      split
      · exact sound_mode placed
      · exact sound_mode (placed_scriptChar placed .plain 0 "" c)
  | arithmetic hole depth expr => exact sound_mode (placed_arithmeticChar placed depth expr c)
  | arithmeticEnd hole expr =>
      simp only [step]
      split
      · exact sound_mode (placed_fill placed _)
      · obtain ⟨-, -, rest, there, -⟩ := placed
        exact sound_item ⟨_, there, .substitution⟩ trivial
  | script hole part depth script =>
      exact sound_mode (placed_scriptChar placed part depth script c)
  | back hole script =>
      simp only [step]
      split
      · exact sound_mode (placed_fill placed _)
      split
      · exact sound_mode placed
      · exact sound_mode placed
  | backEscape hole script => exact sound_mode (placed_backEscapedChar placed script c)
  | halted => exact sound_mode trivial

/-! ## The end of the text -/

theorem stands_contextFinish {text : List Char} {place : Place} {draft : Draft}
    (here : At text place []) (context : Context) (begun : Begun text draft.start)
    (placed : context.Placed text draft.start) :
    ∀ one ∈ context.finish draft place, Stands text one := by
  cases context with
  | bare =>
      rw [Context.finish, List.forall_mem_cons, List.forall_mem_singleton]
      exact ⟨begun.stands, _, here, .finish⟩
  | double opened =>
      obtain ⟨rest, there, -⟩ := placed
      rw [Context.finish, List.forall_mem_singleton]
      exact ⟨_, there, .quote .double⟩

theorem stands_finish {text : List Char} {place : Place} {mode : Mode} (here : At text place [])
    (placed : mode.Placed text []) : ∀ one ∈ finish place mode, Stands text one := by
  cases mode with
  | halted => simp [finish]
  | between | comment =>
      rw [finish, List.forall_mem_singleton]
      exact ⟨_, here, .finish⟩
  | continuation start =>
      rw [finish]
      exact stands_contextFinish here .bare placed.begun trivial
  | operator op start =>
      rw [finish, List.forall_mem_cons, List.forall_mem_singleton]
      exact ⟨stands_single placed, _, here, .finish⟩
  | word draft | escape draft =>
      rw [finish]
      exact stands_contextFinish here .bare placed trivial
  | single draft opened =>
      obtain ⟨-, rest, there, -⟩ := placed
      rw [finish, List.forall_mem_singleton]
      exact ⟨_, there, .quote .single⟩
  | double draft opened | doubleEscape draft opened =>
      obtain ⟨-, rest, there, -⟩ := placed
      rw [finish, List.forall_mem_singleton]
      exact ⟨_, there, .quote .double⟩
  | dollar hole | name hole =>
      exact stands_contextFinish here hole.context placed.begun placed.context
  | braces hole | bracket hole | arithmetic hole | arithmeticEnd hole | script hole =>
      obtain ⟨-, -, rest, there, -⟩ := placed
      rw [finish, List.forall_mem_singleton]
      exact ⟨_, there, .substitution⟩
  | back hole | backEscape hole =>
      obtain ⟨-, -, rest, there, -⟩ := placed
      rw [finish, List.forall_mem_singleton]
      exact ⟨_, there, .quote .back⟩

theorem stands_run {text rest : List Char} {place : Place} {mode : Mode} (here : At text place rest)
    (ready : Ready place mode) (placed : mode.Placed text rest) :
    ∀ one ∈ run place mode rest, Stands text one := by
  -- the text stays whole, and the place moves on in it
  induction rest generalizing place mode with
  | nil => exact stands_finish here placed
  | cons c rest ih =>
      have sound := sound_step here ready placed
      rw [run_cons, List.forall_mem_append]
      exact ⟨sound.found, ih here.after (ready_step ready) sound.mode⟩

/-! ## The order of places -/

/-- What is found next stands here at the earliest. -/
def floor (place : Place) (mode : Mode) : Nat :=
  match mode.draft? with
  | some draft => draft.start.offset
  | none => place.offset

/-- The number of items that a mode has begun. -/
def owed (mode : Mode) : Nat :=
  if mode.draft?.isSome then 1 else 0

theorem floor_of_some {place : Place} {mode : Mode} {draft : Draft}
    (reads : mode.draft? = some draft) : floor place mode = draft.start.offset := by
  simp [floor, reads]

theorem floor_of_none {place : Place} {mode : Mode} (none : mode.draft? = none) :
    floor place mode = place.offset := by
  simp [floor, none]

theorem owed_of_some {mode : Mode} {draft : Draft} (reads : mode.draft? = some draft) :
    owed mode = 1 := by
  simp [owed, reads]

theorem owed_of_none {mode : Mode} (none : mode.draft? = none) : owed mode = 0 := by
  simp [owed, none]

/-- What is found stands in order, from an offset on. -/
structure Ascending (least : Nat) (found : Found) : Prop where
  sorted : found.Pairwise fun one next => (placeOf one).offset < (placeOf next).offset
  least : ∀ one ∈ found, least ≤ (placeOf one).offset

theorem ascending_nil {least : Nat} : Ascending least [] :=
  ⟨.nil, by simp⟩

theorem ascending_singleton {least : Nat} {one : Except ScanError Item}
    (after : least ≤ (placeOf one).offset) : Ascending least [one] :=
  ⟨List.pairwise_singleton _ _, by simpa using after⟩

theorem Ascending.cons {least next : Nat} {one : Except ScanError Item} {found : Found}
    (after : least ≤ (placeOf one).offset) (before : (placeOf one).offset < next)
    (rest : Ascending next found) : Ascending least (one :: found) := by
  have later : ∀ other ∈ found, (placeOf one).offset < (placeOf other).offset :=
    fun other member => Nat.lt_of_lt_of_le before (rest.least other member)
  refine ⟨.cons later rest.sorted, List.forall_mem_cons.mpr ⟨after, fun other member => ?_⟩⟩
  exact Nat.le_of_lt (Nat.lt_of_le_of_lt after (later other member))

theorem Ascending.mono {least least' : Nat} {found : Found} (ascending : Ascending least found)
    (before : least' ≤ least) : Ascending least' found :=
  ⟨ascending.sorted, fun one member => Nat.le_trans before (ascending.least one member)⟩

/-- What a step finds comes before whatever is found later, and is paid for by the character. -/
structure Advances (place : Place) (c : Char) (mode : Mode) (result : Found × Mode) : Prop where
  ascending {later : Found} : Ascending (floor (place.after c) result.2) later →
    Ascending (floor place mode) (result.1 ++ later)
  paid : result.1.length + owed result.2 ≤ owed mode + 1

theorem Begins.ascending {place : Place} {result : Found × Mode} (begins : Begins place result)
    (c : Char) {later : Found} (rest : Ascending (floor (place.after c) result.2) later) :
    Ascending place.offset (result.1 ++ later) := by
  have next := offset_lt_after place c
  cases begins with
  | nothing none =>
      rw [floor_of_none none] at rest
      exact rest.mono next.le
  | item starts _ none =>
      rw [floor_of_none none] at rest
      exact rest.cons (congrArg Place.offset starts).ge (starts ▸ next)
  | draft draft reads starts =>
      rw [floor_of_some reads, starts] at rest
      exact rest

theorem Begins.paid {place : Place} {result : Found × Mode} (begins : Begins place result) :
    result.1.length + owed result.2 ≤ 1 := by
  cases begins with
  | nothing none | item _ _ none => simp [owed_of_none none]
  | draft draft reads => simp [owed_of_some reads]

theorem advances_step {place : Place} {c : Char} {mode : Mode} (ready : Ready place mode)
    (goesOn : GoesOn (step place c mode)) : Advances place c mode (step place c mode) := by
  have next := offset_lt_after place c
  have outcome := outcome_step place c mode
  generalize step place c mode = result at goesOn outcome ⊢
  cases outcome with
  | begins none begins =>
      refine ⟨fun rest => ?_, ?_⟩
      · rw [floor_of_none none]
        exact begins.ascending c rest
      · rw [owed_of_none none]
        exact begins.paid
  | grows reads carries =>
      obtain ⟨draft', reads', grows⟩ := carries
      refine ⟨fun rest => ?_, ?_⟩
      · rwa [floor_of_some reads', grows.start, ← floor_of_some reads] at rest
      · simp [owed_of_some reads, owed_of_some reads']
  | @ends draft item found mode' reads _ starts _ begins =>
      refine ⟨fun rest => ?_, ?_⟩
      · have before : item.start.offset < place.offset := starts ▸ ready draft reads
        rw [floor_of_some reads, ← starts]
        exact (begins.ascending c rest).cons (Nat.le_refl _) before
      · have paid : found.length + owed mode' ≤ 1 := begins.paid
        simp only [owed_of_some reads, List.length_cons]
        omega
  | @drops found mode' _ absent none =>
      have nothing : found = [] := by
        refine List.eq_nil_iff_forall_not_mem.mpr fun one member => ?_
        cases one with
        | ok item => exact absent item member
        | error error => cases goesOn.inner _ member
      subst nothing
      refine ⟨fun rest => rest.mono ?_, ?_⟩
      · rw [floor_of_none none]
        cases reads : mode.draft? with
        | none => exact (floor_of_none reads).le.trans next.le
        | some draft => exact (floor_of_some reads).le.trans ((ready draft reads).trans next).le
      · simp [owed_of_none none]

theorem ascending_contextFinish {text : List Char} {place : Place} (draft : Draft)
    (context : Context) (before : draft.start.offset < place.offset)
    (placed : context.Placed text draft.start) :
    Ascending draft.start.offset (context.finish draft place) := by
  cases context with
  | bare =>
      have last : Ascending place.offset [.ok (finishItem place)] :=
        ascending_singleton (Nat.le_refl _)
      exact last.cons (Nat.le_refl _) before
  | double opened =>
      obtain ⟨_, _, after⟩ := placed
      exact ascending_singleton after

theorem start_single (op : Doubling) (start : Place) : (op.single start).start = start := by
  cases op with
  | ampersand | bar | semicolon => rfl

theorem ascending_finish {text : List Char} {place : Place} {mode : Mode} (ready : Ready place mode)
    (placed : mode.Placed text []) : Ascending (floor place mode) (finish place mode) := by
  cases mode with
  | halted => exact ascending_nil
  | between | comment => exact ascending_singleton (Nat.le_refl _)
  | continuation start =>
      have bare : Context.bare.Placed text start := trivial
      exact ascending_contextFinish (Draft.push '\\' { start }) .bare (ready { start } rfl) bare
  | operator op start =>
      have last : Ascending place.offset [.ok (finishItem place)] :=
        ascending_singleton (Nat.le_refl _)
      refine last.cons ?_ ?_
      · rw [placeOf, start_single]
        exact Nat.le_refl _
      · rw [placeOf, start_single]
        exact ready { start } rfl
  | word draft =>
      have bare : Context.bare.Placed text draft.start := trivial
      exact ascending_contextFinish draft .bare (ready draft rfl) bare
  | escape draft =>
      have bare : Context.bare.Placed text draft.start := trivial
      exact ascending_contextFinish (draft.push '\\') .bare (ready draft rfl) bare
  | single | double | doubleEscape =>
      obtain ⟨-, _, _, after⟩ := placed
      exact ascending_singleton after
  | dollar hole =>
      exact ascending_contextFinish (hole.draft.push '$') hole.context (ready hole.draft rfl)
        placed.context
  | name hole name =>
      exact ascending_contextFinish (hole.draft.fill (.parameter name)) hole.context
        (ready hole.draft rfl) placed.context
  | braces | bracket | arithmetic | arithmeticEnd | script | back | backEscape =>
      obtain ⟨-, -, _, _, after⟩ := placed
      exact ascending_singleton after

theorem length_finish (place : Place) (mode : Mode) :
    (finish place mode).length ≤ owed mode + 1 := by
  cases mode with
  | dollar hole | name hole =>
      obtain ⟨draft, context, opened⟩ := hole
      cases context <;> simp [finish, Context.finish, owed, Mode.draft?]
  | _ => simp [finish, Context.finish, owed, Mode.draft?]

theorem ascending_run {text rest : List Char} {place : Place} {mode : Mode} (live : mode ≠ .halted)
    (here : At text place rest) (ready : Ready place mode) (placed : mode.Placed text rest) :
    Ascending (floor place mode) (run place mode rest) ∧
      (run place mode rest).length ≤ owed mode + rest.length + 1 := by
  induction rest generalizing place mode with
  | nil => exact ⟨ascending_finish ready placed, length_finish place mode⟩
  | cons c rest ih =>
      rw [run_cons]
      rcases step_goesOn_or_halts place c live with goesOn | ⟨hole, expr, rfl, halts⟩
      · have advances := advances_step ready goesOn
        have sound := sound_step here ready placed
        obtain ⟨ascending, length⟩ := ih goesOn.live here.after (ready_step ready) sound.mode
        refine ⟨advances.ascending ascending, ?_⟩
        have paid := advances.paid
        simp only [List.length_append, List.length_cons]
        omega
      · obtain ⟨-, -, _, _, after⟩ := placed
        simp only [halts, run_halted, List.append_nil]
        exact ⟨ascending_singleton after, by simp⟩

/-! ## A whole text -/

theorem Stands.exists_split {text : String} {one : Except ScanError Item}
    (stands : Stands text.toList one) : ∃ before rest : String, text = before ++ rest ∧
      placeOf one = ⟨before.utf8ByteSize, before.toList.count '\n' + 1⟩ ∧
        Written one rest.toList := by
  obtain ⟨rest, ⟨before, same, past⟩, writes⟩ := stands
  refine ⟨String.ofList before, String.ofList rest, ?_, ?_, ?_⟩
  · rw [← String.ofList_append, ← same, String.ofList_toList]
  · rw [← Place.past_toList, String.toList_ofList, past]
  · rwa [String.toList_ofList]

theorem Stands.eq_finish {text : String} {item : Item} (stands : Stands text.toList (.ok item))
    (ends : isEnd (.ok item) = true) :
    item = finishItem ⟨text.utf8ByteSize, text.toList.count '\n' + 1⟩ := by
  obtain ⟨before, rest, whole, place, writes⟩ := stands.exists_split
  generalize at_rest : rest.toList = chars at writes
  cases writes with
  | @finish start =>
      obtain rfl : rest = "" := String.toList_eq_nil_iff.mp at_rest
      obtain rfl : text = before := by simpa using whole
      exact congrArg finishItem place
  | operator op => cases op <;> cases ends
  | word word =>
      rw [isEnd, word] at ends
      cases ends

/-- A scan finds at most one item for each character and one more. The last is the end of the text,
    or an error, and there is no other of either. Places strictly increase, and each divides the
    text: it tells how many bytes and line breaks come before it, and what comes after it begins as
    the item is written, or with the quote or the dollar sign of what was never closed. -/
theorem scan_places (text : String) :
    (scan text).length ≤ text.length + 1 ∧
    (∃ items last, scan text = items ++ [last] ∧ (∀ one ∈ items, isEnd one = false) ∧
      (last = .ok (finishItem ⟨text.utf8ByteSize, text.toList.count '\n' + 1⟩) ∨
        ∃ error, last = .error error)) ∧
    ((scan text).Pairwise fun one next => (placeOf one).offset < (placeOf next).offset) ∧
    ∀ one ∈ scan text, ∃ before rest : String, text = before ++ rest ∧
      placeOf one = ⟨before.utf8ByteSize, before.toList.count '\n' + 1⟩ ∧
        Written one rest.toList := by
  have live : Mode.between ≠ .halted := by simp
  have here : At text.toList {} text.toList := ⟨[], rfl, rfl⟩
  have ready : Ready {} .between := fun _ reads => by cases reads
  have placed : Mode.between.Placed text.toList text.toList := trivial
  obtain ⟨ascending, length⟩ := ascending_run live here ready placed
  have stands := stands_run here ready placed
  refine ⟨?_, ?_, ascending.sorted, fun one member => (stands one member).exists_split⟩
  · rw [owed_of_none rfl, Nat.zero_add, String.length_toList] at length
    exact length
  · obtain ⟨items, last, same, inner, ends⟩ := (terminated_scan text).eq_append
    refine ⟨items, last, same, inner, ?_⟩
    have there : last ∈ scan text := by simp [same]
    cases last with
    | error error => exact .inr ⟨error, rfl⟩
    | ok item => exact .inl (congrArg Except.ok ((stands _ there).eq_finish ends))

end Scan

end Shell
