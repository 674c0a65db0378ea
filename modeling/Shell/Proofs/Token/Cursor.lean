import Shell.Proofs.Token.Endings
import Shell.Token.Handover

/-! # Token streams as cursors

A cursor into the items of a scan says what a stream hands out, and when it is over. Each pull passes
the line breaks that are to be left out and the item after them, so no item is met twice, and none is
passed unseen but those. A stream that has all its items at hand replies as the cursor does.
-/

namespace Shell

open Scan

/-- Two ways of doing operations that agree step by step give the same replies. -/
theorem StreamOp.replies_congr {σ α β : Type} (Agree : α → β → Prop)
    {perform : StreamOp σ → α → Option (Except ScanError Item) × α}
    {perform' : StreamOp σ → β → Option (Except ScanError Item) × β}
    {finished : α → Bool} {finished' : β → Bool}
    (step : ∀ {a b}, Agree a b → ∀ op,
      (perform op a).1 = (perform' op b).1 ∧ Agree (perform op a).2 (perform' op b).2)
    (agree_finished : ∀ {a b}, Agree a b → finished a = finished' b) (script : List (StreamOp σ))
    {a : α} {b : β} (agree : Agree a b) :
    replies perform finished script a = replies perform' finished' script b := by
  induction script generalizing a b with
  | nil => rfl
  | cons op script ih =>
      obtain ⟨handed, agree'⟩ := step agree op
      simp only [replies, handed, agree_finished agree', ih agree']

def isNewline : Except ScanError Item → Bool
  | .error _ => false
  | .ok item => item.token == .newline

structure Cursor (σ : Type) where
  /-- How many items are behind it. -/
  taken : Nat := 0
  options : StreamOptions
  hook : Option (AliasHook σ) := none
  memory : σ
  /-- The end of the text or an error was handed out. -/
  ended : Bool := false
  /-- There was a direct cancellation. -/
  stopped : Bool := false
  /-- There was a cancellation through a handle. -/
  requested : Bool := false
  /-- A pull came after that. -/
  noticed : Bool := false

namespace Cursor

variable {σ : Type} {items : List (Except ScanError Item)} {cursor : Cursor σ}

def isOver (cursor : Cursor σ) : Bool :=
  cursor.ended || cursor.stopped || cursor.requested

/-- A cancellation through a handle does not show before the next pull. -/
def isFinished (cursor : Cursor σ) : Bool :=
  cursor.ended || cursor.stopped || cursor.noticed

/-- What an item is handed out as, and what the hook remembers then. -/
def present (cursor : Cursor σ) : Except ScanError Item → Except ScanError Item × σ
  | .error error => (.error error, cursor.memory)
  | .ok item =>
    if item.token = .word ∧ item.quoted = false ∧ item.subs = [] then
      match cursor.options.resolveKeywords, Token.ofReserved? item.value with
      | true, some token => (.ok { item with token }, cursor.memory)
      | _, _ =>
        match cursor.options.resolveAliases, cursor.hook with
        | true, some hook =>
          (.ok ((hook item cursor.memory).1.getD item), (hook item cursor.memory).2)
        | _, _ => (.ok item, cursor.memory)
    else (.ok item, cursor.memory)

/-- How many of some items are left out before one is handed out. -/
def skipped (options : StreamOptions) (ahead : List (Except ScanError Item)) : Nat :=
  if options.suppressNewlines then (ahead.takeWhile isNewline).length else 0

def pull (items : List (Except ScanError Item)) (cursor : Cursor σ) :
    Option (Except ScanError Item) × Cursor σ :=
  if cursor.isOver then (none, { cursor with noticed := cursor.noticed || cursor.requested })
  else
    let place := cursor.taken + skipped cursor.options (items.drop cursor.taken)
    match items[place]? with
    | none => (none, cursor)
    | some found =>
      let (shown, memory) := cursor.present found
      (some shown, { cursor with taken := place + 1, memory, ended := isEnd found })

def perform (items : List (Except ScanError Item)) :
    StreamOp σ → Cursor σ → Option (Except ScanError Item) × Cursor σ
  | .pull, cursor => cursor.pull items
  | .setOptions options, cursor => (none, { cursor with options })
  | .setHook hook, cursor => (none, { cursor with hook := some hook })
  | .cancel, cursor => (none, { cursor with stopped := true })
  | .requestCancel, cursor => (none, { cursor with requested := true })

def replies (items : List (Except ScanError Item)) (script : List (StreamOp σ))
    (cursor : Cursor σ) : List Reply :=
  StreamOp.replies (perform items) isFinished script cursor

def after (items : List (Except ScanError Item)) (script : List (StreamOp σ)) (cursor : Cursor σ) :
    Cursor σ :=
  script.foldl (fun cursor op => (perform items op cursor).2) cursor

theorem skipped_cons_newline {options : StreamOptions} {found : Except ScanError Item}
    {rest : List (Except ScanError Item)} (suppress : options.suppressNewlines = true)
    (newline : isNewline found = true) :
    skipped options (found :: rest) = skipped options rest + 1 := by
  simp [skipped, suppress, newline]

theorem skipped_cons_other {options : StreamOptions} {found : Except ScanError Item}
    {rest : List (Except ScanError Item)}
    (other : ¬(options.suppressNewlines = true ∧ isNewline found = true)) :
    skipped options (found :: rest) = 0 := by
  by_cases suppress : options.suppressNewlines = true
  · have notNewline : ¬isNewline found = true := fun newline => other ⟨suppress, newline⟩
    simp [skipped, notNewline]
  · simp [skipped, suppress]

theorem skipped_lt (options : StreamOptions) {ahead : List (Except ScanError Item)}
    (terminated : Terminated ahead) : skipped options ahead < ahead.length := by
  induction terminated with
  | @last found ends =>
      have notNewline : isNewline found = false := by
        cases found with
        | error error => rfl
        | ok item =>
            have finish : item.token = .finish := by simpa [isEnd] using ends
            simp [isNewline, finish]
      rw [skipped_cons_other (by simp [notNewline])]
      exact Nat.one_pos
  | @cons found rest inner terminated ih =>
      by_cases left : options.suppressNewlines = true ∧ isNewline found = true
      · rw [skipped_cons_newline left.1 left.2]
        simpa using ih
      · simp [skipped_cons_other left]

theorem isOver_eq_false_iff : cursor.isOver = false ↔
    cursor.ended = false ∧ cursor.stopped = false ∧ cursor.requested = false := by
  simp [isOver, and_assoc]

theorem pull_of_isOver (spent : cursor.isOver = true) :
    cursor.pull items = (none, { cursor with noticed := cursor.noticed || cursor.requested }) := by
  simp [pull, spent]

theorem pull_of_live (live : cursor.isOver = false)
    (terminated : Terminated (items.drop cursor.taken)) :
    ∃ found,
      (items.drop cursor.taken)[skipped cursor.options (items.drop cursor.taken)]? = some found ∧
      cursor.pull items =
        (some (cursor.present found).1,
          { cursor with
            taken := cursor.taken + skipped cursor.options (items.drop cursor.taken) + 1
            memory := (cursor.present found).2
            ended := isEnd found }) := by
  refine ⟨_, List.getElem?_eq_getElem (skipped_lt _ terminated), ?_⟩
  simp only [pull, live, Bool.false_eq_true, if_false]
  rw [← List.getElem?_drop, List.getElem?_eq_getElem (skipped_lt _ terminated)]

/-- The items ahead are terminated until the last of them is handed out. -/
structure Sound (items : List (Except ScanError Item)) (cursor : Cursor σ) : Prop where
  ahead : cursor.ended = false → Terminated (items.drop cursor.taken)
  behind : cursor.ended = true → cursor.taken = items.length

theorem Sound.ended_iff (sound : Sound items cursor) :
    cursor.ended = true ↔ cursor.taken = items.length := by
  refine ⟨sound.behind, fun passed => ?_⟩
  cases live : cursor.ended with
  | true => rfl
  | false =>
      have terminated := sound.ahead live
      rw [passed, List.drop_length] at terminated
      cases terminated

theorem Sound.pull (sound : Sound items cursor) : Sound items (cursor.pull items).2 := by
  cases spent : cursor.isOver with
  | true =>
      rw [pull_of_isOver spent]
      exact ⟨sound.ahead, sound.behind⟩
  | false =>
      have live : cursor.ended = false := (isOver_eq_false_iff.mp spent).1
      obtain ⟨found, at_place, pulled⟩ := pull_of_live spent (sound.ahead live)
      rw [pulled]
      constructor
      · intro inner
        have rest := (sound.ahead live).drop at_place inner
        rwa [List.drop_drop, ← Nat.add_assoc] at rest
      · intro ends
        have last := (sound.ahead live).length_eq_of_isEnd at_place ends
        have below := skipped_lt cursor.options (sound.ahead live)
        rw [List.length_drop] at last below
        dsimp only
        omega

theorem Sound.perform (sound : Sound items cursor) (op : StreamOp σ) :
    Sound items (cursor.perform items op).2 := by
  cases op with
  | pull => exact sound.pull
  | setOptions | setHook | cancel | requestCancel => exact ⟨sound.ahead, sound.behind⟩

theorem Sound.after (sound : Sound items cursor) (script : List (StreamOp σ)) :
    Sound items (after items script cursor) := by
  induction script generalizing cursor with
  | nil => exact sound
  | cons op script ih => exact ih (sound.perform op)

theorem isOver_perform (spent : cursor.isOver = true) (op : StreamOp σ) :
    (cursor.perform items op).1 = none ∧ (cursor.perform items op).2.isOver = true := by
  cases op with
  | pull =>
      rw [perform, pull_of_isOver spent]
      exact ⟨rfl, spent⟩
  | setOptions | setHook => exact ⟨rfl, spent⟩
  | cancel | requestCancel => simp [perform, isOver]

theorem replies_of_isOver (spent : cursor.isOver = true) (script : List (StreamOp σ)) :
    ∀ reply ∈ cursor.replies items script, reply.handed = none := by
  induction script generalizing cursor with
  | nil => exact nofun
  | cons op script ih =>
      obtain ⟨nothing, spent'⟩ : (cursor.perform items op).1 = none ∧
          (cursor.perform items op).2.isOver = true := isOver_perform spent op
      exact List.forall_mem_cons.mpr ⟨nothing, ih spent'⟩

theorem replies_append (script later : List (StreamOp σ)) (cursor : Cursor σ) :
    cursor.replies items (script ++ later) =
      cursor.replies items script ++ (after items script cursor).replies items later := by
  induction script generalizing cursor with
  | nil => rfl
  | cons op script ih => exact congrArg (_ :: ·) (ih (cursor.perform items op).2)

theorem pull_flags (cursor : Cursor σ) :
    (cursor.pull items).2.stopped = cursor.stopped ∧
      (cursor.pull items).2.requested = cursor.requested ∧
      (cursor.pull items).2.noticed = (cursor.noticed || cursor.requested) := by
  cases spent : cursor.isOver with
  | true => simp [pull_of_isOver spent]
  | false =>
      have unrequested : cursor.requested = false := (isOver_eq_false_iff.mp spent).2.2
      simp only [pull, spent, Bool.false_eq_true, if_false]
      split <;> simp [unrequested]

theorem raised_after (flag : Cursor σ → Bool) {raising : StreamOp σ}
    (raised : ∀ (cursor : Cursor σ) (op : StreamOp σ),
      flag (cursor.perform items op).2 = true ↔ flag cursor = true ∨ raising = op)
    (script : List (StreamOp σ)) (cursor : Cursor σ) :
    flag (after items script cursor) = true ↔ flag cursor = true ∨ raising ∈ script := by
  induction script generalizing cursor with
  | nil => simp [after]
  | cons op script ih =>
      refine (ih (cursor.perform items op).2).trans ?_
      rw [raised, List.mem_cons, or_assoc]

theorem stopped_after (script : List (StreamOp σ)) (cursor : Cursor σ) :
    (after items script cursor).stopped = true ↔ cursor.stopped = true ∨ .cancel ∈ script := by
  refine raised_after stopped (fun cursor op => ?_) script cursor
  cases op with
  | pull => simp [perform, pull_flags]
  | setOptions | setHook | cancel | requestCancel => simp [perform]

theorem requested_after (script : List (StreamOp σ)) (cursor : Cursor σ) :
    (after items script cursor).requested = true ↔
      cursor.requested = true ∨ .requestCancel ∈ script := by
  refine raised_after requested (fun cursor op => ?_) script cursor
  cases op with
  | pull => simp [perform, pull_flags]
  | setOptions | setHook | cancel | requestCancel => simp [perform]

/-- A cancellation through a handle is noticed by the first pull that comes after it. -/
theorem noticed_after (script : List (StreamOp σ)) (cursor : Cursor σ) :
    (after items script cursor).noticed = true ↔
      cursor.noticed = true ∨ (cursor.requested = true ∧ .pull ∈ script) ∨
        [.requestCancel, .pull].Sublist script := by
  induction script generalizing cursor with
  | nil => simp [after]
  | cons op script ih =>
      refine (ih (cursor.perform items op).2).trans ?_
      cases op with
      | pull =>
          simp only [perform, pull_flags, Bool.or_eq_true, List.mem_cons, true_or, and_true,
            List.sublist_cons_iff, List.cons.injEq, reduceCtorEq, false_and, exists_const, or_false]
          grind
      | setOptions | setHook | cancel => simp [perform, List.sublist_cons_iff]
      | requestCancel =>
          simp only [perform, true_and, List.mem_cons, reduceCtorEq, false_or,
            List.sublist_cons_iff, List.cons.injEq, exists_eq_left', List.singleton_sublist]
          grind

/-- Where a cursor stands between some operations and others. -/
structure Stands (items : List (Except ScanError Item)) (before later : List (StreamOp σ))
    (start : Cursor σ) : Prop where
  /-- The replies that come later are those of the cursor as it stands. -/
  replies : start.replies items (before ++ later) =
    start.replies items before ++ (after items before start).replies items later
  /-- The end of the text or an error has been handed out just when no item is left. -/
  ended : (after items before start).ended = true ↔
    (after items before start).taken = items.length
  /-- It is finished since the end was handed out, since a direct cancellation, or since the first
      pull after a cancellation through a handle. -/
  finished : (after items before start).isFinished = true ↔
    (after items before start).ended = true ∨ .cancel ∈ before ∨
      [.requestCancel, .pull].Sublist before
  /-- After the end or a cancellation nothing is handed out. -/
  silent : (after items before start).ended = true ∨ .cancel ∈ before ∨ .requestCancel ∈ before →
    ∀ reply ∈ (after items before start).replies items later, reply.handed = none
  /-- Before that, a pull hands out something. -/
  supplied : (after items before start).ended = false → .cancel ∉ before →
    .requestCancel ∉ before → ((after items before start).pull items).1.isSome = true

theorem isOver_after_iff (items : List (Except ScanError Item)) (before : List (StreamOp σ))
    (options : StreamOptions) (memory : σ) :
    (after items before { options, memory }).isOver = true ↔
      (after items before { options, memory }).ended = true ∨ .cancel ∈ before ∨
        .requestCancel ∈ before := by
  simp [isOver, or_assoc, stopped_after, requested_after]

theorem stands (terminated : Terminated items) (options : StreamOptions) (memory : σ)
    (before later : List (StreamOp σ)) : Stands items before later { options, memory } := by
  have first : Sound items ({ options, memory } : Cursor σ) := ⟨fun _ => terminated, nofun⟩
  have sound := first.after before
  have spent := isOver_after_iff items before options memory
  refine ⟨replies_append before later _, sound.ended_iff, ?_, ?_, ?_⟩
  · simp [isFinished, or_assoc, stopped_after, noticed_after]
  · intro ends
    exact replies_of_isOver (spent.mpr ends) later
  · intro live uncancelled unrequested
    have notOver : (after items before { options, memory }).isOver = false := by
      rw [Bool.eq_false_iff, ne_eq, spent]
      simp [live, uncancelled, unrequested]
    obtain ⟨found, -, pulled⟩ := pull_of_live notOver (sound.ahead live)
    rw [pulled]
    rfl

end Cursor

namespace TokenStream

variable {σ : Type}

def present (stream : TokenStream σ) : Except ScanError Item → Except ScanError Item × σ
  | .error error => (.error error, stream.memory)
  | .ok item =>
    let (item', memory) := resolve stream.options stream.hook item stream.memory
    (.ok item', memory)

theorem pull_cons_newline {stream : TokenStream σ} {found : Except ScanError Item}
    {rest : List (Except ScanError Item)} (suppress : stream.options.suppressNewlines = true)
    (newline : isNewline found = true) : stream.pull (found :: rest) = stream.pull rest := by
  cases found with
  | error error => cases newline
  | ok item =>
      have token : item.token = .newline := by simpa [isNewline] using newline
      simp [pull, token, suppress]

theorem pull_cons_other {stream : TokenStream σ} {found : Except ScanError Item}
    {rest : List (Except ScanError Item)}
    (other : ¬(stream.options.suppressNewlines = true ∧ isNewline found = true)) :
    stream.pull (found :: rest) =
      (some (stream.present found).1,
        { stream with
          pending := rest
          memory := (stream.present found).2
          finished := isEnd found || stream.finished }) := by
  cases found with
  | error error => rfl
  | ok item =>
      by_cases finish : item.token = .finish
      · simp [pull, present, resolve, Item.isPlainWord, isEnd, finish]
      by_cases newline : item.token = .newline
      · have kept : stream.options.suppressNewlines = false := by
          simpa [isNewline, newline] using other
        simp [pull, present, resolve, Item.isPlainWord, isEnd, newline, kept]
      · have unequal : (item.token == .finish) = false := by simpa using finish
        unfold pull
        split <;> simp_all [present, isEnd]

theorem pull_eq (stream : TokenStream σ) (ahead : List (Except ScanError Item)) :
    stream.pull ahead =
      match ahead[Cursor.skipped stream.options ahead]? with
      | none => (none, { stream with pending := [], finished := true, cancelled := true })
      | some found =>
        (some (stream.present found).1,
          { stream with
            pending := ahead.drop (Cursor.skipped stream.options ahead + 1)
            memory := (stream.present found).2
            finished := isEnd found || stream.finished }) := by
  induction ahead with
  | nil => rfl
  | cons found rest ih =>
      by_cases left : stream.options.suppressNewlines = true ∧ isNewline found = true
      · rw [pull_cons_newline left.1 left.2, ih, Cursor.skipped_cons_newline left.1 left.2]
        rfl
      · rw [pull_cons_other left, Cursor.skipped_cons_other left]
        rfl

/-- A stream is where a cursor is. -/
structure Follows (items : List (Except ScanError Item)) (stream : TokenStream σ)
    (cursor : Cursor σ) : Prop where
  options : stream.options = cursor.options
  hook : stream.hook = cursor.hook
  memory : stream.memory = cursor.memory
  finished : stream.finished = cursor.isFinished
  spent : (stream.finished || stream.cancelled) = cursor.isOver
  ahead : cursor.isOver = false →
    stream.pending = items.drop cursor.taken ∧ Terminated stream.pending

variable {items : List (Except ScanError Item)} {stream : TokenStream σ} {cursor : Cursor σ}

theorem Follows.present (follows : Follows items stream cursor) (found : Except ScanError Item) :
    stream.present found = cursor.present found := by
  cases found with
  | error error => simp [TokenStream.present, Cursor.present, follows.memory]
  | ok item =>
      by_cases plain : item.token = .word ∧ item.quoted = false ∧ item.subs = []
      · obtain ⟨token, quoted, subs⟩ := plain
        have isPlain : item.isPlainWord = true := by simp [Item.isPlainWord, token, quoted, subs]
        simp only [TokenStream.present, resolve, isPlain, Bool.not_true, Bool.false_eq_true,
          if_false, Cursor.present, token, quoted, subs, and_self, if_true, follows.options,
          follows.hook, follows.memory]
        cases cursor.options.resolveKeywords <;> cases Token.ofReserved? item.value <;>
          cases cursor.options.resolveAliases <;> cases cursor.hook <;> try rfl
        all_goals
          rename_i hook
          dsimp only
          rcases hook item cursor.memory with ⟨_ | replacement, memory⟩ <;> rfl
      · have notPlain : item.isPlainWord = false := by
          simpa [Item.isPlainWord] using plain
        simp [TokenStream.present, Cursor.present, resolve, plain, notPlain, follows.memory]

theorem Follows.next (follows : Follows items stream cursor) :
    stream.next.1 = (cursor.pull items).1 ∧ Follows items stream.next.2 (cursor.pull items).2 := by
  have spent := follows.spent
  have finished := follows.finished
  simp only [Cursor.isFinished] at finished
  cases isOver : cursor.isOver with
  | true =>
      rw [isOver] at spent
      simp only [TokenStream.next, spent, if_true, Cursor.pull, isOver, true_and]
      refine ⟨follows.options, follows.hook, follows.memory, ?_, isOver.symm, ?_⟩
      · simp only [Cursor.isOver] at isOver
        simp only [Cursor.isFinished]
        grind
      · simp only [Cursor.isOver] at isOver ⊢
        simp [isOver]
  | false =>
      obtain ⟨pending, terminated⟩ := follows.ahead isOver
      rw [pending] at terminated
      obtain ⟨found, at_place, pulled⟩ := Cursor.pull_of_live isOver terminated
      rw [isOver, Bool.or_eq_false_iff] at spent
      obtain ⟨-, unstopped, unrequested⟩ := Cursor.isOver_eq_false_iff.mp isOver
      simp only [TokenStream.next, spent, Bool.or_self, Bool.false_eq_true, if_false, pull_eq,
        follows.options, pending, at_place, pulled, follows.present, true_and]
      refine ⟨rfl, follows.hook, rfl, ?_, ?_, ?_⟩
      · simp_all [Cursor.isFinished]
      · simp [Cursor.isOver, unstopped, unrequested]
      · intro live
        have inner : isEnd found = false := (Cursor.isOver_eq_false_iff.mp live).1
        refine ⟨?_, terminated.drop at_place inner⟩
        rw [List.drop_drop, Nat.add_assoc]

theorem Follows.perform (follows : Follows items stream cursor) (op : StreamOp σ) :
    (stream.perform op).1 = (cursor.perform items op).1 ∧
      Follows items (stream.perform op).2 (cursor.perform items op).2 := by
  cases op with
  | pull => exact follows.next
  | setOptions options => exact ⟨rfl, { follows with options := rfl }⟩
  | setHook hook => exact ⟨rfl, { follows with hook := rfl }⟩
  | cancel =>
      refine ⟨rfl, follows.options, follows.hook, follows.memory, ?_, ?_, ?_⟩
      · simp [TokenStream.perform, TokenStream.cancel, Cursor.perform, Cursor.isFinished]
      · simp [TokenStream.perform, TokenStream.cancel, Cursor.perform, Cursor.isOver]
      · intro live
        simp [Cursor.perform, Cursor.isOver] at live
  | requestCancel =>
      refine ⟨rfl, follows.options, follows.hook, follows.memory, follows.finished, ?_, ?_⟩
      · simp [TokenStream.perform, TokenStream.requestCancel, Cursor.perform, Cursor.isOver]
      · intro live
        simp [Cursor.perform, Cursor.isOver] at live

/-- A stream of a text replies as a cursor does that begins at its first item. -/
theorem replies_ofText (text : String) (options : StreamOptions) (memory : σ)
    (script : List (StreamOp σ)) :
    (ofText text options memory).replies script =
      Cursor.replies (scan text) script { options, memory } := by
  refine StreamOp.replies_congr (Follows (scan text)) (fun follows => follows.perform)
    (fun follows => follows.finished) script ⟨rfl, rfl, rfl, rfl, rfl, fun _ => ?_⟩
  exact ⟨rfl, terminated_scan text⟩

end TokenStream

end Shell
