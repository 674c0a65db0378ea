import Mathlib.Data.String.Basic
import Shell.Proofs.Token.Endings
import Shell.Proofs.Token.Markers
import Shell.Proofs.Token.Relocation
import Shell.Proofs.Token.Spelling

/-! # Scanning line by line

In every mode in which a text may end, a line break ends whatever the end of the text would end,
and nothing of the mode is left after it. The one exception is a backslash, which takes the line
break away. So a text of two parts with a line break between them has the items of both, and those
of the second part are where they would be without the first, but for what stands before them.
A line break that is taken away changes nothing but places, if it stands between two tokens or in a
word and nothing that it divides would belong together.
-/

namespace Shell

namespace Place

/-- The place with more bytes and lines before it. -/
def shift (bytes lines : Nat) (place : Place) : Place :=
  ⟨place.offset + bytes, place.line + lines⟩

theorem shift_after (bytes lines : Nat) (place : Place) (c : Char) :
    (place.after c).shift bytes lines = (place.shift bytes lines).after c := by
  unfold after shift
  split <;> simp <;> omega

theorem past_eq (place : Place) (text : List Char) :
    place.past text = ⟨place.offset + String.utf8Len text, place.line + text.count '\n'⟩ := by
  induction text generalizing place with
  | nil => rfl
  | cons c text ih =>
      rw [past_cons, ih, after, String.utf8Len_cons, List.count_cons]
      by_cases line : c = '\n' <;> simp [line] <;> omega

theorem past_toList (text : String) :
    ({} : Place).past text.toList = ⟨text.utf8ByteSize, text.toList.count '\n' + 1⟩ := by
  have size : String.utf8Len text.toList = text.utf8ByteSize := by
    rw [← String.utf8ByteSize_ofList, String.ofList_toList]
  rw [past_eq, size]
  simp [Nat.add_comm]

end Place

namespace Scan

/-- A line break ends what the end of the text ends. -/
theorem step_newline {place : Place} {mode : Mode} (live : mode ≠ .halted)
    (known : mode.escapes = false) (whole : ∀ error, .error error ∉ finish place mode) :
    ∃ items : Found, finish place mode = items ++ [.ok (finishItem place)] ∧
      step place '\n' mode = (items ++ [.ok { token := .newline, start := place }], .between) := by
  have broken {found : Found} {error : ScanError} (same : finish place mode = .error error :: found) :
      False := whole error (by simp [same])
  cases mode with
  | halted => exact absurd rfl live
  | between | comment => exact ⟨[], rfl, rfl⟩
  | continuation | escape => cases known
  | operator op start => exact ⟨[.ok (op.single start)], rfl, by cases op <;> rfl⟩
  | word draft => exact ⟨[.ok draft.toItem], rfl, rfl⟩
  | single | double | doubleEscape | braces | bracket | arithmetic | arithmeticEnd | script | back
  | backEscape => exact (broken rfl).elim
  | dollar hole =>
      obtain ⟨draft, context, opened⟩ := hole
      cases context with
      | bare => exact ⟨[.ok (draft.push '$').toItem], rfl, rfl⟩
      | double => exact (broken rfl).elim
  | name hole text =>
      obtain ⟨draft, context, opened⟩ := hole
      cases context with
      | bare => exact ⟨[.ok (draft.fill (.parameter text)).toItem], rfl, rfl⟩
      | double => exact (broken rfl).elim

theorem run_cons (place : Place) (mode : Mode) (c : Char) (rest : List Char) :
    run place mode (c :: rest) =
      (step place c mode).1 ++ run (place.after c) (step place c mode).2 rest := rfl

theorem run_newline {place : Place} {mode : Mode} {text : List Char} (live : mode ≠ .halted)
    (known : mode.escapes = true → text ≠ []) (plain : text.getLast? ≠ some '\\')
    (whole : ∀ error, .error error ∉ run place mode text) (rest : List Char) :
    ∃ items : Found, run place mode text = items ++ [.ok (finishItem (place.past text))] ∧
      run place mode (text ++ '\n' :: rest) =
        items ++ .ok { token := .newline, start := place.past text } ::
          run ((place.past text).after '\n') .between rest := by
  -- the mode is any that the text before the line break can find
  induction text generalizing place mode with
  | nil =>
      have known' : mode.escapes = false := by simpa using known
      obtain ⟨items, ends, breaks⟩ := step_newline live known' whole
      refine ⟨items, ends, ?_⟩
      rw [List.nil_append, run_cons, breaks, List.append_assoc]
      rfl
  | cons c text ih =>
      rcases step_goesOn_or_error place c live with goesOn | ⟨error, halts⟩
      · have known' : (step place c mode).2.escapes = true → text ≠ [] := by
          rintro escaping rfl
          have other : c ≠ '\\' := by simpa using plain
          rw [escapes_step other] at escaping
          cases escaping
        have plain' : text.getLast? ≠ some '\\' := by
          cases text with
          | nil => simp
          | cons d text => simpa using plain
        have whole' : ∀ error, .error error ∉ run (place.after c) (step place c mode).2 text :=
          fun error member => whole error (List.mem_append_right _ member)
        obtain ⟨items, ends, breaks⟩ := ih goesOn.live known' plain' whole'
        refine ⟨(step place c mode).1 ++ items, ?_, ?_⟩
        · rw [run_cons, ends, Place.past_cons, List.append_assoc]
        · rw [List.cons_append, run_cons, breaks, Place.past_cons, List.append_assoc]
      · exact absurd (by simp [run_cons, halts]) (whole error)

/-- Scanning goes line by line. A text whose scan ends without an error, and that does not end in a
    backslash, keeps its items before a line break, except that the item of the line break comes in
    place of that of the end. What follows is scanned as it would be alone, and everything in it
    stands as many bytes and lines further on as the first text and the line break take. -/
theorem scan_newline {a b : String} (whole : ∀ error, .error error ∉ scan a)
    (plain : a.toList.getLast? ≠ some '\\') :
    scan a = (scan a).dropLast ++
        [.ok (finishItem ⟨a.utf8ByteSize, a.toList.count '\n' + 1⟩)] ∧
      scan (a ++ "\n" ++ b) = (scan a).dropLast ++
        .ok { token := .newline, start := ⟨a.utf8ByteSize, a.toList.count '\n' + 1⟩ } ::
          (scan b).map (relocate (Place.shift (a.utf8ByteSize + 1) (a.toList.count '\n' + 1))) := by
  obtain ⟨items, ends, breaks⟩ :=
    @run_newline {} .between a.toList (by simp) nofun plain whole b.toList
  rw [Place.past_toList] at ends breaks
  have known : scan a = items ++ [.ok (finishItem ⟨a.utf8ByteSize, a.toList.count '\n' + 1⟩)] := ends
  have begins : Place.after ⟨a.utf8ByteSize, a.toList.count '\n' + 1⟩ '\n' =
      Place.shift (a.utf8ByteSize + 1) (a.toList.count '\n' + 1) {} := by
    simp [Place.after, Place.shift, Char.utf8Size, Nat.add_comm]
  have further := run_relocate (Place.shift_after (a.utf8ByteSize + 1) (a.toList.count '\n' + 1)) {}
    .between b.toList
  rw [known, List.dropLast_concat]
  refine ⟨rfl, ?_⟩
  have joined : (a ++ "\n" ++ b).toList = a.toList ++ '\n' :: b.toList := by simp
  rw [scan, joined, breaks, begins]
  exact congrArg _ (congrArg _ further)

/-- The dollar sign still waits for a name where the line ends, and the quote is never closed. -/
theorem scan_newline_quote :
    scan "a\n|$" = ([
      .ok { token := .word, start := ⟨0, 1⟩, value := "a" },
      .ok { token := .newline, start := ⟨1, 1⟩ },
      .ok { token := .pipe, start := ⟨2, 2⟩, value := "|" },
      .ok { token := .word, start := ⟨3, 2⟩, value := "$" }] ++
      [.ok (finishItem ⟨4, 2⟩)] : Found) ∧
    scan ("a\n|$" ++ "\n" ++ "é 'b\n") = ([
      .ok { token := .word, start := ⟨0, 1⟩, value := "a" },
      .ok { token := .newline, start := ⟨1, 1⟩ },
      .ok { token := .pipe, start := ⟨2, 2⟩, value := "|" },
      .ok { token := .word, start := ⟨3, 2⟩, value := "$" },
      .ok { token := .newline, start := ⟨4, 2⟩ },
      .ok { token := .word, start := ⟨5, 3⟩, value := "é" },
      .error (.openQuote .single ⟨8, 3⟩)] : Found) := by
  have first : scan "a\n|$" = ([
      .ok { token := .word, start := ⟨0, 1⟩, value := "a" },
      .ok { token := .newline, start := ⟨1, 1⟩ },
      .ok { token := .pipe, start := ⟨2, 2⟩, value := "|" },
      .ok { token := .word, start := ⟨3, 2⟩, value := "$" }] ++
      [.ok (finishItem ⟨4, 2⟩)] : Found) := by decide +kernel
  have lines := @scan_newline "a\n|$" "é 'b\n" (by simp [first]) (by decide)
  refine ⟨first, lines.2.trans ?_⟩
  rw [first]
  decide +kernel

/-! ## Lines that are continued -/

/-- What a text makes of a mode, with what is found on the way. -/
def advance (place : Place) (mode : Mode) : List Char → Found × Mode
  | [] => ([], mode)
  | c :: rest =>
    let (found, mode') := step place c mode
    let (found', mode'') := advance (place.after c) mode' rest
    (found ++ found', mode'')

theorem run_append (place : Place) (mode : Mode) (text rest : List Char) :
    run place mode (text ++ rest) = (advance place mode text).1 ++
      run (place.past text) (advance place mode text).2 rest := by
  induction text generalizing place mode with
  | nil => rfl
  | cons c text ih =>
      rw [List.cons_append, run_cons, ih, ← List.append_assoc, Place.past_cons]
      rfl

/-- What is found, wherever it stands: tokens and all that belongs to them, or the kind of an error. -/
def unplaced (found : Found) : Found :=
  found.map (relocate fun _ => {})

theorem unplaced_append (found rest : Found) :
    unplaced (found ++ rest) = unplaced found ++ unplaced rest :=
  List.map_append

/-- Modes that differ in places only find the same things. -/
theorem unplaced_run {mode mode' : Mode}
    (same : mode.relocate (fun _ => {}) = mode'.relocate fun _ => {}) (place place' : Place)
    (text : List Char) :
    unplaced (run place mode text) = unplaced (run place' mode' text) := by
  induction text generalizing place place' mode mode' with
  | nil =>
      have here := finish_relocate (f := fun _ => {}) place mode
      have there := finish_relocate (f := fun _ => {}) place' mode'
      exact here.symm.trans (same ▸ there)
  | cons c rest ih =>
      have here := step_relocate (f := fun _ => {}) place c mode
      have there := step_relocate (f := fun _ => {}) place' c mode'
      have both := Prod.ext_iff.mp (here.symm.trans (same ▸ there))
      rw [run_cons, run_cons, unplaced_append, unplaced_append, ih both.2]
      exact congrArg (· ++ _) both.1

/-- True for a character that goes on with a substitution after a dollar sign. -/
def isOpener (c : Char) : Bool :=
  c == '(' || c == '\x7b' || isSpecialParameter c || Name.isStart c

theorem step_resume (draft : Draft) (context : Context) (place : Place) (c : Char) :
    step place c (context.resume draft) = context.char draft place c := by
  cases context <;> rfl

theorem finish_resume (draft : Draft) (context : Context) (place : Place) :
    finish place (context.resume draft) = context.finish draft place := by
  cases context <;> rfl

theorem run_dollar {rest : List Char} (plain : ∀ c ∈ rest.head?, isOpener c = false)
    (place : Place) (hole : Hole) :
    run place (.dollar hole) rest =
      run place (hole.context.resume (hole.draft.push '$')) rest := by
  cases rest with
  | nil => exact (finish_resume _ _ _).symm
  | cons c rest =>
      have other := plain c rfl
      simp only [isOpener, Bool.or_eq_false_iff, beq_eq_false_iff_ne] at other
      obtain ⟨⟨⟨noBracket, noBrace⟩, noParameter⟩, noName⟩ := other
      have here : step place c (.dollar hole) = hole.context.char (hole.draft.push '$') place c := by
        simp only [step, dollarChar, if_neg noBracket, if_neg noBrace, noParameter, noName,
          Bool.false_eq_true, if_false]
      rw [run_cons, run_cons, here, step_resume]

theorem run_name {rest : List Char} (plain : ∀ c ∈ rest.head?, Name.isPart c = false)
    (place : Place) (hole : Hole) (text : String) :
    run place (.name hole text) rest = run place (hole.fill (.parameter text)) rest := by
  cases rest with
  | nil => exact (finish_resume _ _ _).symm
  | cons c rest =>
      have here : step place c (.name hole text) =
          hole.context.char (hole.draft.fill (.parameter text)) place c := by
        simp only [step, plain c rfl, Bool.false_eq_true, if_false]
      rw [run_cons, run_cons, here, Hole.fill, step_resume]

theorem run_single {op : Doubling} {rest : List Char} (plain : rest.head? ≠ some op.char)
    (place start : Place) :
    run place (.operator op start) rest = .ok (op.single start) :: run place .between rest := by
  cases rest with
  | nil => rfl
  | cons c rest =>
      have other : c ≠ op.char := by simpa using plain
      simp only [run_cons, step, if_neg other, List.cons_append]

/-- A mode between two tokens or in a word, outside quotes and substitutions, in which what follows
    does not go on with an operator, with the substitution of a dollar sign or with a name. -/
def Mode.BreaksBefore (next : Option Char) : Mode → Prop
  | .between | .word _ => True
  | .operator op _ => next ≠ some op.char
  | .dollar hole => hole.context = .bare ∧ ∀ c ∈ next, isOpener c = false
  | .name hole _ => hole.context = .bare ∧ ∀ c ∈ next, Name.isPart c = false
  | _ => False

theorem unplaced_run_continuation {mode : Mode} {rest : List Char}
    (breaks : mode.BreaksBefore rest.head?) (place : Place) :
    unplaced (run place mode ('\\' :: '\n' :: rest)) = unplaced (run place mode rest) := by
  cases mode with
  | between => exact unplaced_run rfl _ _ rest
  | word draft => exact unplaced_run rfl _ _ rest
  | operator op start =>
      rw [run_single breaks, run_single (by cases op <;> simp [Doubling.char])]
      exact congrArg (_ :: ·) (unplaced_run rfl _ _ rest)
  | dollar hole =>
      obtain ⟨draft, context, opened⟩ := hole
      obtain ⟨rfl, plain⟩ := breaks
      rw [run_dollar plain, run_dollar (by rintro _ ⟨rfl⟩; rfl)]
      exact unplaced_run rfl _ _ rest
  | name hole text =>
      obtain ⟨draft, context, opened⟩ := hole
      obtain ⟨rfl, plain⟩ := breaks
      rw [run_name plain, run_name (by rintro _ ⟨rfl⟩; rfl)]
      exact unplaced_run rfl _ _ rest
  | comment | continuation | escape | single | double | doubleEscape | braces | bracket | arithmetic
  | arithmeticEnd | script | back | backEscape | halted => cases breaks

/-- A backslash and a line break may be put between two texts without a change to the tokens, their
    values, quoting and substitutions, or to the kind of the error that ends them. -/
theorem scan_continuation {a b : String}
    (breaks : (advance {} .between a.toList).2.BreaksBefore b.toList.head?) :
    unplaced (scan (a ++ "\\\n" ++ b)) = unplaced (scan (a ++ b)) := by
  have continued : (a ++ "\\\n" ++ b).toList = a.toList ++ '\\' :: '\n' :: b.toList := by simp
  rw [scan, scan, continued, String.toList_append, run_append, run_append, unplaced_append,
    unplaced_append, unplaced_run_continuation breaks]

/-- A name that a semicolon ends, and quotes that are never closed. -/
theorem scan_continuation_name :
    (advance {} .between "a |$n".toList).2.BreaksBefore ";;\"b\" 'c".toList.head? ∧
    unplaced (scan ("a |$n" ++ "\\\n" ++ ";;\"b\" 'c")) =
      unplaced (scan ("a |$n" ++ ";;\"b\" 'c")) ∧
    scan ("a |$n" ++ ";;\"b\" 'c") = [
      .ok { token := .word, start := ⟨0, 1⟩, value := "a" },
      .ok { token := .pipe, start := ⟨2, 1⟩, value := "|" },
      .ok { token := .word, start := ⟨3, 1⟩, value := "\x01", subs := [.parameter "n"] },
      .ok { token := .endCase, start := ⟨5, 1⟩, value := ";;" },
      .ok { token := .word, start := ⟨7, 1⟩, value := "b", quoted := true },
      .error (.openQuote .single ⟨11, 1⟩)] := by
  have breaks : (advance {} .between "a |$n".toList).2.BreaksBefore ";;\"b\" 'c".toList.head? :=
    ⟨rfl, by rintro _ ⟨rfl⟩; rfl⟩
  exact ⟨breaks, scan_continuation breaks, by decide +kernel⟩

/-- Between two ampersands, after a dollar sign and in a name, the backslash and the line break
    divide what belongs together without them. -/
theorem continuation_divides :
    (advance {} .between "&".toList = ([], .operator .ampersand {}) ∧
      unplaced (scan ("&" ++ "\\\n" ++ "&")) = [
        .ok { token := .background, start := {}, value := "&" },
        .ok { token := .background, start := {}, value := "&" }, .ok (finishItem {})] ∧
      unplaced (scan ("&" ++ "&")) =
        [.ok { token := .both, start := {}, value := "&&" }, .ok (finishItem {})]) ∧
    (advance {} .between "$".toList = ([], .dollar ⟨{ start := {} }, .bare, {}⟩) ∧
      unplaced (scan ("$" ++ "\\\n" ++ "x")) =
        [.ok { token := .word, start := {}, value := "$x" }, .ok (finishItem {})] ∧
      unplaced (scan ("$" ++ "x")) =
        [.ok { token := .word, start := {}, value := "\x01", subs := [.parameter "x"] },
          .ok (finishItem {})]) ∧
    advance {} .between "$x".toList = ([], .name ⟨{ start := {} }, .bare, {}⟩ "x") ∧
      unplaced (scan ("$x" ++ "\\\n" ++ "y")) =
        [.ok { token := .word, start := {}, value := "\x01y", subs := [.parameter "x"] },
          .ok (finishItem {})] ∧
      unplaced (scan ("$x" ++ "y")) =
        [.ok { token := .word, start := {}, value := "\x01", subs := [.parameter "xy"] },
          .ok (finishItem {})] := by
  decide +kernel

end Scan

end Shell
