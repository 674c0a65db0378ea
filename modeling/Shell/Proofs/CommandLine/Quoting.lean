import Shell.Argument
import Shell.Proofs.Token.Enclosed
import Shell.Proofs.Token.Lines

/-! # Arguments between double quotes

An argument divides into characters, escapes and substitutions, and the scanner finds the same
parts between double quotes. So it finds one word there or an error, whatever the argument. What
it records of a substitution is what is spelled, which is what is typed where nothing is escaped.
-/

namespace Shell

namespace Argument

/-! ## Spelling -/

/-- A character that does not escape what follows it. -/
def Lone (c : Char) (rest : List Char) : Prop :=
  c = '\\' → ∀ d ∈ rest.head?, d ≠ '$' ∧ d ≠ '`'

/-- A text, one character or escape after the other. -/
inductive Units : List Char → Prop where
  | nil : Units []
  | escape {c : Char} {rest : List Char} :
    c = '$' ∨ c = '`' → Units rest → Units ('\\' :: c :: rest)
  | char {c : Char} {rest : List Char} : Lone c rest → Units rest → Units (c :: rest)

theorem units (text : List Char) : Units text := by
  induction text using (measure List.length).wf.induction with
  | _ text ih =>
      cases text with
      | nil => exact .nil
      | cons c rest =>
          by_cases lone : Lone c rest
          · exact .char lone (ih rest (Nat.lt_succ_self _))
          · obtain ⟨rfl, d, next, special⟩ :
                c = '\\' ∧ ∃ d, d ∈ rest.head? ∧ ¬(d ≠ '$' ∧ d ≠ '`') := by
              simpa [Lone] using lone
            obtain ⟨rest, rfl⟩ := List.head?_eq_some_iff.mp next
            have escaped : d = '$' ∨ d = '`' := by
              by_contra other
              exact special (not_or.mp other)
            exact .escape escaped (ih rest (Nat.lt_succ_of_lt (Nat.lt_succ_self _)))

theorem spell_escape {c : Char} (escaped : c = '$' ∨ c = '`') (rest : List Char) :
    spell ('\\' :: c :: rest) = '\\' :: c :: spell rest := by
  rcases escaped with rfl | rfl <;> rfl

theorem spell_char {c : Char} {rest : List Char} (lone : Lone c rest) :
    spell (c :: rest) = (if c = '\\' ∨ c = '"' then ['\\', c] else [c]) ++ spell rest := by
  rw [spell]
  congr 1
  fun_cases spellChar c rest with
  | case1 => exact absurd rfl (lone rfl _ rfl).1
  | case2 => exact absurd rfl (lone rfl _ rfl).2
  | case3 => rfl
  | case4 => rfl
  | case5 c rest _ _ noBackslash noQuote => rw [if_neg (not_or.mpr ⟨noBackslash, noQuote⟩)]

theorem spell_plain {c : Char} (plain : c ≠ '\\' ∧ c ≠ '"') (rest : List Char) :
    spell (c :: rest) = c :: spell rest := by
  rw [spell_char (fun same => absurd same plain.1), if_neg (not_or.mpr plain)]
  rfl

theorem exists_of_append_eq {c : Char} {unit text read rest : List Char} (absent : c ∉ unit)
    (same : unit ++ text = read ++ c :: rest) :
    ∃ read', read = unit ++ read' ∧ text = read' ++ c :: rest := by
  rcases List.append_eq_append_iff.mp same with later | ⟨unit', rfl, split⟩
  · exact later
  cases unit' with
  | nil => exact ⟨[], by simp, split.symm⟩
  | cons d unit' =>
      obtain ⟨rfl, -⟩ := List.cons.inj split
      simp at absent

theorem exists_of_spell_eq {text read rest : List Char} {c : Char} (closer : c = ')' ∨ c = '\x7d')
    (spelled : spell text = read ++ c :: rest) :
    ∃ before after, text = before ++ c :: after ∧ spell (before ++ [c]) = read ++ [c] ∧
      spell after = rest := by
  have plain : c ≠ '\\' ∧ c ≠ '"' := by rcases closer with rfl | rfl <;> decide
  induction units text generalizing read with
  | nil => simp [spell] at spelled
  | @escape d text escaped _ ih =>
      have absent : c ∉ ['\\', d] := by
        rcases closer with rfl | rfl <;> rcases escaped with rfl | rfl <;> decide
      rw [spell_escape escaped] at spelled
      obtain ⟨read, rfl, further⟩ := exists_of_append_eq absent spelled
      obtain ⟨before, after, rfl, first, second⟩ := ih further
      refine ⟨'\\' :: d :: before, after, rfl, ?_, second⟩
      rw [List.cons_append, List.cons_append, spell_escape escaped, first]
      rfl
  | @char d text lone _ ih =>
      by_cases same : d = c
      · subst same
        rw [spell_plain plain] at spelled
        cases read with
        | nil => exact ⟨[], text, rfl, spell_plain plain [], (List.cons.inj spelled).2⟩
        | cons e read =>
            obtain ⟨rfl, further⟩ := List.cons.inj spelled
            obtain ⟨before, after, rfl, first, second⟩ := ih further
            refine ⟨d :: before, after, rfl, ?_, second⟩
            rw [List.cons_append, spell_plain plain, first]
            rfl
      · have absent : c ∉ if d = '\\' ∨ d = '"' then ['\\', d] else [d] := by
          split <;> simp [plain.1, Ne.symm same]
        rw [spell_char lone] at spelled
        obtain ⟨read, rfl, further⟩ := exists_of_append_eq absent spelled
        obtain ⟨before, after, rfl, first, second⟩ := ih further
        have lone' : Lone d (before ++ [c]) := by
          cases before with
          | nil | cons => exact lone
        refine ⟨d :: before, after, rfl, ?_, second⟩
        rw [List.cons_append, spell_char lone', first, List.append_assoc]

theorem spell_append_of_plain {text : List Char} (plain : ∀ c ∈ text, c ≠ '\\' ∧ c ≠ '"')
    (rest : List Char) : spell (text ++ rest) = text ++ spell rest := by
  induction text with
  | nil => rfl
  | cons c text ih =>
      obtain ⟨here, plain⟩ := List.forall_mem_cons.mp plain
      rw [List.cons_append, spell_plain here, ih plain]
      rfl

theorem head?_spell {p : Char → Bool} (backslash : p '\\' = false) (quote : p '"' = false)
    {text : List Char} (plain : ∀ c ∈ text.head?, p c = false) :
    ∀ c ∈ (spell text ++ ['"']).head?, p c = false := by
  cases units text with
  | nil =>
      rintro _ ⟨rfl⟩
      exact quote
  | escape escaped _ =>
      rw [spell_escape escaped]
      rintro _ ⟨rfl⟩
      exact backslash
  | char lone _ =>
      rw [spell_char lone]
      split
      · rintro _ ⟨rfl⟩
        exact backslash
      · rintro _ ⟨rfl⟩
        exact plain _ rfl

/-! ## The parts of an argument -/

/-- A text in back quotes, up to the first that is not escaped, and the script recorded for it. -/
inductive BackQuoted : List Char → List Char → Prop where
  | nil : BackQuoted [] []
  | escape {c : Char} {text script : List Char} :
    c = '$' ∨ c = '`' → BackQuoted text script → BackQuoted ('\\' :: c :: text) (c :: script)
  /-- A quote is recorded with the backslash that it is spelled with. -/
  | quote {text script : List Char} :
    BackQuoted text script → BackQuoted ('"' :: text) ('\\' :: '"' :: script)
  | char {c : Char} {text script : List Char} :
    c ≠ '`' → c ≠ '"' → (c = '\\' → text ≠ []) → Lone c text → BackQuoted text script →
      BackQuoted (c :: text) (c :: script)

/-- A part of an argument. -/
inductive Fragment where
  | char (c : Char)
  /-- A dollar sign or a back quote, after a backslash. -/
  | escape (c : Char)
  /-- A dollar sign and the name of a variable or of a special parameter. -/
  | parameter (name : String)
  /-- A substitution in brackets or braces, as it is typed and as it is recorded. -/
  | enclosed (typed : List Char) (sub : Substitution)
  /-- A script in back quotes, as it is typed between them and as it is recorded. -/
  | back (typed script : List Char)

/-- What a substitution is rendered to ends with the bracket or the brace that closes it. -/
theorem exists_render_eq (sub : Substitution) :
    ∃ read c, sub.render.toList = read ++ [c] ∧ (c = ')' ∨ c = '\x7d') := by
  cases sub with
  | parameter name =>
      exact ⟨'$' :: '\x7b' :: name.toList, '\x7d', by simp [Substitution.render], .inr rfl⟩
  | arithmetic expr =>
      exact ⟨'$' :: '(' :: '(' :: (expr.toList ++ [')']), ')', by simp [Substitution.render],
        .inl rfl⟩
  | command script =>
      exact ⟨'$' :: '(' :: script.toList, ')', by simp [Substitution.render], .inl rfl⟩

namespace Fragment

def typed : Fragment → List Char
  | char c => [c]
  | escape c => ['\\', c]
  | parameter name => '$' :: name.toList
  | enclosed typed _ => typed
  | back typed _ => '`' :: (typed ++ ['`'])

def sub? : Fragment → Option Substitution
  | char _ | escape _ => none
  | parameter name => some (.parameter name)
  | enclosed _ sub => some sub
  | back _ script => some (.command (String.ofList script))

def Fits (rest : List Char) : Fragment → Prop
  | char c => c ≠ '`' ∧ (c = '$' → ∀ d ∈ rest.head?, Scan.isOpener d = false) ∧ Lone c rest
  | escape c => c = '$' ∨ c = '`'
  | parameter name =>
    (∃ c, Scan.isSpecialParameter c = true ∧ name = String.singleton c) ∨
      (Name.isValid name.toList = true ∧ ∀ d ∈ rest.head?, Name.isPart d = false)
  | enclosed typed sub => sub.render.toList = spell typed ∧ Scan.Takes sub
  | back typed script => BackQuoted typed script

theorem typed_ne_nil {fragment : Fragment} {rest : List Char} (fits : fragment.Fits rest) :
    fragment.typed ≠ [] := by
  cases fragment with
  | char | escape | parameter | back => simp [typed]
  | enclosed typed sub =>
      rintro (rfl : typed = [])
      obtain ⟨read, c, rendered, -⟩ := exists_render_eq sub
      have empty : sub.render.toList = [] := fits.1
      simp [rendered] at empty

end Fragment

/-- An argument consists of these parts. -/
inductive Divided : List Char → List Fragment → Prop where
  | nil : Divided [] []
  | cons {fragment : Fragment} {rest : List Char} {fragments : List Fragment} :
    fragment.Fits rest → Divided rest fragments →
      Divided (fragment.typed ++ rest) (fragment :: fragments)

end Argument

/-- The draft with a part of an argument. A marker is dropped. -/
def Draft.join (draft : Draft) : Argument.Fragment → Draft
  | .char c => if c = marker then draft else draft.push c
  | .escape c => draft.push c
  | .parameter name => draft.fill (.parameter name)
  | .enclosed _ sub => draft.fill sub
  | .back _ script => draft.fill (.command (String.ofList script))

namespace Argument

open Scan

/-- What the rest of an argument adds to a draft: its parts, and then nothing is left, or an error. -/
def Reads (text : List Char) (draft : Draft) (found : Found) : Prop :=
  (∃ fragments place, Divided text fragments ∧
    found = [.ok (fragments.foldl Draft.join draft).toItem, .ok (finishItem place)]) ∨
  ∃ error, found = [.error error]

theorem Reads.cons (fragment : Fragment) {rest : List Char} {draft : Draft} {found : Found}
    (fits : fragment.Fits rest) (reads : Reads rest (draft.join fragment) found) :
    Reads (fragment.typed ++ rest) draft found := by
  rcases reads with ⟨fragments, place, divided, same⟩ | fails
  · exact .inl ⟨fragment :: fragments, place, .cons fits divided, same⟩
  · exact .inr fails

/-- Every text that is shorter than an argument is read, after whatever word. -/
def ReadsShorter (opened : Place) (argument : List Char) : Prop :=
  ∀ text : List Char, text.length < argument.length → ∀ place draft,
    Reads text draft (run place (.double draft opened) (spell text ++ ['"']))

theorem reads_part {opened : Place} (fragment : Fragment) {rest : List Char}
    (fits : fragment.Fits rest) (shorter : ReadsShorter opened (fragment.typed ++ rest))
    (place : Place) (draft : Draft) :
    Reads (fragment.typed ++ rest) draft
      (run place (.double (draft.join fragment) opened) (spell rest ++ ['"'])) := by
  have some : 0 < fragment.typed.length := List.length_pos_iff.mpr (Fragment.typed_ne_nil fits)
  have less : rest.length < (fragment.typed ++ rest).length := by
    rw [List.length_append]
    omega
  exact .cons fragment fits (shorter rest less place _)

/-! ## One part -/

/-- What a text adds to a script in back quotes: what is typed up to a back quote, or an error. -/
def Closes (text : List Char) (hole : Hole) (script : String) (found : Found) : Prop :=
  (∃ typed recorded rest place, text = typed ++ '`' :: rest ∧ BackQuoted typed recorded ∧
    found = run place (hole.fill (.command (script ++ String.ofList recorded)))
      (spell rest ++ ['"'])) ∨
  ∃ error, found = [.error error]

/-- The script goes on with what is recorded for a first part. -/
theorem Closes.append {text : List Char} {hole : Hole} {script : String} {found : Found}
    (first recorded : List Char) (closes : Closes text hole (script ++ String.ofList recorded) found)
    (grows : ∀ typed recorded' rest, text = typed ++ '`' :: rest → BackQuoted typed recorded' →
      BackQuoted (first ++ typed) (recorded ++ recorded')) :
    Closes (first ++ text) hole script found := by
  rcases closes with ⟨typed, recorded', rest, place, same, closed, yields⟩ | fails
  · refine .inl ⟨first ++ typed, recorded ++ recorded', rest, place, ?_,
      grows typed recorded' rest same closed, ?_⟩
    · rw [same, List.append_assoc]
    · rw [yields, String.append_assoc, ← String.ofList_append]
  · exact .inr fails

theorem exists_run_back {c : Char} {text : List Char} (lone : Lone c text) (opening : c ≠ '`')
    (plain : c ≠ '"') (place : Place) (hole : Hole) (script : String) :
    ∃ place', run place (.back hole script) (spell (c :: text) ++ ['"']) =
      run place' (.back hole (script ++ String.ofList [c])) (spell text ++ ['"']) := by
  rw [← push_append, String.ofList_nil, String.append_empty]
  by_cases backslash : c = '\\'
  · subst backslash
    rw [spell_char lone]
    exact ⟨(place.after '\\').after '\\', rfl⟩
  · refine ⟨place.after c, ?_⟩
    rw [spell_plain ⟨backslash, plain⟩, List.cons_append, run_cons]
    simp only [step, if_neg opening, if_neg backslash, List.nil_append]

theorem closes_back (text : List Char) (place : Place) (hole : Hole) (script : String) :
    Closes text hole script (run place (.back hole script) (spell text ++ ['"'])) := by
  induction units text generalizing place script with
  | nil => exact .inr ⟨_, rfl⟩
  | @escape c text escaped _ ih =>
      have here : run place (.back hole script) (spell ('\\' :: c :: text) ++ ['"']) =
          run ((place.after '\\').after c) (.back hole (script ++ String.ofList [c]))
            (spell text ++ ['"']) := by
        rw [spell_escape escaped, ← push_append, String.ofList_nil, String.append_empty]
        rcases escaped with rfl | rfl <;> rfl
      rw [here]
      exact (ih _ _).append ['\\', c] [c] fun _ _ _ _ closed => .escape escaped closed
  | @char c text lone _ ih =>
      by_cases closing : c = '`'
      · subst closing
        refine .inl ⟨[], [], text, place.after '`', rfl, .nil, ?_⟩
        rw [spell_plain (by decide), String.ofList_nil, String.append_empty]
        rfl
      by_cases quote : c = '"'
      · subst quote
        have here : run place (.back hole script) (spell ('"' :: text) ++ ['"']) =
            run ((place.after '\\').after '"') (.back hole (script ++ String.ofList ['\\', '"']))
              (spell text ++ ['"']) := by
          rw [spell_char lone, ← push_append, ← push_append, String.ofList_nil,
            String.append_empty]
          rfl
        rw [here]
        exact (ih _ _).append ['"'] ['\\', '"'] fun _ _ _ _ closed => .quote closed
      obtain ⟨place', here⟩ := exists_run_back lone closing quote place hole script
      rw [here]
      refine (ih place' _).append [c] [c] fun typed recorded rest same closed => ?_
      rw [same] at lone
      have lone' : Lone c typed := by
        cases typed with
        | nil => simp [Lone]
        | cons => exact lone
      have some : c = '\\' → typed ≠ [] := by
        rintro rfl rfl
        exact (lone rfl _ rfl).2 rfl
      exact .char closing quote some lone' closed

section Parts

variable {opened : Place} {rest : List Char}

theorem reads_back (shorter : ReadsShorter opened ('`' :: rest)) (place : Place) (draft : Draft) :
    Reads ('`' :: rest) draft (run place (.double draft opened) (spell ('`' :: rest) ++ ['"'])) := by
  have here : run place (.double draft opened) (spell ('`' :: rest) ++ ['"']) =
      run (place.after '`') (.back ⟨draft, .double opened, place⟩ "") (spell rest ++ ['"']) := by
    rw [spell_plain (by decide)]
    rfl
  rw [here]
  rcases closes_back rest (place.after '`') ⟨draft, .double opened, place⟩ "" with
    ⟨typed, recorded, after, place', rfl, closed, same⟩ | fails
  · rw [same, String.empty_append]
    have parts : '`' :: (typed ++ '`' :: after) =
        (Fragment.back typed recorded).typed ++ after := by simp [Fragment.typed]
    rw [parts] at shorter ⊢
    exact reads_part (.back typed recorded) closed shorter place' draft
  · exact .inr fails

theorem leads_name {text : List Char} (parts : ∀ c ∈ text, Name.isPart c = true) (place : Place)
    (hole : Hole) (name : String) :
    Leads place (.name hole name) text (.name hole (name ++ String.ofList text)) := by
  induction text generalizing place name with
  | nil => simpa using Leads.nil
  | cons c text ih =>
      obtain ⟨here, parts⟩ := List.forall_mem_cons.mp parts
      rw [← push_append]
      refine .cons (.name hole (name.push c)) ?_ (ih parts _ _)
      simp only [step, here, if_true]

theorem leads_parameter {c : Char} {parts : List Char} (ordinary : isSpecialParameter c = false)
    (starts : Name.isStart c = true) (isParts : ∀ d ∈ parts, Name.isPart d = true) (place : Place)
    (draft : Draft) :
    Leads place (.double draft opened) ('$' :: c :: parts)
      (.name ⟨draft, .double opened, place⟩ (String.ofList (c :: parts))) := by
  have other : c ≠ '(' ∧ c ≠ '\x7b' := by
    constructor
    all_goals
      rintro rfl
      exact absurd starts (by decide)
  have here : step (place.after '$') c (.dollar ⟨draft, .double opened, place⟩) =
      ([], .name ⟨draft, .double opened, place⟩ (String.singleton c)) := by
    simp only [step, dollarChar, if_neg other.1, if_neg other.2, ordinary, starts,
      Bool.false_eq_true, if_false, if_true]
  have further := leads_name isParts ((place.after '$').after c) ⟨draft, .double opened, place⟩
    (String.singleton c)
  rw [show String.singleton c ++ String.ofList parts = String.ofList (c :: parts) by simp] at further
  exact .cons (.dollar ⟨draft, .double opened, place⟩) rfl (.cons _ here further)

theorem exists_longest_name (text : List Char) : ∃ parts rest, text = parts ++ rest ∧
    (∀ c ∈ parts, Name.isPart c = true) ∧ ∀ c ∈ rest.head?, Name.isPart c = false := by
  refine ⟨text.takeWhile Name.isPart, text.dropWhile Name.isPart,
    List.takeWhile_append_dropWhile.symm, List.all_eq_true.mp List.all_takeWhile, ?_⟩
  have next := List.head?_dropWhile_not Name.isPart text
  cases same : (text.dropWhile Name.isPart).head? with
  | none => simp
  | some c => simpa [same] using next

theorem plain_of_isPart {c : Char} (part : Name.isPart c = true) : c ≠ '\\' ∧ c ≠ '"' := by
  constructor
  all_goals
    rintro rfl
    exact absurd part (by decide)

theorem reads_name {c : Char} (ordinary : isSpecialParameter c = false)
    (starts : Name.isStart c = true) (shorter : ReadsShorter opened ('$' :: c :: rest))
    (place : Place) (draft : Draft) :
    Reads ('$' :: c :: rest) draft
      (run place (.double draft opened) (spell ('$' :: c :: rest) ++ ['"'])) := by
  obtain ⟨parts, after, rfl, isParts, ends⟩ := exists_longest_name rest
  have isParts' : ∀ d ∈ c :: parts, Name.isPart d = true :=
    List.forall_mem_cons.mpr ⟨Name.isPart_of_isStart starts, isParts⟩
  have plain : ∀ d ∈ '$' :: c :: parts, d ≠ '\\' ∧ d ≠ '"' :=
    List.forall_mem_cons.mpr ⟨by decide, fun d member => plain_of_isPart (isParts' d member)⟩
  have split : '$' :: c :: (parts ++ after) =
      (Fragment.parameter (String.ofList (c :: parts))).typed ++ after := by
    simp [Fragment.typed]
  have spelled : spell ('$' :: c :: (parts ++ after)) ++ ['"'] =
      '$' :: c :: parts ++ (spell after ++ ['"']) := by
    rw [← List.cons_append, ← List.cons_append, spell_append_of_plain plain, List.append_assoc]
  have valid : Name.isValid (String.ofList (c :: parts)).toList = true := by
    rw [String.toList_ofList]
    exact Name.isValid_cons_iff.mpr ⟨starts, isParts⟩
  rw [spelled, leads_parameter ordinary starts isParts,
    run_name (head?_spell (by decide) (by decide) ends)]
  rw [split] at shorter ⊢
  exact reads_part (.parameter _) (.inr ⟨valid, ends⟩) shorter _ draft

theorem reads_enclosed {opener : Char} (opens : opener = '(' ∨ opener = '\x7b')
    (shorter : ReadsShorter opened ('$' :: opener :: rest)) (place : Place) (draft : Draft) :
    Reads ('$' :: opener :: rest) draft
      (run place (.double draft opened) (spell ('$' :: opener :: rest) ++ ['"'])) := by
  have plain : opener ≠ '\\' ∧ opener ≠ '"' := by rcases opens with rfl | rfl <;> decide
  have begun : run place (.double draft opened) (spell ('$' :: opener :: rest) ++ ['"']) =
      run (place.after '$') (.dollar ⟨draft, .double opened, place⟩)
        (opener :: (spell rest ++ ['"'])) := by
    rw [spell_plain (by decide), spell_plain plain]
    rfl
  rw [begun]
  rcases dollar_completes_or_fails opens (spell rest ++ ['"']) with
    ⟨read, c, more, sub, same, closer, rendered, leads⟩ | fails
  · obtain ⟨more, rfl⟩ : ∃ more', more = more' ++ ['"'] := by
      rcases List.eq_nil_or_concat more with rfl | ⟨more', last, rfl⟩
      · have ends := (List.append_inj' same rfl).2
        rcases closer with rfl | rfl <;> simp at ends
      · rw [List.concat_eq_append, ← List.cons_append, ← List.append_assoc] at same
        rw [List.concat_eq_append, (List.append_inj' same rfl).2]
        exact ⟨more', rfl⟩
    have spelled : spell rest = read ++ c :: more := by
      rw [← List.cons_append, ← List.append_assoc] at same
      exact (List.append_inj' same rfl).1
    obtain ⟨before, after, rfl, first, rfl⟩ := exists_of_spell_eq closer spelled
    have typed : sub.render.toList = spell ('$' :: opener :: (before ++ [c])) := by
      rw [rendered, spell_plain (by decide), spell_plain plain, first]
    have parts : opener :: (spell (before ++ c :: after) ++ ['"']) =
        opener :: (read ++ [c]) ++ (spell after ++ ['"']) := by
      rw [spelled]
      simp
    have split : '$' :: opener :: (before ++ c :: after) =
        (Fragment.enclosed ('$' :: opener :: (before ++ [c])) sub).typed ++ after := by
      simp [Fragment.typed]
    rw [parts, leads]
    rw [split] at shorter ⊢
    exact reads_part (.enclosed _ sub) ⟨typed, takes_of_leads rendered leads⟩ shorter _ draft
  · exact .inr ⟨_, fails _ _⟩

theorem reads_special {c : Char} (special : isSpecialParameter c = true)
    (shorter : ReadsShorter opened ('$' :: c :: rest)) (place : Place) (draft : Draft) :
    Reads ('$' :: c :: rest) draft
      (run place (.double draft opened) (spell ('$' :: c :: rest) ++ ['"'])) := by
  have ⟨noBracket, noBrace, plain⟩ :
      c ≠ '(' ∧ c ≠ '\x7b' ∧ ∀ d ∈ ['$', c], d ≠ '\\' ∧ d ≠ '"' := by
    refine ⟨?_, ?_, List.forall_mem_cons.mpr ⟨by decide, List.forall_mem_singleton.mpr ⟨?_, ?_⟩⟩⟩
    all_goals
      rintro rfl
      exact absurd special (by decide)
  have here : step (place.after '$') c (.dollar ⟨draft, .double opened, place⟩) =
      ([], .double (draft.join (.parameter (String.singleton c))) opened) := by
    simp only [step, dollarChar, if_neg noBracket, if_neg noBrace, special, if_true]
    rfl
  have leads : Leads place (.double draft opened) ['$', c]
      (.double (draft.join (.parameter (String.singleton c))) opened) :=
    .cons (.dollar ⟨draft, .double opened, place⟩) rfl (.cons _ here .nil)
  have spelled : spell ('$' :: c :: rest) ++ ['"'] = ['$', c] ++ (spell rest ++ ['"']) :=
    congrArg (· ++ ['"']) (spell_append_of_plain plain rest)
  have split : '$' :: c :: rest = (Fragment.parameter (String.singleton c)).typed ++ rest := by
    simp [Fragment.typed]
  rw [spelled, leads]
  rw [split] at shorter ⊢
  exact reads_part (.parameter _) (.inl ⟨c, special, rfl⟩) shorter _ draft

theorem reads_dollar (shorter : ReadsShorter opened ('$' :: rest)) (place : Place)
    (draft : Draft) :
    Reads ('$' :: rest) draft (run place (.double draft opened) (spell ('$' :: rest) ++ ['"'])) := by
  by_cases lone : ∀ d ∈ rest.head?, isOpener d = false
  · have here : run place (.double draft opened) (spell ('$' :: rest) ++ ['"']) =
        run (place.after '$') (.double (draft.push '$') opened) (spell rest ++ ['"']) := by
      rw [spell_plain (by decide)]
      exact run_dollar (head?_spell (by decide) (by decide) lone) _ ⟨draft, .double opened, place⟩
    rw [here]
    exact reads_part (.char '$') ⟨by decide, fun _ => lone, by simp [Lone]⟩ shorter _ draft
  · obtain ⟨d, next, opens⟩ : ∃ d, d ∈ rest.head? ∧ isOpener d = true := by simpa using lone
    obtain ⟨rest, rfl⟩ := List.head?_eq_some_iff.mp next
    by_cases bracket : d = '(' ∨ d = '\x7b'
    · exact reads_enclosed bracket shorter place draft
    obtain ⟨noBracket, noBrace⟩ := not_or.mp bracket
    cases special : isSpecialParameter d with
    | true => exact reads_special special shorter place draft
    | false =>
        refine reads_name special ?_ shorter place draft
        simpa [isOpener, noBracket, noBrace, special] using opens

end Parts

/-- Between double quotes, every argument is divided into its parts, or there is an error. -/
theorem reads_spell (text : List Char) (place opened : Place) (draft : Draft) :
    Reads text draft (run place (.double draft opened) (spell text ++ ['"'])) := by
  induction text using (measure List.length).wf.induction generalizing place draft with
  | _ text ih =>
      have shorter : ReadsShorter opened text := fun rest less place draft => ih rest less place draft
      cases units text with
      | nil => exact .inl ⟨[], place.after '"', .nil, rfl⟩
      | @escape c rest escaped =>
          have here : run place (.double draft opened) (spell ('\\' :: c :: rest) ++ ['"']) =
              run ((place.after '\\').after c) (.double (draft.push c) opened)
                (spell rest ++ ['"']) := by
            rw [spell_escape escaped]
            rcases escaped with rfl | rfl <;> rfl
          rw [here]
          exact reads_part (.escape c) escaped shorter _ draft
      | @char c rest lone =>
          by_cases back : c = '`'
          · subst back
            exact reads_back shorter place draft
          by_cases dollar : c = '$'
          · subst dollar
            exact reads_dollar shorter place draft
          have here : ∃ place', run place (.double draft opened) (spell (c :: rest) ++ ['"']) =
              run place' (.double (draft.join (.char c)) opened) (spell rest ++ ['"']) := by
            by_cases special : c = '\\' ∨ c = '"'
            · rw [spell_char lone, if_pos special]
              refine ⟨(place.after '\\').after c, ?_⟩
              rcases special with rfl | rfl <;> rfl
            · rw [spell_plain (not_or.mp special)]
              refine ⟨place.after c, ?_⟩
              obtain ⟨noBackslash, noQuote⟩ := not_or.mp special
              rw [List.cons_append, run_cons]
              simp only [step, doubleChar, if_neg noQuote, if_neg noBackslash, if_neg dollar,
                if_neg back, List.nil_append, Draft.join]
              split <;> rfl
          obtain ⟨place', here⟩ := here
          rw [here]
          have fits : (Fragment.char c).Fits rest := ⟨back, fun same => absurd same dollar, lone⟩
          exact reads_part (.char c) fits shorter place' draft

/-! ## Whole arguments -/

theorem reads_scan_quote (argument : String) :
    Reads argument.toList (Draft.quote { start := {} }) (scan (quote argument)) := by
  have begun : scan (quote argument) = run (({} : Place).after '"')
      (.double (Draft.quote { start := {} }) {}) (spell argument.toList ++ ['"']) := by
    rw [scan, quote, String.toList_ofList, List.append_assoc]
    rfl
  rw [begun]
  exact reads_spell _ _ _ _

theorem toItem_token (draft : Draft) : draft.toItem.token = .word := rfl

theorem tokenizeAll_of_word {text : String} {draft : Draft} {place : Place}
    (found : scan text = [.ok draft.toItem, .ok (finishItem place)]) :
    tokenizeAll text options = .ok [draft.toItem, finishItem place] := by
  have resolved : TokenStream.resolve options none draft.toItem () = (draft.toItem, ()) := by
    simp only [TokenStream.resolve, options]
    split <;> rfl
  have first (stream : TokenStream Unit) (rest : Found) (plain : stream.options = options)
      (hookless : stream.hook = none) : stream.pull (.ok draft.toItem :: rest) =
        (some (.ok draft.toItem), { stream with pending := rest }) := by
    obtain ⟨pending, options', hook, memory, finished, cancelled⟩ := stream
    obtain rfl : options' = options := plain
    obtain rfl : hook = none := hookless
    simp only [TokenStream.pull, toItem_token, resolved]
  rw [tokenizeAll, tokenize, TokenStream.ofText, TokenStream.toList, found]
  simp only [List.length_cons, List.length_nil, TokenStream.drain, TokenStream.next,
    Bool.or_self, Bool.false_eq_true, if_false, first]
  rfl

theorem tokenizeAll_of_error {text : String} {error : ScanError}
    (found : scan text = [.error error]) : tokenizeAll text options = .error error := by
  rw [tokenizeAll, tokenize, TokenStream.ofText, found]
  rfl

theorem read_of_word {argument : String} (draft : Draft) {place : Place}
    (found : scan (quote argument) = [.ok draft.toItem, .ok (finishItem place)]) :
    read argument = .ok draft.toItem.toWord := by
  rw [read, tokenizeAll_of_word found]
  rfl

theorem read_of_error {argument : String} {error : ScanError}
    (found : scan (quote argument) = [.error error]) :
    read argument = .error (.scan argument error) := by
  rw [read, tokenizeAll_of_error found]

/-- Nothing in an argument closes the double quotes that it is put between. What the scanner finds
    there is one word and the end of the text, and the argument stands for that word, or it is an
    error and nothing else, which is reported. -/
theorem read_never_divides (argument : String) :
    (∃ item last, scan (quote argument) = [.ok item, .ok last] ∧ item.token = .word ∧
      last.token = .finish ∧ read argument = .ok item.toWord) ∨
    ∃ error, scan (quote argument) = [.error error] ∧
      read argument = .error (.scan argument error) := by
  rcases reads_scan_quote argument with ⟨fragments, place, -, found⟩ | ⟨error, found⟩
  · exact .inl ⟨_, _, found, rfl, rfl, read_of_word _ found⟩
  · exact .inr ⟨error, found, read_of_error found⟩

/-! ## What is recorded -/

theorem Divided.eq_flatMap {text : List Char} {fragments : List Fragment}
    (divided : Divided text fragments) : text = fragments.flatMap Fragment.typed := by
  induction divided with
  | nil => rfl
  | cons _ _ ih => rw [List.flatMap_cons, ← ih]

/-- Each part is one where those that come after it follow. -/
theorem Divided.fits {text : List Char} {before after : List Fragment} {fragment : Fragment}
    (divided : Divided text (before ++ fragment :: after)) :
    fragment.Fits (after.flatMap Fragment.typed) := by
  induction before generalizing text with
  | nil =>
      cases divided with
      | cons fits rest => exact rest.eq_flatMap ▸ fits
  | cons _ _ ih =>
      cases divided with
      | cons _ rest => exact ih rest

theorem subs_foldl_join (fragments : List Fragment) (draft : Draft) :
    (fragments.foldl Draft.join draft).subs = draft.subs ++ fragments.filterMap Fragment.sub? := by
  induction fragments generalizing draft with
  | nil => simp
  | cons fragment fragments ih =>
      rw [List.foldl_cons, ih]
      cases fragment with
      | char c =>
          simp only [Draft.join, Fragment.sub?, List.filterMap_cons]
          split <;> rfl
      | escape c => rfl
      | parameter | enclosed | back =>
          simp [Draft.join, Draft.fill, Fragment.sub?]

theorem length_le_spell (text : List Char) : text.length ≤ (spell text).length := by
  induction units text with
  | nil => rfl
  | escape escaped _ ih =>
      rw [spell_escape escaped]
      exact Nat.succ_le_succ (Nat.succ_le_succ ih)
  | char lone _ ih =>
      rw [spell_char lone]
      split
      · exact Nat.le_succ_of_le (Nat.succ_le_succ ih)
      · exact Nat.succ_le_succ ih

/-- There is no quote in a text, and no backslash but before a dollar sign or a back quote. -/
def Unescaped (text : List Char) : Prop :=
  ∀ c rest, c :: rest <:+ text → c ≠ '"' ∧ (c = '\\' → ∃ d ∈ rest.head?, d = '$' ∨ d = '`')

theorem unescaped_cons {c : Char} {rest : List Char} :
    Unescaped (c :: rest) ↔
      (c ≠ '"' ∧ (c = '\\' → ∃ d ∈ rest.head?, d = '$' ∨ d = '`')) ∧ Unescaped rest := by
  constructor
  · intro all
    refine ⟨all c rest List.suffix_rfl, fun d more suffix => ?_⟩
    exact all d more (suffix.trans (List.suffix_cons c rest))
  · rintro ⟨here, later⟩ d more suffix
    rcases List.suffix_cons_iff.mp suffix with same | suffix
    · obtain ⟨rfl, rfl⟩ := List.cons.inj same
      exact here
    · exact later d more suffix

theorem spell_eq_self_iff {text : List Char} : spell text = text ↔ Unescaped text := by
  induction units text with
  | nil => simp [spell, Unescaped]
  | @escape c rest escaped _ ih =>
      have other : c ≠ '"' ∧ c ≠ '\\' := by rcases escaped with rfl | rfl <;> decide
      rw [spell_escape escaped, List.cons_inj_right, List.cons_inj_right, ih, unescaped_cons,
        unescaped_cons]
      simp [other, escaped]
  | @char c rest lone _ ih =>
      rw [spell_char lone, unescaped_cons]
      by_cases special : c = '\\' ∨ c = '"'
      · have longer := length_le_spell rest
        have different : ['\\', c] ++ spell rest ≠ c :: rest := by
          intro same
          have lengths := congrArg List.length same
          simp only [List.length_append, List.length_cons, List.length_nil] at lengths
          omega
        rw [if_pos special]
        refine iff_of_false different ?_
        rintro ⟨⟨noQuote, escapes⟩, -⟩
        obtain rfl := special.resolve_right noQuote
        obtain ⟨d, next, escaped⟩ := escapes rfl
        have other := lone rfl d next
        exact escaped.elim other.1 other.2
      · obtain ⟨noBackslash, noQuote⟩ := not_or.mp special
        rw [if_neg special, List.singleton_append, List.cons_inj_right, ih]
        simp [noBackslash, noQuote]

/-- A text up to a bracket or a brace is spelled as typed, if what is typed begins with its spelling. -/
theorem spell_eq_self_of_prefix {text rest : List Char} {c : Char} (closer : c = ')' ∨ c = '\x7d')
    (begins : spell (text ++ [c]) <+: text ++ c :: rest) : spell (text ++ [c]) = text ++ [c] := by
  induction text using (measure List.length).wf.induction generalizing rest with
  | _ text ih =>
      have whole : text ++ [c] <+: text ++ c :: rest := ⟨rest, by simp⟩
      obtain ⟨more, same⟩ := List.prefix_of_prefix_length_le whole begins (length_le_spell _)
      have spelled : spell (text ++ [c]) = text ++ c :: more := by rw [← same]; simp
      obtain ⟨before, after, split, first, rfl⟩ := exists_of_spell_eq closer spelled
      rcases List.eq_nil_or_concat after with rfl | ⟨after, last, rfl⟩
      · exact spelled
      -- the bracket that closes the spelling would close the text before its end
      · rw [List.concat_eq_append, ← List.cons_append, ← List.append_assoc] at split
        obtain ⟨rfl, -⟩ := List.append_inj' split rfl
        have shorter : before.length < (before ++ c :: after).length := by
          rw [List.length_append, List.length_cons]
          omega
        have begun : spell (before ++ [c]) <+: before ++ c :: (after ++ [c]) := by rw [first]; simp
        have plain := ih before shorter begun
        have lengths := congrArg List.length (plain.symm.trans first)
        simp only [List.length_append, List.length_cons, List.length_nil] at lengths
        omega

/-- A text begins with a substitution as recorded, and outside quotes the scanner takes it for that. -/
structure AsTyped (sub : Substitution) (text : List Char) : Prop where
  begins : sub.render.toList <+: text
  takes : Scan.Takes sub

theorem asTyped_iff {typed rest : List Char} {sub : Substitution}
    (fits : (Fragment.enclosed typed sub).Fits rest) :
    AsTyped sub (typed ++ rest) ↔ Unescaped typed := by
  obtain ⟨spelled, takes⟩ := fits
  rw [← spell_eq_self_iff]
  constructor
  · rintro ⟨begins, -⟩
    obtain ⟨read, c, rendered, closer⟩ := exists_render_eq sub
    rw [spelled] at rendered begins
    obtain ⟨before, after, rfl, -, last⟩ := exists_of_spell_eq closer rendered
    obtain rfl : after = [] := by simpa [last] using length_le_spell after
    exact spell_eq_self_of_prefix closer (by simpa using begins)
  · intro same
    exact ⟨⟨rest, by rw [spelled, same]⟩, takes⟩

/-- An argument that stands for a word is divided into its parts. Each substitution in brackets or
    braces is recorded as it is spelled between double quotes. This is what is typed from its dollar
    sign on, as far as the scanner takes it for the substitution outside quotes, exactly if nothing
    in it is escaped for the quotes. -/
theorem read_as_spelled {argument : String} {word : Word} (accepted : read argument = .ok word) :
    ∃ fragments, Divided argument.toList fragments ∧
      word.subs = fragments.filterMap Fragment.sub? ∧
      ∀ before typed sub after, fragments = before ++ .enclosed typed sub :: after →
        sub.render.toList = spell typed ∧
          (AsTyped sub (typed ++ after.flatMap Fragment.typed) ↔ Unescaped typed) := by
  rcases reads_scan_quote argument with ⟨fragments, place, divided, found⟩ | ⟨error, found⟩
  · obtain rfl := Except.ok.inj (accepted.symm.trans (read_of_word _ found))
    refine ⟨fragments, divided, subs_foldl_join fragments _, ?_⟩
    rintro before typed sub after rfl
    exact ⟨divided.fits.1, asTyped_iff divided.fits⟩
  · rw [read_of_error found] at accepted
    cases accepted

/-- Quotes around an expression and an escaped back quote leave it alone, quotes inside do not. -/
theorem read_as_spelled_quotes :
    let argument := "\"$((1 + 2))\"$\x7ba\\`\x7d$(echo \"$x\")"
    let word : Word :=
      ⟨"\"\x01\"\x01\x01", [.arithmetic "1 + 2", .parameter "a\\`", .command "echo \\\"$x\\\""]⟩
    read argument = .ok word ∧ ∃ fragments, Divided argument.toList fragments ∧
      word.subs = fragments.filterMap Fragment.sub? ∧
      ∀ before typed sub after, fragments = before ++ .enclosed typed sub :: after →
        sub.render.toList = spell typed ∧
          (AsTyped sub (typed ++ after.flatMap Fragment.typed) ↔ Unescaped typed) := by
  intro argument word
  have accepted : read argument = .ok word := by decide +kernel
  exact ⟨accepted, read_as_spelled accepted⟩

/-- Quotes in a script are recorded with the backslashes that they are spelled with, and a bracket
    that they hide ends the script. -/
theorem read_escapes_quotes :
    (read "$(echo \"hi\")" = .ok ⟨"\x01", [.command "echo \\\"hi\\\""]⟩ ∧
      scan "$(echo \"hi\")" = [
        .ok { token := .word, start := {}, value := "\x01", subs := [.command "echo \"hi\""] },
        .ok (finishItem ⟨12, 1⟩)]) ∧
    (read "$(echo \")\")" = .ok ⟨"\x01\")", [.command "echo \\\""]⟩ ∧
      scan "$(echo \")\")" = [
        .ok { token := .word, start := {}, value := "\x01", subs := [.command "echo \")\""] },
        .ok (finishItem ⟨11, 1⟩)]) := by
  decide +kernel

end Argument

end Shell
