import Shell.Token.Scan

/-! # Spelling a script out

Every list of operators and words can be written down so that scanning gives it back: literal
text in single quotes, substitutions in the forms that need least care, and a gap between two
elements. The scan of a text in two parts goes on from where the first part has led, so each
form is followed to its end whatever comes after it.
-/

namespace Shell

/-- The place after a text. -/
def Place.past (place : Place) (text : List Char) : Place :=
  text.foldl Place.after place

namespace Spelling

/-! ## What is spelled and how -/

/-- A text in which every bracket has its partner. -/
inductive Balanced : List Char → Prop where
  | nil : Balanced []
  | other {c : Char} {rest : List Char} :
    c ≠ '(' → c ≠ ')' → Balanced rest → Balanced (c :: rest)
  | group {inside rest : List Char} :
    Balanced inside → Balanced rest → Balanced ('(' :: (inside ++ ')' :: rest))

/-- A piece of a word. -/
inductive Piece where
  | literal (text : String) (plain : marker ∉ text.toList)
  | parameter (name : String) (plain : '\x7d' ∉ name.toList)
  | arithmetic (expr : String) (balanced : Balanced expr.toList)
  | command (script : String)

namespace Piece

/-- A character in single quotes. A quote closes them, stands escaped and opens them again. -/
def quoteChar (c : Char) : List Char :=
  if c = '\'' then ['\'', '\\', '\'', '\''] else [c]

def backChar (c : Char) : List Char :=
  if c = '`' ∨ c = '\\' ∨ c = '$' then ['\\', c] else [c]

def spell : Piece → List Char
  | literal text _ => '\'' :: (text.toList.flatMap quoteChar ++ ['\''])
  | parameter name _ => '$' :: '\x7b' :: (name.toList ++ ['\x7d'])
  | arithmetic expr _ => '$' :: '(' :: '(' :: (expr.toList ++ [')', ')'])
  | command script => '`' :: (script.toList.flatMap backChar ++ ['`'])

/-- What stands for a piece in the text of its word. -/
def text : Piece → List Char
  | literal text _ => text.toList
  | parameter _ _ | arithmetic _ _ | command _ => [marker]

def isLiteral : Piece → Bool
  | literal _ _ => true
  | parameter _ _ | arithmetic _ _ | command _ => false

def sub? : Piece → Option Substitution
  | literal _ _ => none
  | parameter name _ => some (.parameter name)
  | arithmetic expr _ => some (.arithmetic expr)
  | command script => some (.command script)

end Piece

/-- The operators, the line break among them. -/
inductive Operator where
  | both
  | either
  | background
  | pipe
  | semicolon
  | endCase
  | opening
  | closing
  | newline
deriving DecidableEq

namespace Operator

def spell : Operator → List Char
  | both => ['&', '&']
  | either => ['|', '|']
  | background => ['&']
  | pipe => ['|']
  | semicolon => [';']
  | endCase => [';', ';']
  | opening => ['(']
  | closing => [')']
  | newline => ['\n']

/-- The item of an operator. That of a line break has no text. -/
def item (start : Place) : Operator → Item
  | both => { token := .both, start, value := "&&" }
  | either => { token := .either, start, value := "||" }
  | background => { token := .background, start, value := "&" }
  | pipe => { token := .pipe, start, value := "|" }
  | semicolon => { token := .semicolon, start, value := ";" }
  | endCase => { token := .endCase, start, value := ";;" }
  | opening => { token := .opening, start, value := "(" }
  | closing => { token := .closing, start, value := ")" }
  | newline => { token := .newline, start }

end Operator

/-- An element of a script. -/
inductive Element where
  | operator (operator : Operator)
  | word (pieces : List Piece)

namespace Element

/-- A word without pieces is spelled as empty quotes. -/
def spell : Element → List Char
  | operator op => op.spell
  | word [] => ['\'', '\'']
  | word pieces => pieces.flatMap Piece.spell

def item (start : Place) : Element → Item
  | operator op => op.item start
  | word pieces =>
    { token := .word, start
      value := String.ofList (pieces.flatMap Piece.text)
      quoted := pieces.isEmpty || pieces.any Piece.isLiteral
      subs := pieces.filterMap Piece.sub? }

end Element

/-- What stands between two elements: blanks and tabs, at least one. -/
structure Gap where
  text : List Char
  blank : ∀ c ∈ text, c = ' ' ∨ c = '\t'
  nonempty : text ≠ []

/-- The text of a script with gaps between its elements, chosen by how many elements come later. -/
def spell (gaps : Nat → Gap) : List Element → List Char
  | [] => []
  | [element] => element.spell
  | element :: rest => element.spell ++ (gaps rest.length).text ++ spell gaps rest

/-- The items of a script that is spelled out at a place, the end of the text included. -/
def items (gaps : Nat → Gap) (place : Place) : List Element → List Item
  | [] => [Scan.finishItem place]
  | [element] => [element.item place, Scan.finishItem (place.past element.spell)]
  | element :: rest =>
    element.item place :: items gaps (place.past (element.spell ++ (gaps rest.length).text)) rest

end Spelling

theorem Place.past_cons (place : Place) (c : Char) (text : List Char) :
    place.past (c :: text) = (place.after c).past text := rfl

theorem Place.past_append (place : Place) (text rest : List Char) :
    place.past (text ++ rest) = (place.past text).past rest :=
  List.foldl_append

namespace Draft

def append (text : List Char) (draft : Draft) : Draft :=
  { draft with text := draft.text ++ String.ofList text }

theorem append_nil (draft : Draft) : draft.append [] = draft := by
  simp [append]

theorem append_cons (c : Char) (text : List Char) (draft : Draft) :
    draft.append (c :: text) = (draft.push c).append text := by
  simp [append, push, String.ext_iff]

def add (draft : Draft) : Spelling.Piece → Draft
  | .literal text _ => draft.quote.append text.toList
  | .parameter name _ => draft.fill (.parameter name)
  | .arithmetic expr _ => draft.fill (.arithmetic expr)
  | .command script => draft.fill (.command script)

end Draft

theorem push_append (text : String) (c : Char) (rest : List Char) :
    text.push c ++ String.ofList rest = text ++ String.ofList (c :: rest) := by
  simp [String.ext_iff]

namespace Scan

open Spelling

/-- A text leads from one mode to another, and no item is found on the way. -/
def Leads (place : Place) (mode : Mode) (text : List Char) (mode' : Mode) : Prop :=
  ∀ rest, run place mode (text ++ rest) = run (place.past text) mode' rest

theorem Leads.nil {place : Place} {mode : Mode} : Leads place mode [] mode :=
  fun _ => rfl

theorem Leads.cons {place : Place} {mode mode'' : Mode} {c : Char} {text : List Char} (mode' : Mode)
    (here : step place c mode = ([], mode')) (further : Leads (place.after c) mode' text mode'') :
    Leads place mode (c :: text) mode'' := by
  intro rest
  rw [List.cons_append, run, here]
  exact further rest

theorem Leads.append {place : Place} {mode mode' mode'' : Mode} {first second : List Char}
    (here : Leads place mode first mode') (further : Leads (place.past first) mode' second mode'') :
    Leads place mode (first ++ second) mode'' := by
  intro rest
  rw [List.append_assoc, here, further, Place.past_append]

/-! ## Pieces of a word -/

theorem leads_quoted {text : List Char} (plain : marker ∉ text) (place opened : Place)
    (draft : Draft) :
    Leads place (.single draft.quote opened) (text.flatMap Piece.quoteChar ++ ['\''])
      (.word (draft.quote.append text)) := by
  induction text generalizing place draft opened with
  | nil =>
      rw [Draft.append_nil]
      exact .cons _ rfl .nil
  | cons c text ih =>
      have other : c ≠ marker := fun same => plain (by simp [same])
      have plain' : marker ∉ text := fun member => plain (List.mem_cons_of_mem c member)
      rw [List.flatMap_cons, List.append_assoc, Draft.append_cons]
      by_cases quote : c = '\''
      · subst quote
        -- the quotes are closed, a quote is escaped, and they are opened again
        refine .cons (.word draft.quote) rfl ?_
        refine .cons (.escape draft.quote) rfl ?_
        refine .cons (.word (draft.quote.push '\'')) rfl ?_
        exact .cons _ rfl (ih plain' _ _ (draft.push '\''))
      · rw [Piece.quoteChar, if_neg quote]
        refine .cons (.single (draft.push c).quote opened) ?_ (ih plain' _ _ _)
        simp only [step, if_neg quote, if_neg other]
        rfl

theorem leads_braces {name : List Char} (plain : '\x7d' ∉ name) (place : Place) (hole : Hole)
    (text : String) :
    Leads place (.braces hole text) (name ++ ['\x7d'])
      (hole.fill (.parameter (text ++ String.ofList name))) := by
  induction name generalizing place text with
  | nil => simpa using Leads.cons _ rfl .nil
  | cons c name ih =>
      have other : c ≠ '\x7d' := fun same => plain (by simp [same])
      refine .cons (.braces hole (text.push c)) ?_ ?_
      · simp only [step, if_neg other]
      · rw [← push_append]
        exact ih (fun member => plain (List.mem_cons_of_mem c member)) _ _

theorem leads_arithmetic {expr : List Char} (balanced : Balanced expr) (place : Place)
    (hole : Hole) (depth : Nat) (text : String) :
    Leads place (.arithmetic hole depth text) expr
      (.arithmetic hole depth (text ++ String.ofList expr)) := by
  induction balanced generalizing place depth text with
  | nil => simpa using Leads.nil
  | @other c rest opening closing _ ih =>
      refine .cons (.arithmetic hole depth (text.push c)) ?_ ?_
      · simp only [step, arithmeticChar, if_neg opening, if_neg closing]
      · rw [← push_append]
        exact ih _ _ _
  | @group inside rest _ _ ihInside ihRest =>
      have last : text ++ String.ofList ('(' :: (inside ++ ')' :: rest)) =
          (text.push '(' ++ String.ofList inside).push ')' ++ String.ofList rest := by
        simp [String.ext_iff]
      rw [last]
      refine .cons (.arithmetic hole (depth + 1) (text.push '(')) rfl ?_
      exact .append (ihInside _ _ _) (.cons _ rfl (ihRest _ _ _))

theorem leads_back (script : List Char) (place : Place) (hole : Hole) (text : String) :
    Leads place (.back hole text) (script.flatMap Piece.backChar ++ ['`'])
      (hole.fill (.command (text ++ String.ofList script))) := by
  induction script generalizing place text with
  | nil => simpa using Leads.cons _ rfl .nil
  | cons c script ih =>
      rw [List.flatMap_cons, List.append_assoc, ← push_append]
      by_cases special : c = '`' ∨ c = '\\' ∨ c = '$'
      · rw [Piece.backChar, if_pos special]
        refine .cons (.backEscape hole text) rfl ?_
        refine .cons (.back hole (text.push c)) ?_ (ih _ _)
        rcases special with rfl | rfl | rfl <;> rfl
      · rw [Piece.backChar, if_neg special]
        refine .cons (.back hole (text.push c)) ?_ (ih _ _)
        simp only [not_or] at special
        simp only [step, if_neg special.1, if_neg special.2.1]

theorem leads_piece (piece : Piece) (place : Place) (draft : Draft) :
    Leads place (.word draft) piece.spell (.word (draft.add piece)) := by
  cases piece with
  | literal text plain =>
      refine .cons (.single draft.quote place) rfl ?_
      exact leads_quoted plain _ _ draft
  | parameter name plain =>
      refine .cons (.dollar ⟨draft, .bare, place⟩) rfl ?_
      refine .cons (.braces ⟨draft, .bare, place⟩ "") rfl ?_
      have read := leads_braces plain ((place.after '$').after '\x7b') ⟨draft, .bare, place⟩ ""
      rwa [String.empty_append, String.ofList_toList] at read
  | arithmetic expr balanced =>
      refine .cons (.dollar ⟨draft, .bare, place⟩) rfl ?_
      refine .cons (.bracket ⟨draft, .bare, place⟩) rfl ?_
      refine .cons (.arithmetic ⟨draft, .bare, place⟩ 0 "") rfl ?_
      refine .append (leads_arithmetic balanced _ _ _ _) ?_
      refine .cons (.arithmeticEnd ⟨draft, .bare, place⟩ expr) ?_ (.cons _ rfl .nil)
      simp [step, arithmeticChar]
  | command script =>
      refine .cons (.back ⟨draft, .bare, place⟩ "") rfl ?_
      have read := leads_back script.toList (place.after '`') ⟨draft, .bare, place⟩ ""
      rwa [String.empty_append, String.ofList_toList] at read

theorem leads_pieces (pieces : List Piece) (place : Place) (draft : Draft) :
    Leads place (.word draft) (pieces.flatMap Piece.spell) (.word (pieces.foldl Draft.add draft)) := by
  induction pieces generalizing place draft with
  | nil => exact .nil
  | cons piece pieces ih => exact .append (leads_piece piece place draft) (ih _ _)

/-- The item of a word with pieces, given what was read of it before. -/
theorem toItem_add (pieces : List Piece) (draft : Draft) :
    (pieces.foldl Draft.add draft).toItem =
      { token := .word, start := draft.start
        value := draft.text ++ String.ofList (pieces.flatMap Piece.text)
        quoted := draft.quoted || pieces.any Piece.isLiteral
        subs := draft.subs ++ pieces.filterMap Piece.sub? } := by
  induction pieces generalizing draft with
  | nil => simp [Draft.toItem]
  | cons piece pieces ih =>
      rw [List.foldl_cons, ih]
      cases piece with
      | literal text plain =>
          simp [Draft.add, Draft.append, Draft.quote, Piece.text, Piece.isLiteral, Piece.sub?,
            List.filterMap_cons, String.ext_iff]
      | parameter | arithmetic | command =>
          simp [Draft.add, Draft.fill, Piece.text, Piece.isLiteral, Piece.sub?, String.ext_iff]

/-! ## Elements -/

def Ends (rest : List Char) : Prop :=
  ∀ c ∈ rest.head?, c = ' ' ∨ c = '\t'

theorem run_blank {c : Char} (blank : c = ' ' ∨ c = '\t') (place : Place) (rest : List Char) :
    run place .between (c :: rest) = run (place.after c) .between rest := by
  rcases blank with rfl | rfl <;> rfl

theorem run_gap {gap : List Char} (blank : ∀ c ∈ gap, c = ' ' ∨ c = '\t') (place : Place)
    (rest : List Char) :
    run place .between (gap ++ rest) = run (place.past gap) .between rest := by
  induction gap generalizing place with
  | nil => rfl
  | cons c gap ih =>
      rw [List.cons_append, run_blank (blank c (by simp))]
      exact ih (fun d member => blank d (List.mem_cons_of_mem c member)) _

theorem run_word_ends {rest : List Char} (ends : Ends rest) (place : Place) (draft : Draft) :
    run place (.word draft) rest = .ok draft.toItem :: run place .between rest := by
  cases rest with
  | nil => rfl
  | cons c rest => rcases ends c rfl with rfl | rfl <;> rfl

theorem run_operator {rest : List Char} (ends : Ends rest) (op : Operator) (place : Place) :
    run place .between (op.spell ++ rest) =
      .ok (op.item place) :: run (place.past op.spell) .between rest := by
  cases op with
  | both | either | endCase | opening | closing | newline => rfl
  | background | pipe | semicolon =>
      cases rest with
      | nil => rfl
      | cons c rest => rcases ends c rfl with rfl | rfl <;> rfl

theorem run_between_piece (piece : Piece) (place : Place) (rest : List Char) :
    run place .between (piece.spell ++ rest) =
      run place (.word { start := place }) (piece.spell ++ rest) := by
  cases piece with
  | literal | parameter | arithmetic | command => rfl

theorem run_element {rest : List Char} (ends : Ends rest) (element : Element) (place : Place) :
    run place .between (element.spell ++ rest) =
      .ok (element.item place) :: run (place.past element.spell) .between rest := by
  cases element with
  | operator op => exact run_operator ends op place
  | word pieces =>
      cases pieces with
      | nil =>
          have read : run place .between ('\'' :: '\'' :: rest) =
              run (place.past ['\'', '\'']) (.word (Draft.quote { start := place })) rest := rfl
          exact read.trans (run_word_ends ends _ _)
      | cons piece pieces =>
          have begun : run place .between ((piece :: pieces).flatMap Piece.spell ++ rest) =
              run place (.word { start := place }) ((piece :: pieces).flatMap Piece.spell ++ rest) := by
            rw [List.flatMap_cons, List.append_assoc]
            exact run_between_piece piece place _
          have word : (Element.word (piece :: pieces)).spell =
              (piece :: pieces).flatMap Piece.spell := rfl
          rw [word, begun, leads_pieces, run_word_ends ends, toItem_add]
          simp [Element.item]

/-! ## Scripts -/

theorem ends_gap (gap : Gap) (rest : List Char) : Ends (gap.text ++ rest) := by
  obtain ⟨text, blank, nonempty⟩ := gap
  cases text with
  | nil => exact absurd rfl nonempty
  | cons c text =>
      rintro d ⟨rfl⟩
      exact blank c (by simp)

theorem run_spell (gaps : Nat → Gap) (elements : List Element) (place : Place) :
    run place .between (spell gaps elements) = (items gaps place elements).map .ok := by
  induction elements generalizing place with
  | nil => rfl
  | cons element rest ih =>
      cases rest with
      | nil =>
          have ends : Ends [] := by simp [Ends]
          have last := run_element ends element place
          rw [List.append_nil] at last
          exact last
      | cons next rest =>
          rw [spell, items, List.append_assoc, run_element (ends_gap _ _),
            run_gap (gaps _).blank, ih, Place.past_append]
          · rfl
          · simp
          · simp

/-- Scanning a script that has been spelled out gives back its elements in order and then the end of
    the text. Each word has its literal text joined with one marker for each substitution, and its
    substitutions, and each item begins where its element is spelled. -/
theorem scan_spell (gaps : Nat → Gap) (elements : List Element) :
    scan (String.ofList (spell gaps elements)) = (items gaps {} elements).map .ok := by
  rw [scan, String.toList_ofList]
  exact run_spell gaps elements {}

example :
    let gap : Gap := ⟨[' '], by simp, nofun⟩
    let name : Element := .word [.literal "it's" (by decide), .parameter "x" (by decide)]
    spell (fun _ => gap) [name, .operator .pipe, .word []] = "'it'\\''s'$\x7bx\x7d | ''".toList := by
  decide

end Scan

end Shell
