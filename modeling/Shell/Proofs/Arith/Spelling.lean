import Mathlib.Data.List.TakeWhile
import Shell.Proofs.Arith.Numeral
import Shell.Proofs.Arith.Separation

/-! # Spelling symbols out

`Spells symbols text` says that a text consists of the spellings of some symbols with blanks
between them. Reading such a text gives back the symbols, however each was spelled and however
wide the blanks are.
-/

namespace Shell.Arith.Symbol

/-- The ways in which a symbol can be written. -/
inductive Written : Symbol → List Char → Prop where
  /-- A number, in any base. -/
  | numeral {value : Int64} {first : Char} {rest : List Char} :
    isDigit first = true → (∀ c ∈ rest, Name.isPart c = true) →
      Numeral.read? (first :: rest) = some value → Written (.literal value) (first :: rest)
  /-- A variable without decoration. -/
  | bare {name : String} : Name.isValid name.toList = true → Written (.reference name) name.toList
  /-- A variable after a dollar sign. -/
  | dollar {name : String} :
    Name.isValid name.toList = true → Written (.reference name) ('$' :: name.toList)
  /-- A variable in braces after a dollar sign. -/
  | braced {name : String} :
    Name.isValid name.toList = true →
      Written (.reference name) ('$' :: '\x7b' :: (name.toList ++ ['\x7d']))
  /-- An operator. -/
  | operator {op : Symbol} : op ∈ operators → Written op op.text.toList

/-- The text ends here, or a blank follows. -/
def Ends (rest : List Char) : Prop :=
  ∀ c ∈ rest.head?, isBlank c = true

/-- A text that writes symbols one after the other, with blanks between them. -/
inductive Spells : List Symbol → List Char → Prop where
  | done : Spells [] []
  | blank {c : Char} {symbols : List Symbol} {text : List Char} :
    isBlank c = true → Spells symbols text → Spells symbols (c :: text)
  | symbol {symbol : Symbol} {symbols : List Symbol} {text rest : List Char} :
    Written symbol text → Ends rest → Spells symbols rest →
      Spells (symbol :: symbols) (text ++ rest)

/-! ## Classes of characters -/

theorem isBlank_cases {c : Char} (h : isBlank c = true) :
    c = ' ' ∨ c = '\t' ∨ c = '\r' ∨ c = '\n' := by
  simpa [isBlank, or_assoc] using h

theorem isPart_of_isBlank {c : Char} (h : isBlank c = true) : Name.isPart c = false := by
  rcases isBlank_cases h with rfl | rfl | rfl | rfl <;> decide

theorem isDigit_of_isStart {c : Char} (h : Name.isStart c = true) : isDigit c = false := by
  have bounds : ∀ a b : Char, a ≤ b ↔ a.toNat ≤ b.toNat := fun a b => UInt32.le_iff_toNat_le
  simp only [Name.isStart, Bool.or_eq_true, beq_iff_eq, Bool.and_eq_true, decide_eq_true_eq,
    bounds] at h
  simp only [isDigit, Bool.and_eq_false_iff, decide_eq_false_iff_not, bounds]
  have upper : '9'.toNat = 57 := rfl
  have small : 'a'.toNat = 97 := rfl
  have capital : 'A'.toNat = 65 := rfl
  rcases h with (rfl | low) | high
  · decide
  · omega
  · omega

theorem not_isBlank_of_isPart {c : Char} (h : Name.isPart c = true) : isBlank c = false := by
  cases blank : isBlank c with
  | false => rfl
  | true => simp [isPart_of_isBlank blank] at h

theorem isPart_of_isDigit {c : Char} (h : isDigit c = true) : Name.isPart c = true := by
  simp only [isDigit] at h
  simp [Name.isPart, h]

theorem isBreak_of_isBlank {c : Char} (h : isBlank c = true) : isBreak c = true := by
  rcases isBlank_cases h with rfl | rfl | rfl | rfl <;> decide

theorem Ends.breaks {rest : List Char} (ends : Ends rest) : Breaks rest :=
  fun c here => isBreak_of_isBlank (ends c here)

/-! ## One symbol -/

theorem operator?_text {op : Symbol} (h : op ∈ operators) :
    operator? op.text.toList = some (op, []) := by
  revert op
  decide

/-- No operator begins like a blank, a number or a variable. -/
theorem begins_operator {op : Symbol} (h : op ∈ operators) : ∃ c rest, op.text.toList = c :: rest ∧
    isBlank c = false ∧ isDigit c = false ∧ Name.isStart c = false ∧ c ≠ '$' := by
  have each : (operators.all fun op => op.text.toList.head?.any fun c =>
      !isBlank c && !isDigit c && !Name.isStart c && c != '$') = true := by decide
  have head := List.all_eq_true.mp each op h
  cases text : op.text.toList with
  | nil => simp [text] at head
  | cons c rest => exact ⟨c, rest, rfl, by simpa [text, and_assoc] using head⟩

/-- A text that does not continue a name when it stands after one. -/
def EndsName (back : List Char) : Prop :=
  ∀ c ∈ back.head?, Name.isPart c = false

section Names

variable {back : List Char} (ends : EndsName back)
include ends

theorem takeWhile_endsName {parts : List Char} (name : ∀ c ∈ parts, Name.isPart c = true) :
    (parts ++ back).takeWhile Name.isPart = parts := by
  rw [List.takeWhile_append_of_pos name]
  cases back with
  | nil => simp
  | cons c back => simp [ends c rfl]

theorem dropWhile_endsName {parts : List Char} (name : ∀ c ∈ parts, Name.isPart c = true) :
    (parts ++ back).dropWhile Name.isPart = back := by
  rw [List.dropWhile_append_of_pos name]
  cases back with
  | nil => rfl
  | cons c back => simp [ends c rfl]

theorem beginName_endsName {first : Char} {parts : List Char}
    (name : ∀ c ∈ parts, Name.isPart c = true) :
    beginName first (parts ++ back) =
      .symbol (.reference (String.ofList (first :: parts))) back := by
  rw [beginName, takeWhile_endsName ends name, dropWhile_endsName ends name]

end Names

theorem beginning_reference {name : String} {text back : List Char}
    (h : Written (.reference name) text) (ends : EndsName back) (offset : Nat) :
    ∃ c tail, text = c :: tail ∧
      beginning offset c (tail ++ back) = .symbol (.reference name) back := by
  cases h with
  | bare valid =>
      obtain ⟨first, tail, same, start, parts⟩ := Name.exists_cons_of_isValid valid
      refine ⟨first, tail, same, ?_⟩
      have solid := not_isBlank_of_isPart (Name.isPart_of_isStart start)
      simp only [beginning, solid, isDigit_of_isStart start, start, Bool.false_eq_true,
        if_false, if_true, beginName_endsName ends parts, ← same, String.ofList_toList]
  | dollar valid =>
      obtain ⟨first, tail, same, start, parts⟩ := Name.exists_cons_of_isValid valid
      refine ⟨'$', first :: tail, by rw [same], ?_⟩
      have other : first ≠ '\x7b' := by
        rintro rfl
        revert start
        decide
      have here : beginning offset '$' (first :: (tail ++ back)) =
          beginDollar offset (first :: (tail ++ back)) := rfl
      rw [List.cons_append, here, beginDollar]
      · rw [if_pos start, beginName_endsName ends parts, ← same, String.ofList_toList]
      · exact other
  | braced valid =>
      obtain ⟨first, tail, same, start, parts⟩ := Name.exists_cons_of_isValid valid
      refine ⟨'$', '\x7b' :: (name.toList ++ ['\x7d']), rfl, ?_⟩
      have closes : EndsName ('\x7d' :: back) := by
        intro c here
        cases here
        decide
      have split : '\x7b' :: (name.toList ++ ['\x7d']) ++ back =
          '\x7b' :: first :: (tail ++ '\x7d' :: back) := by simp [same]
      have here : beginning offset '$' ('\x7b' :: first :: (tail ++ '\x7d' :: back)) =
          beginDollar offset ('\x7b' :: first :: (tail ++ '\x7d' :: back)) := rfl
      rw [split, here]
      simp only [beginDollar, start, if_true, takeWhile_endsName closes parts,
        dropWhile_endsName closes parts, ← same, String.ofList_toList]
  | operator known => simp [operators] at known

theorem beginNumber_eq {value : Int64} {first : Char} {tail : List Char}
    (parts : ∀ c ∈ tail, Name.isPart c = true)
    (reads : Numeral.read? (first :: tail) = some value) :
    beginNumber first tail = .symbol (.literal value) [] := by
  delta beginNumber
  simp only [List.takeWhile_eq_self_iff.mpr parts, List.dropWhile_eq_nil_iff.mpr parts, reads]

theorem beginning_written {symbol : Symbol} {text : List Char} (h : Written symbol text)
    (offset : Nat) :
    ∃ c tail, text = c :: tail ∧ beginning offset c tail = .symbol symbol [] := by
  have spelled := h
  cases h with
  | @numeral value first tail digit parts reads =>
      refine ⟨first, tail, rfl, ?_⟩
      have solid := not_isBlank_of_isPart (isPart_of_isDigit digit)
      simp only [beginning, solid, digit, beginNumber_eq parts reads, Bool.false_eq_true,
        if_false, if_true]
  | bare valid | dollar valid | braced valid =>
      have nothing : EndsName [] := nofun
      have begins := beginning_reference spelled nothing offset
      simpa only [List.append_nil] using begins
  | operator known =>
      obtain ⟨c, tail, same, solid, number, name, decoration⟩ := begins_operator known
      refine ⟨c, tail, same, ?_⟩
      have found := operator?_text known
      rw [same] at found
      rw [beginning, if_neg (by simp [solid]), if_neg (by simp [number]), if_neg (by simp [name]),
        if_neg decoration, found]

/-! ## Whole texts -/

theorem beginning_blank {c : Char} (h : isBlank c = true) (offset : Nat) (rest : List Char) :
    beginning offset c rest = .blank rest := by
  simp [beginning, h]

theorem readFrom_append_blank {c : Char} (h : isBlank c = true) (offset : Nat)
    (text rest : List Char) :
    readFrom offset (text ++ c :: rest) =
      (readFrom offset text).followedBy (readFrom (offset + text.length + 1) rest) := by
  have breaks : Breaks (c :: rest) := by
    intro d here
    obtain rfl := Option.some.inj here
    exact isBreak_of_isBlank h
  rw [readFrom_append breaks, readFrom_blank (beginning_blank h _ _)]

theorem readFrom_written {symbol : Symbol} {text : List Char} (h : Written symbol text)
    (offset : Nat) : readFrom offset text = ⟨[symbol], none⟩ := by
  obtain ⟨c, tail, rfl, begins⟩ := beginning_written h offset
  rw [readFrom_symbol begins, readFrom]
  rfl

/-- Reading gives back the symbols that a text spells. -/
theorem readFrom_spells {symbols : List Symbol} {text : List Char} (h : Spells symbols text)
    (offset : Nat) :
    readFrom offset text = ⟨symbols, none⟩ := by
  induction h generalizing offset with
  | done => rw [readFrom]
  | blank solid _ ih => rw [readFrom_blank (beginning_blank solid offset _), ih]
  | symbol written ends _ ih =>
      rw [readFrom_append ends.breaks, readFrom_written written, ih]
      rfl

theorem readAll_spells {symbols : List Symbol} {text : String} (h : Spells symbols text.toList) :
    readAll text = ⟨symbols, none⟩ :=
  readFrom_spells h 0

/-! ## Where symbols come from -/

theorem eq_append_of_operator? {text : List Char} {op : Symbol} {left : List Char}
    (h : operator? text = some (op, left)) : op ∈ operators ∧ text = op.text.toList ++ left := by
  obtain ⟨found, member, begins⟩ := List.exists_of_findSome?_eq_some h
  obtain ⟨rest, after, same⟩ := Option.map_eq_some_iff.mp begins
  obtain ⟨rfl, rfl⟩ := Prod.mk.inj same
  exact ⟨member, Text.after?_eq_some_iff.mp after⟩

theorem suffix_of_beginDollar {offset : Nat} {rest left : List Char} {symbol : Symbol}
    (h : beginDollar offset rest = .symbol symbol left) :
    (∃ name, symbol = .reference name) ∧ left <:+ rest := by
  unfold beginDollar beginName at h
  split at h
  · cases h
  · split at h
    · split at h
      · split at h
        · rename_i first more _ _ tail closed
          cases h
          have within : '\x7d' :: left <:+ more := closed ▸ List.dropWhile_suffix _
          exact ⟨⟨_, rfl⟩, (List.suffix_cons _ _).trans (within.trans
            ((List.suffix_cons _ _).trans (List.suffix_cons _ _)))⟩
        · cases h
      · cases h
    · cases h
  · split at h
    · cases h
      exact ⟨⟨_, rfl⟩, (List.dropWhile_suffix _).trans (List.suffix_cons _ _)⟩
    · cases h

/-- What follows a symbol is an end of the text, and only a question mark is read as one. -/
theorem suffix_of_beginning {offset : Nat} {c : Char} {rest left : List Char} {symbol : Symbol}
    (h : beginning offset c rest = .symbol symbol left) :
    left <:+ rest ∧ (symbol = .question → c = '?') := by
  unfold beginning at h
  split at h
  · cases h
  split at h
  · unfold beginNumber at h
    simp only at h
    split at h
    · cases h
      exact ⟨List.dropWhile_suffix _, by simp⟩
    · cases h
  split at h
  · cases h
    exact ⟨List.dropWhile_suffix _, by simp⟩
  split at h
  · obtain ⟨⟨name, rfl⟩, suffix⟩ := suffix_of_beginDollar h
    exact ⟨suffix, by simp⟩
  · split at h
    · rename_i op tail found
      cases h
      obtain ⟨known, whole⟩ := eq_append_of_operator? found
      constructor
      · cases spelling : symbol.text.toList with
        | nil => exact absurd spelling (text_ne_nil_of_mem known)
        | cons first more =>
            rw [spelling] at whole
            exact ⟨more, (List.cons.inj whole).2.symm⟩
      · rintro rfl
        exact (List.cons.inj whole).1
    · cases h

theorem exists_beginning_of_mem_readFrom {offset : Nat} {text : List Char} {symbol : Symbol}
    (h : symbol ∈ (readFrom offset text).symbols) : ∃ offset c rest left,
      beginning offset c rest = .symbol symbol left ∧ c :: rest <:+ text := by
  induction offset, text using readFrom.induct with
  | case1 => simp [readFrom] at h
  | case2 offset c rest left begins ih =>
      obtain rfl := rest_of_beginning_blank begins
      rw [readFrom_blank begins] at h
      obtain ⟨offset, d, more, left, begins, suffix⟩ := ih h
      exact ⟨offset, d, more, left, begins, suffix.trans (List.suffix_cons c _)⟩
  | case3 offset c rest first left begins ih =>
      rw [readFrom_symbol begins] at h
      rcases List.mem_cons.mp h with rfl | h
      · exact ⟨offset, c, rest, left, begins, List.suffix_rfl⟩
      · obtain ⟨offset, d, more, left', begins', suffix⟩ := ih h
        refine ⟨offset, d, more, left', begins', suffix.trans ?_⟩
        exact (suffix_of_beginning begins).1.trans (List.suffix_cons c rest)
  | case4 offset c rest error begins =>
      rw [readFrom_fault begins] at h
      cases h

/-! ## A spelling for every symbol -/

def print : List Symbol → List Char
  | [] => []
  | [last] => last.text.toList
  | symbol :: next :: rest => symbol.text.toList ++ ' ' :: print (next :: rest)

theorem isDigit_digitChar {d : Nat} (h : d < 10) : isDigit (Numeral.digitChar d) = true := by
  revert d
  decide

theorem written_literal {value : Int64} (h : 0 ≤ value.toInt) :
    Written (.literal value) (Symbol.literal value).text.toList := by
  have shape : (Numeral.render value).toList = Numeral.digits value.toInt.natAbs := by
    rw [Numeral.render, String.toList_ofList, Numeral.signedDigits, if_neg (by omega)]
  have digit : ∀ c ∈ Numeral.digits value.toInt.natAbs, isDigit c = true := by
    intro c member
    obtain ⟨d, small, rfl⟩ := Numeral.mem_digits member
    exact isDigit_digitChar small
  have reads := Numeral.read?_render value
  show Written _ (Numeral.render value).toList
  rw [shape] at reads ⊢
  cases text : Numeral.digits value.toInt.natAbs with
  | nil => exact absurd text (Numeral.digits_ne_nil _)
  | cons first rest =>
      rw [text] at reads digit
      exact .numeral (digit first (by simp))
        (fun c member => isPart_of_isDigit (digit c (List.mem_cons_of_mem _ member))) reads

theorem spells_print {symbols : List Symbol}
    (h : ∀ symbol ∈ symbols, Written symbol symbol.text.toList) :
    Spells symbols (print symbols) := by
  induction symbols using print.induct with
  | case1 => exact .done
  | case2 last =>
      have only : Spells [last] (last.text.toList ++ []) :=
        .symbol (h last (by simp)) (by simp [Ends]) .done
      simpa [print] using only
  | case3 symbol next rest ih =>
      refine .symbol (h symbol (by simp)) ?_ (.blank (by decide) (ih ?_))
      · intro c here
        cases here
        decide
      · exact fun other member => h other (List.mem_cons_of_mem _ member)

end Shell.Arith.Symbol
