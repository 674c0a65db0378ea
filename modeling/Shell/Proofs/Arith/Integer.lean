import Mathlib.Data.List.Forall2
import Mathlib.Data.List.TakeWhile
import Mathlib.Data.Nat.Digits.Defs
import Shell.Proofs.Arith.Numeral

/-! # Which texts are integers

Numerals as a grammar beside the reader: digits with the number that they stand for, a base that
depends on what stands in front of them, at most one sign, and white space around it all. What is
read is what the grammar says, as far as a word can hold it.
-/

namespace Shell.Text

theorem exists_eq_trim (text : List Char) :
    ∃ before after, text = before ++ trim text ++ after ∧
      (∀ c ∈ before, isSpace c = true) ∧ ∀ c ∈ after, isSpace c = true := by
  let middle := (text.dropWhile isSpace).reverse
  refine ⟨text.takeWhile isSpace, (middle.takeWhile isSpace).reverse, ?_,
    fun _ => List.mem_takeWhile_imp, fun c member => ?_⟩
  · rw [trim, List.append_assoc, ← List.reverse_append, List.takeWhile_append_dropWhile,
      List.reverse_reverse, List.takeWhile_append_dropWhile]
  · exact List.mem_takeWhile_imp (List.mem_reverse.mp member)

theorem trim_append {before text after : List Char} (front : ∀ c ∈ before, isSpace c = true)
    (solid : ∀ c ∈ text, isSpace c = false) (back : ∀ c ∈ after, isSpace c = true) :
    trim (before ++ text ++ after) = text := by
  rw [trim, List.append_assoc, List.dropWhile_append_of_pos front]
  cases text with
  | nil => simp [List.dropWhile_eq_nil_iff.mpr back]
  | cons c rest =>
      have back' : ∀ d ∈ after.reverse, isSpace d = true :=
        fun d member => back d (List.mem_reverse.mp member)
      have kept := trim_eq_self solid
      rw [trim, List.dropWhile_cons_of_neg (by simp [solid c])] at kept
      rw [List.cons_append, List.dropWhile_cons_of_neg (by simp [solid c]), ← List.cons_append,
        List.reverse_append, List.dropWhile_append_of_pos back', kept]

end Shell.Text

namespace Shell.Arith.Numeral

/-! ## The grammar -/

/-- A character is the digit for a number below a base. Letters are digits in either case. -/
def IsDigit (base : Nat) (c : Char) (d : Nat) : Prop :=
  d < base ∧ (c = Nat.digitChar d ∨ c = (Nat.digitChar d).toUpper)

/-- One or more digits stand for a number, the most significant first. -/
def Digits (base : Nat) (text : List Char) (n : Nat) : Prop :=
  text ≠ [] ∧ ∃ ds, List.Forall₂ (IsDigit base) text ds ∧ n = Nat.ofDigits base ds.reverse

/-- Numerals without a sign. -/
inductive Unsigned : List Char → Nat → Prop where
  | hexadecimal {x : Char} {text : List Char} {n : Nat} :
    x = 'x' ∨ x = 'X' → Digits 16 text n → Unsigned ('0' :: x :: text) n
  | octal {text : List Char} {n : Nat} : Digits 8 text n → Unsigned ('0' :: text) n
  | zero : Unsigned ['0'] 0
  /-- A zero in front would make it octal. -/
  | decimal {c : Char} {text : List Char} {n : Nat} :
    c ≠ '0' → Digits 10 (c :: text) n → Unsigned (c :: text) n

inductive Signed : List Char → Int → Prop where
  | plain {text : List Char} {n : Nat} : Unsigned text n → Signed text n
  | plus {text : List Char} {n : Nat} : Unsigned text n → Signed ('+' :: text) n
  | minus {text : List Char} {n : Nat} : Unsigned text n → Signed ('-' :: text) (-n)

/-- A text is a numeral with nothing but white space around it. -/
def Denotes (text : List Char) (n : Int) : Prop :=
  ∃ before numeral after, text = before ++ numeral ++ after ∧
    (∀ c ∈ before, Text.isSpace c = true) ∧ (∀ c ∈ after, Text.isSpace c = true) ∧
    Signed numeral n

/-! ## Digits -/

theorem digit?_digitChar_toUpper : ∀ base ≤ 16, ∀ d < base,
    digit? base (Nat.digitChar d) = some d ∧ digit? base (Nat.digitChar d).toUpper = some d := by
  decide

/-- A character in a range that spells out numbers is the numeral of its place there. -/
theorem eq_of_place (first last : Char) (spelled : Nat → Char) (shift : Nat) {c : Char} {d : Nat}
    (range : (first ≤ c && c ≤ last) = true)
    (spells : ∀ k ≤ last.toNat - first.toNat, Char.ofNat (first.toNat + k) = spelled (k + shift))
    (place : some (c.toNat - first.toNat + shift) = some d) : c = spelled d := by
  rw [Bool.and_eq_true, decide_eq_true_eq, decide_eq_true_eq] at range
  have above : first.toNat ≤ c.toNat := UInt32.le_iff_toNat_le.mp range.1
  have below : c.toNat ≤ last.toNat := UInt32.le_iff_toNat_le.mp range.2
  calc
    c = Char.ofNat (first.toNat + (c.toNat - first.toNat)) := by
      rw [Nat.add_sub_cancel' above, Char.ofNat_toNat]
    _ = spelled (c.toNat - first.toNat + shift) := spells _ (Nat.sub_le_sub_right below _)
    _ = spelled d := congrArg spelled (Option.some.inj place)

theorem digit?_eq_some_iff {base : Nat} (most : base ≤ 16) {c : Char} {d : Nat} :
    digit? base c = some d ↔ IsDigit base c d := by
  constructor
  · intro read
    simp only [digit?, Option.filter_eq_some_iff, decide_eq_true_eq] at read
    obtain ⟨place, small⟩ := read
    refine ⟨small, ?_⟩
    split_ifs at place with decimal lower upper
    · exact .inl (eq_of_place '0' '9' Nat.digitChar 0 decimal (by decide) place)
    · exact .inl (eq_of_place 'a' 'f' Nat.digitChar 10 lower (by decide) place)
    · exact .inr (eq_of_place 'A' 'F' (Char.toUpper ∘ Nat.digitChar) 10 upper (by decide) place)
  · rintro ⟨small, rfl | rfl⟩
    · exact (digit?_digitChar_toUpper base most d small).1
    · exact (digit?_digitChar_toUpper base most d small).2

theorem accumulate_eq_some_iff {base : Nat} (most : base ≤ 16) {text : List Char} {sofar n : Nat} :
    accumulate base sofar text = some n ↔
      ∃ ds, List.Forall₂ (IsDigit base) text ds ∧
        n = ds.foldl (fun sofar d => d + base * sofar) sofar := by
  induction text generalizing sofar with
  | nil => simp [accumulate, eq_comm]
  | cons c rest ih =>
      simp only [accumulate, List.forall₂_cons_left_iff]
      constructor
      · intro read
        cases value : digit? base c with
        | none => simp [value] at read
        | some d =>
            simp only [value] at read
            obtain ⟨ds, digits, rfl⟩ := ih.mp read
            refine ⟨d :: ds, ⟨d, ds, (digit?_eq_some_iff most).mp value, digits, rfl⟩, ?_⟩
            rw [List.foldl_cons, Nat.mul_comm sofar, Nat.add_comm]
      · rintro ⟨_, ⟨d, ds, digit, digits, rfl⟩, rfl⟩
        rw [(digit?_eq_some_iff most).mpr digit]
        refine ih.mpr ⟨ds, digits, ?_⟩
        rw [List.foldl_cons, Nat.mul_comm sofar, Nat.add_comm]

theorem digits?_eq_some_iff {base : Nat} (most : base ≤ 16) {text : List Char} {n : Nat} :
    digits? base text = some n ↔ Digits base text n := by
  have horner : ∀ ds : List Nat, Nat.ofDigits base ds.reverse =
      ds.foldl (fun sofar d => d + base * sofar) 0 := by
    intro ds
    rw [Nat.ofDigits_eq_foldr, List.foldr_reverse]
    rfl
  cases text with
  | nil => simp [digits?, Digits]
  | cons c rest => simp [digits?, Digits, accumulate_eq_some_iff most, horner]

/-! ## Numerals -/

theorem Digits.head_ne {base : Nat} {c other : Char} {text : List Char} {n : Nat}
    (digits : Digits base (c :: text) n) (most : base ≤ 16) (not : digit? base other = none) :
    c ≠ other := by
  rintro rfl
  obtain ⟨-, ds, all, -⟩ := digits
  obtain ⟨d, -, digit, -⟩ := List.forall₂_cons_left_iff.mp all
  rw [(digit?_eq_some_iff most).mpr digit] at not
  cases not

theorem unsigned?_eq_some_iff {text : List Char} {n : Nat} :
    unsigned? text = some n ↔ Unsigned text n := by
  constructor
  · intro read
    unfold unsigned? at read
    split at read
    · exact .hexadecimal (.inl rfl) ((digits?_eq_some_iff (by decide)).mp read)
    · exact .hexadecimal (.inr rfl) ((digits?_eq_some_iff (by decide)).mp read)
    · exact .octal ((digits?_eq_some_iff (by decide)).mp read)
    · rename_i single
      cases text with
      | nil => cases read
      | cons c rest =>
          by_cases zero : c = '0'
          · subst zero
            cases rest with
            | nil =>
                cases read
                exact .zero
            | cons d rest => exact (single d rest rfl).elim
          · exact .decimal zero ((digits?_eq_some_iff (by decide)).mp read)
  · intro numeral
    cases numeral with
    | hexadecimal letter digits =>
        rcases letter with rfl | rfl
        · exact (digits?_eq_some_iff (by decide)).mpr digits
        · exact (digits?_eq_some_iff (by decide)).mpr digits
    | @octal text n digits =>
        cases text with
        | nil => exact absurd rfl digits.1
        | cons d rest =>
            have small : d ≠ 'x' := digits.head_ne (by decide) rfl
            have large : d ≠ 'X' := digits.head_ne (by decide) rfl
            rw [unsigned?]
            · exact (digits?_eq_some_iff (by decide)).mpr digits
            · simp [small]
            · simp [large]
    | zero => rfl
    | decimal nonzero digits =>
        rw [unsigned?]
        · exact (digits?_eq_some_iff (by decide)).mpr digits
        all_goals simp [nonzero]

theorem Unsigned.head_ne {c other : Char} {text : List Char} {n : Nat}
    (numeral : Unsigned (c :: text) n) (not : digit? 10 other = none) : c ≠ other := by
  cases numeral with
  | decimal _ digits => exact digits.head_ne (by decide) not
  | _ =>
      rintro rfl
      cases not

theorem word?_eq_some_iff {n : Int} {word : Int64} : word? n = some word ↔ n = word.toInt := by
  constructor
  · intro fits
    rw [word?, Option.ite_none_right_eq_some, Option.some.injEq] at fits
    obtain ⟨⟨low, high⟩, rfl⟩ := fits
    exact (Int64.toInt_ofInt_of_le low (Int.lt_add_one_of_le high)).symm
  · rintro rfl
    exact word?_toInt word

theorem read?_eq_some_iff_signed {text : List Char} {word : Int64} :
    read? text = some word ↔ Signed (Text.trim text) word.toInt := by
  unfold read?
  generalize Text.trim text = numeral
  constructor
  · intro read
    split at read
    all_goals
      obtain ⟨n, digits, fits⟩ := Option.bind_eq_some_iff.mp read
      rw [← word?_eq_some_iff.mp fits]
      have unsigned := unsigned?_eq_some_iff.mp digits
    · exact .minus unsigned
    · exact .plus unsigned
    · exact .plain unsigned
  · generalize value : word.toInt = n
    intro signed
    cases signed with
    | plain unsigned =>
        have reads := unsigned?_eq_some_iff.mpr unsigned
        split
        · exact absurd rfl (unsigned.head_ne rfl)
        · exact absurd rfl (unsigned.head_ne rfl)
        · rw [reads, Option.bind_some, word?_eq_some_iff, value]
    | @plus rest _ unsigned =>
        change ((unsigned? rest).bind fun n => word? n) = some word
        rw [unsigned?_eq_some_iff.mpr unsigned, Option.bind_some, word?_eq_some_iff, value]
    | @minus rest _ unsigned =>
        change ((unsigned? rest).bind fun n => word? (-(n : Int))) = some word
        rw [unsigned?_eq_some_iff.mpr unsigned, Option.bind_some, word?_eq_some_iff, value]

theorem Digits.all {base : Nat} {text : List Char} {n : Nat} (digits : Digits base text n)
    (p : Char → Prop) (each : ∀ d < base, p (Nat.digitChar d) ∧ p (Nat.digitChar d).toUpper) :
    ∀ c ∈ text, p c := by
  obtain ⟨-, ds, all, -⟩ := digits
  intro c member
  induction all with
  | nil => cases member
  | cons digit _ ih =>
      rcases List.mem_cons.mp member with rfl | member
      · obtain ⟨small, rfl | rfl⟩ := digit
        · exact (each _ small).1
        · exact (each _ small).2
      · exact ih member

theorem Digits.isSpace {base : Nat} {text : List Char} {n : Nat} (digits : Digits base text n)
    (most : base ≤ 16) : ∀ c ∈ text, Text.isSpace c = false := by
  have solid : ∀ d < 16, Text.isSpace (Nat.digitChar d) = false ∧
      Text.isSpace (Nat.digitChar d).toUpper = false := by decide
  exact digits.all _ fun d small => solid d (Nat.lt_of_lt_of_le small most)

theorem Unsigned.isSpace {text : List Char} {n : Nat} (numeral : Unsigned text n) :
    ∀ c ∈ text, Text.isSpace c = false := by
  cases numeral with
  | hexadecimal letter digits =>
      rw [List.forall_mem_cons, List.forall_mem_cons]
      refine ⟨rfl, ?_, digits.isSpace (by decide)⟩
      rcases letter with rfl | rfl
      · rfl
      · rfl
  | octal digits => exact List.forall_mem_cons.mpr ⟨rfl, digits.isSpace (by decide)⟩
  | zero => exact List.forall_mem_singleton.mpr rfl
  | decimal _ digits => exact digits.isSpace (by decide)

theorem Signed.isSpace {numeral : List Char} {n : Int} (signed : Signed numeral n) :
    ∀ c ∈ numeral, Text.isSpace c = false := by
  cases signed with
  | plain unsigned => exact unsigned.isSpace
  | plus unsigned | minus unsigned => exact List.forall_mem_cons.mpr ⟨rfl, unsigned.isSpace⟩

theorem read?_eq_some_iff {text : List Char} {word : Int64} :
    read? text = some word ↔ Denotes text word.toInt := by
  rw [read?_eq_some_iff_signed]
  constructor
  · intro signed
    obtain ⟨before, after, same, front, back⟩ := Text.exists_eq_trim text
    exact ⟨before, _, after, same, front, back, signed⟩
  · rintro ⟨before, numeral, after, rfl, front, back, signed⟩
    rwa [Text.trim_append front signed.isSpace back]

/-- A text is read if it is a numeral, with white space around it or not, for an integer that a word
    can hold, from the lowest to the highest; it is read as that integer, and no other text is read.
    The decimal text of every word is read as the word. -/
theorem read?_iff_denotes :
    (∀ (text : List Char) (word : Int64),
      read? text = some word ↔ ∃ n, Denotes text n ∧ -2 ^ 63 ≤ n ∧ n ≤ 2 ^ 63 - 1 ∧
        word.toInt = n) ∧
    (∀ text : List Char,
      read? text = none ↔ ¬∃ n, Denotes text n ∧ -2 ^ 63 ≤ n ∧ n ≤ 2 ^ 63 - 1) ∧
    ∀ word : Int64, read? (render word).toList = some word := by
  refine ⟨fun text word => ?_, fun text => ?_, read?_render⟩
  · rw [read?_eq_some_iff]
    constructor
    · intro denotes
      exact ⟨word.toInt, denotes, word.minValue_le_toInt, word.toInt_le, rfl⟩
    · rintro ⟨n, denotes, -, -, rfl⟩
      exact denotes
  · rw [Option.eq_none_iff_forall_ne_some]
    constructor
    · rintro unread ⟨n, denotes, low, high⟩
      have value := Int64.toInt_ofInt_of_le low (Int.lt_of_le_sub_one high)
      exact unread (Int64.ofInt n) (read?_eq_some_iff.mpr (value.symm ▸ denotes))
    · intro none word read
      exact none ⟨word.toInt, read?_eq_some_iff.mp read, word.minValue_le_toInt, word.toInt_le⟩

end Shell.Arith.Numeral
