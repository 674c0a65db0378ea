import Shell.Glob.CharClass

/-! # What bracket expressions say

The grammar of a bracket expression beside the reader: which entries its text consists of, and where
it closes. A character is only compared with the entries, so the place where a bracket expression
ends is the same for all characters.
-/

namespace Shell.Glob

/-- A character is an entry by itself or lies between the ends of a range. -/
def Member.Contains (c : Char) (member : Member) : Prop :=
  member = .single c ∨ ∃ low high, member = .range low high ∧ low ≤ c ∧ c ≤ high

theorem Member.admits_iff {c : Char} {member : Member} :
    member.admits c = true ↔ member.Contains c := by
  cases member with
  | single d => simp [admits, Contains]
  | range low high =>
      simp only [admits, Contains, Bool.and_eq_true, decide_eq_true_eq, reduceCtorEq, false_or]
      constructor
      · intro between
        exact ⟨low, high, rfl, between⟩
      · rintro ⟨_, _, ⟨⟩, between⟩
        exact between

namespace CharClass

/-! ## The grammar -/

/-- A text begins with entries and the bracket that closes them, and so much is left of it. A
    bracket is an entry only where it comes first, and what stands before a minus sign begins a
    range unless the closing bracket follows. -/
inductive Entries : (first : Bool) → List Char → List Member → List Char → Prop where
  | close {left : List Char} : Entries false (']' :: left) [] left
  | range {first : Bool} {low high : Char} {text : List Char} {members : List Member}
    {left : List Char} :
    (low = ']' → first = true) → high ≠ ']' → Entries false text members left →
      Entries first (low :: '-' :: high :: text) (.range low high :: members) left
  | single {first : Bool} {c : Char} {text : List Char} {members : List Member}
    {left : List Char} :
    (c = ']' → first = true) → (∀ high rest, text = '-' :: high :: rest → high = ']') →
      Entries false text members left → Entries first (c :: text) (.single c :: members) left

/-- True for the characters that negate a bracket expression when they come first. -/
def isSign (c : Char) : Bool :=
  c == '!' || c == '^'

def isNegated (text : List Char) : Bool :=
  text.head?.any isSign

def body (text : List Char) : List Char :=
  if isNegated text then text.tail else text

/-! ## Reading entries -/

theorem readMembers_close (left : List Char) :
    readMembers false (']' :: left) = some ([], left) := by
  rw [readMembers.eq_def]
  split
  case h_1 none => cases none
  case h_2 c high rest same => cases same; rfl
  case h_3 c rest _ same => cases same; rfl

theorem readMembers_range {first : Bool} {low high : Char} (only : low = ']' → first = true)
    (other : high ≠ ']') (rest : List Char) :
    readMembers first (low :: '-' :: high :: rest) =
      (readMembers false rest).map fun (members, left) => (.range low high :: members, left) := by
  have stays : ¬(low = ']' && !first) = true := by simpa using only
  rw [readMembers, if_neg stays, if_neg other]

theorem readMembers_single {first : Bool} {c : Char} (only : c = ']' → first = true)
    {rest : List Char} (short : ∀ high more, rest = '-' :: high :: more → high = ']') :
    readMembers first (c :: rest) =
      (readMembers false rest).map fun (members, left) => (.single c :: members, left) := by
  have stays : ¬(c = ']' && !first) = true := by simpa using only
  rw [readMembers.eq_def]
  split
  case h_1 none => cases none
  case h_2 d high more same =>
    cases same
    rw [if_neg stays, if_pos (short high more rfl)]
  case h_3 d more _ same =>
    cases same
    rw [if_neg stays]

theorem readMembers_eq_some_iff {first : Bool} {text : List Char} {members : List Member}
    {left : List Char} :
    readMembers first text = some (members, left) ↔ Entries first text members left := by
  constructor
  · intro read
    fun_induction readMembers first text generalizing members left with
    | case1 => cases read
    | case2 | case5 =>
        simp_all only [Bool.and_eq_true, decide_eq_true_eq, Bool.not_eq_true']
        cases read
        exact .close
    | case3 first c rest stays ih =>
        obtain ⟨⟨members', left'⟩, further, same⟩ := Option.map_eq_some_iff.mp read
        cases same
        refine .single (by simpa using stays) ?_ (ih further)
        rintro high rest ⟨⟩
        rfl
    | case4 first c high rest stays other ih =>
        obtain ⟨⟨members', left'⟩, further, same⟩ := Option.map_eq_some_iff.mp read
        cases same
        exact .range (by simpa using stays) other (ih further)
    | case6 first c rest short stays ih =>
        obtain ⟨⟨members', left'⟩, further, same⟩ := Option.map_eq_some_iff.mp read
        cases same
        refine .single (by simpa using stays) ?_ (ih further)
        rintro high rest rfl
        exact (short high rest rfl).elim
  · intro entries
    induction entries with
    | close => exact readMembers_close _
    | range only other _ ih => rw [readMembers_range only other, ih, Option.map_some]
    | single only short _ ih => rw [readMembers_single only short, ih, Option.map_some]

/-! ## Whole bracket expressions -/

theorem read?_eq (text : List Char) :
    read? text = (readMembers true (body text)).map fun (members, left) =>
      (⟨isNegated text, members⟩, left) := by
  unfold read?
  split
  · rfl
  · rfl
  · have plain : isNegated text = false := by
      cases text with
      | nil => rfl
      | cons c rest => simp_all [isNegated, isSign]
    simp [body, plain]

/-- How many characters a bracket expression takes up, both brackets included. -/
def length? (c : Char) (text : List Char) : Option Nat :=
  (test? c text).map fun found => text.length + 1 - found.2.length

/-- Whether a bracket expression stands for a character. -/
def answer? (c : Char) (text : List Char) : Option Bool :=
  (test? c text).map Prod.fst

theorem length?_eq (c : Char) (text : List Char) :
    length? c text = (read? text).map fun found => text.length + 1 - found.2.length := by
  rw [length?, test?_eq, Option.map_map]
  rfl

theorem answer?_eq (c : Char) (text : List Char) :
    answer? c text = (read? text).map fun found => found.1.admits c := by
  rw [answer?, test?_eq, Option.map_map]
  rfl

theorem left_eq_drop {c : Char} {text : List Char} {admitted : Bool} {left : List Char}
    (closed : test? c text = some (admitted, left)) :
    ∃ taken, length? c text = some taken ∧ left = ('[' :: text).drop taken := by
  rw [test?_eq] at closed
  obtain ⟨⟨cls, left'⟩, read, same⟩ := Option.map_eq_some_iff.mp closed
  obtain ⟨-, rfl⟩ := Prod.mk.inj same
  have suffix := suffix_of_read? read
  have beyond : text.length + 1 - left'.length = text.length - left'.length + 1 :=
    Nat.succ_sub suffix.length_le
  refine ⟨_, by rw [length?_eq, read, Option.map_some], ?_⟩
  rw [beyond, List.drop_succ_cons]
  exact List.suffix_iff_eq_drop.mp suffix

section Sign

variable {sign : Char} {text : List Char}

/-- A sign goes before the same entries. -/
theorem read?_sign (negates : isSign sign = true) (plain : isNegated text = false) :
    read? (sign :: text) = (read? text).map fun (cls, left) => (⟨true, cls.members⟩, left) := by
  have negated : isNegated (sign :: text) = true := negates
  have inner : body (sign :: text) = text := if_pos negated
  have same : body text = text := if_neg (by simp [plain])
  rw [read?_eq, read?_eq, negated, inner, same, Option.map_map]
  rfl

theorem length?_sign (negates : isSign sign = true) (plain : isNegated text = false) (c : Char) :
    length? c (sign :: text) = (length? c text).map (· + 1) := by
  rw [length?_eq, length?_eq, read?_sign negates plain]
  cases read : read? text with
  | none => rfl
  | some found =>
      obtain ⟨cls, left⟩ := found
      have shorter := length_of_read? read
      simp only [Option.map_some, List.length_cons, Option.some.injEq]
      omega

theorem answer?_sign (negates : isSign sign = true) (plain : isNegated text = false) (c : Char) :
    answer? c (sign :: text) = (answer? c text).map not := by
  have unsigned : ∀ found ∈ read? text, found.1.negated = false := by
    intro found read
    rw [read?_eq, plain] at read
    obtain ⟨entries, -, rfl⟩ := Option.map_eq_some_iff.mp read
    rfl
  rw [answer?_eq, answer?_eq, read?_sign negates plain]
  cases read : read? text with
  | none => rfl
  | some found => simp [admits, unsigned found read]

end Sign

theorem test?_eq_some_iff {c : Char} {text : List Char} {admitted : Bool} {left : List Char} :
    test? c text = some (admitted, left) ↔
      ∃ members, Entries true (body text) members left ∧
        ((admitted != isNegated text) = true ↔ ∃ member ∈ members, member.Contains c) := by
  have among : ∀ members : List Member, (∃ member ∈ members, member.Contains c) ↔
      members.any (Member.admits c) = true := by
    intro members
    simp only [List.any_eq_true, Member.admits_iff]
  simp only [test?_eq, read?_eq, Option.map_map, Option.map_eq_some_iff, Prod.exists,
    readMembers_eq_some_iff, among]
  constructor
  · rintro ⟨members, left', entries, same⟩
    obtain ⟨rfl, rfl⟩ := Prod.mk.inj same
    refine ⟨members, entries, ?_⟩
    simp [admits]
  · rintro ⟨members, entries, answer⟩
    refine ⟨members, left, entries, ?_⟩
    rw [← Bool.eq_iff_iff] at answer
    simp [admits, ← answer]

/-- Where a bracket expression closes is the same for all characters. A sign takes one character
    more and turns the answer round. Without its sign, a closed one stands for the characters that
    are entries or lie between the ends of a range, and for no other; a range from a higher
    character to a lower one has none. -/
theorem test?_by_entries :
    (∀ (c d : Char) (text : List Char), length? c text = length? d text) ∧
    (∀ (c : Char) (text : List Char) (admitted : Bool) (left : List Char),
      test? c text = some (admitted, left) →
        ∃ taken, length? c text = some taken ∧ left = ('[' :: text).drop taken) ∧
    (∀ (c sign : Char) (text : List Char), sign = '!' ∨ sign = '^' →
      text.head? ≠ some '!' → text.head? ≠ some '^' →
        length? c (sign :: text) = (length? c text).map (· + 1) ∧
          answer? c (sign :: text) = (answer? c text).map not) ∧
    (∀ (c : Char) (text : List Char) (admitted : Bool) (left : List Char),
      test? c text = some (admitted, left) ↔
        ∃ members, Entries true (body text) members left ∧
          ((admitted != isNegated text) = true ↔ ∃ member ∈ members, member.Contains c)) ∧
    ∀ low high c : Char, high < low → ¬(Member.range low high).Contains c := by
  refine ⟨?_, ?_, ?_, ?_, ?_⟩
  · intro c d text
    rw [length?_eq, length?_eq]
  · intro c text admitted left closed
    exact left_eq_drop closed
  · intro c sign text either exclamation caret
    have negates : isSign sign = true := by simpa [isSign] using either
    have plain : isNegated text = false := by
      cases text with
      | nil => rfl
      | cons first rest => simp_all [isNegated, isSign]
    exact ⟨length?_sign negates plain c, answer?_sign negates plain c⟩
  · intro c text admitted left
    exact test?_eq_some_iff
  · intro low high c reversed contains
    obtain ⟨_, _, ⟨⟩, above, below⟩ := contains.resolve_left (by simp)
    exact absurd (Char.le_trans above below) (Char.not_le.mpr reversed)

/-- A bracket begins a range, and a minus sign stands before the bracket that closes. -/
theorem test?_by_entries_first_bracket :
    let text := "]-a^-]x".toList
    test? '_' text = some (true, ['x']) ∧
      (∃ taken, length? '_' text = some taken ∧ ['x'] = ('[' :: text).drop taken) ∧
      length? '_' ('!' :: text) = some 8 ∧ answer? '_' ('!' :: text) = some false ∧
      Entries true text [.range ']' 'a', .single '^', .single '-'] ['x'] ∧
      (∃ members, Entries true (body text) members ['x'] ∧
        ∃ member ∈ members, member.Contains '_') ∧
      ¬(Member.range 'z' 'a').Contains 'm' := by
  intro text
  obtain ⟨-, dropped, signed, grammar, reversed⟩ := test?_by_entries
  have closed : test? '_' text = some (true, ['x']) := by decide +kernel
  have negated := signed '_' '!' text (.inl rfl) (by decide +kernel) (by decide +kernel)
  have entries : Entries true text [.range ']' 'a', .single '^', .single '-'] ['x'] :=
    readMembers_eq_some_iff.mp (by decide +kernel)
  obtain ⟨members, divides, among⟩ := (grammar '_' text true ['x']).mp closed
  refine ⟨closed, dropped _ _ _ _ closed, negated.1.trans (by decide +kernel),
    negated.2.trans (by decide +kernel), entries, ⟨members, divides, ?_⟩,
    reversed 'z' 'a' 'm' (by decide)⟩
  exact among.mp (by decide +kernel)

end CharClass

end Shell.Glob
