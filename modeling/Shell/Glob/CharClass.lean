/-! # Bracket expressions

A bracket expression such as `[a-z_]` names a set of characters. Where it ends is a matter of the pattern
alone, so reading one and asking whether a character belongs to it are separate.
-/

namespace Shell.Glob

/-- One entry between the brackets. -/
inductive Member where
  /-- Stands for itself. -/
  | single (c : Char)
  /-- Stands for every character from `low` to `high`; none when they are in the wrong order. -/
  | range (low high : Char)
deriving Repr, DecidableEq, Inhabited

namespace Member

/-- True when the entry stands for `c`. -/
def admits (c : Char) : Member → Bool
  | single d => d == c
  | range low high => low ≤ c && c ≤ high

end Member

/-- The set named by a closed bracket expression. -/
structure CharClass where
  /-- Set by a leading `!` or `^`. -/
  negated : Bool
  members : List Member
deriving Repr, DecidableEq, Inhabited

namespace CharClass

/-- True when `c` belongs to the set. -/
def admits (c : Char) (cls : CharClass) : Bool :=
  cls.members.any (Member.admits c) != cls.negated

/-- Reads entries up to the closing bracket and returns what follows it. A bracket that comes first
    is an entry, `x-y` is a range unless `y` is a bracket, and `none` means that no bracket
    closes. -/
def readMembers (first : Bool) : List Char → Option (List Member × List Char)
  | [] => none
  | c :: '-' :: high :: rest =>
    if c = ']' && !first then some ([], '-' :: high :: rest)
    else if high = ']' then
      (readMembers false ('-' :: high :: rest)).map fun (ms, left) => (.single c :: ms, left)
    else (readMembers false rest).map fun (ms, left) => (.range c high :: ms, left)
  | c :: rest =>
    if c = ']' && !first then some ([], rest)
    else (readMembers false rest).map fun (ms, left) => (.single c :: ms, left)

/-- Reads what follows an opening bracket. -/
def read? : List Char → Option (CharClass × List Char)
  | '!' :: rest => (readMembers true rest).map fun (ms, left) => (⟨true, ms⟩, left)
  | '^' :: rest => (readMembers true rest).map fun (ms, left) => (⟨true, ms⟩, left)
  | rest => (readMembers true rest).map fun (ms, left) => (⟨false, ms⟩, left)

/-- Entries take up characters at the front of the text, the closing bracket included. -/
theorem suffix_tail_of_readMembers {first : Bool} {text : List Char} {ms : List Member}
    {left : List Char} (h : readMembers first text = some (ms, left)) :
    text ≠ [] ∧ left <:+ text.tail := by
  fun_induction readMembers first text generalizing ms left with
  | case1 => cases h
  | case2 | case5 =>
    cases h
    exact ⟨List.cons_ne_nil _ _, List.suffix_refl _⟩
  | case3 _ _ _ _ ih | case6 _ _ _ _ _ ih =>
    obtain ⟨⟨ms', left'⟩, read, same⟩ := Option.map_eq_some_iff.1 h
    cases same
    exact ⟨List.cons_ne_nil _ _, (ih read).2.trans (List.tail_suffix _)⟩
  | case4 _ _ high rest _ _ ih =>
    obtain ⟨⟨ms', left'⟩, read, same⟩ := Option.map_eq_some_iff.1 h
    cases same
    have further : rest.tail <:+ '-' :: high :: rest :=
      (List.tail_suffix rest).trans (List.suffix_append ['-', high] rest)
    exact ⟨List.cons_ne_nil _ _, (ih read).2.trans further⟩

/-- A closed bracket expression takes up characters at the front of the text. -/
theorem suffix_tail_of_read? {text : List Char} {cls : CharClass} {left : List Char}
    (h : read? text = some (cls, left)) : text ≠ [] ∧ left <:+ text.tail := by
  unfold read? at h
  split at h <;>
  · obtain ⟨⟨ms, left'⟩, read, same⟩ := Option.map_eq_some_iff.1 h
    cases same
    have taken := suffix_tail_of_readMembers read
    first
    | exact taken
    | exact ⟨List.cons_ne_nil _ _, taken.2.trans (List.tail_suffix _)⟩

theorem length_of_read? {text : List Char} {cls : CharClass} {left : List Char}
    (h : read? text = some (cls, left)) : left.length < text.length := by
  obtain ⟨nonempty, suffix⟩ := suffix_tail_of_read? h
  calc
    left.length ≤ text.tail.length := suffix.length_le
    _ = text.length - 1 := List.length_tail
    _ < text.length := Nat.sub_one_lt (mt List.length_eq_zero_iff.mp nonempty)

/-- What follows a closed bracket expression stands at the end of the text. -/
theorem suffix_of_read? {text : List Char} {cls : CharClass} {left : List Char}
    (h : read? text = some (cls, left)) : left <:+ text :=
  (suffix_tail_of_read? h).2.trans (List.tail_suffix text)

/-- Reads entries as `readMembers` does and asks of each, as it is read, whether it stands for `c`.
    The answer is whether any did so far or does, with what follows the closing bracket. -/
def testMembers (c : Char) (first matched : Bool) : List Char → Option (Bool × List Char)
  | [] => none
  | d :: '-' :: high :: rest =>
    if d = ']' && !first then some (matched, '-' :: high :: rest)
    else if high = ']' then testMembers c false (matched || d == c) ('-' :: high :: rest)
    else testMembers c false (matched || (d ≤ c && c ≤ high)) rest
  | d :: rest =>
    if d = ']' && !first then some (matched, rest)
    else testMembers c false (matched || d == c) rest

/-- Reads what follows an opening bracket and says whether `c` belongs to the set. -/
def test? (c : Char) : List Char → Option (Bool × List Char)
  | '!' :: rest => (testMembers c true false rest).map fun (matched, left) => (!matched, left)
  | '^' :: rest => (testMembers c true false rest).map fun (matched, left) => (!matched, left)
  | rest => testMembers c true false rest

/-- Testing while reading comes to the same as reading first. -/
theorem testMembers_eq (c : Char) (first matched : Bool) (text : List Char) :
    testMembers c first matched text =
      (readMembers first text).map fun (ms, left) =>
        (matched || ms.any (Member.admits c), left) := by
  fun_induction readMembers first text generalizing matched with
  | case1 => rfl
  | case2 | case5 => simp_all [testMembers]
  | case3 _ _ _ other ih =>
    simp [testMembers, other, ih, Member.admits, Bool.or_assoc, Function.comp_def]
  | case4 _ _ _ _ other inner ih =>
    simp [testMembers, other, inner, ih, Member.admits, Bool.or_assoc, Function.comp_def]
  | case6 _ _ _ _ other ih =>
    simp [testMembers, other, ih, Member.admits, Bool.or_assoc, Function.comp_def]

/-- Whether a bracket expression closes, and where, does not depend on the character. -/
theorem test?_eq (c : Char) (text : List Char) :
    test? c text = (read? text).map fun (cls, left) => (cls.admits c, left) := by
  unfold test? read?
  split <;> simp [testMembers_eq, admits, Function.comp_def]

/-- A closed bracket expression takes up characters, whatever it is asked about. -/
theorem length_of_test? {c : Char} {text : List Char} {admitted : Bool} {left : List Char}
    (h : test? c text = some (admitted, left)) : left.length < text.length := by
  rw [test?_eq] at h
  obtain ⟨⟨cls, left'⟩, hr, he⟩ := Option.map_eq_some_iff.1 h
  simp only [Prod.mk.injEq] at he
  exact he.2 ▸ length_of_read? hr

end CharClass

end Shell.Glob
