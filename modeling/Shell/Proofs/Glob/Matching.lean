import Shell.Glob.Match

/-! # What a match within a budget finds

The search reads the pattern as it goes; `Piece.read` reads it once. Whatever the search finds is
a match of the pieces, with a limit on calls or without one. Without a limit it finds every
match, and a limit that is not reached changes nothing.
-/

namespace Shell.Glob

/-! ## What pieces describe -/

def Piece.admits (c : Char) : Piece → Bool
  | stars => false
  | anyChar => true
  | oneOf cls => cls.admits c
  | literal d => d == c

theorem matches_nil {text : List Char} : Matches [] text ↔ text = [] := by
  constructor
  · rintro ⟨⟩
    rfl
  · rintro rfl
    exact .done

theorem matches_stars {ps : List Piece} {text : List Char} :
    Matches (.stars :: ps) text ↔ ∃ rest, rest <:+ text ∧ Matches ps rest := by
  constructor
  · rintro (_ | ⟨skipped, rest⟩)
    exact ⟨_, List.suffix_append _ _, rest⟩
  · rintro ⟨rest, ⟨skipped, rfl⟩, found⟩
    exact .stars skipped found

theorem matches_cons {piece : Piece} (single : piece ≠ .stars) {ps : List Piece}
    {text : List Char} :
    Matches (piece :: ps) text ↔
      ∃ c left, text = c :: left ∧ piece.admits c = true ∧ Matches ps left := by
  constructor
  · intro found
    cases found with
    | stars => exact absurd rfl single
    | anyChar c rest => exact ⟨c, _, rfl, rfl, rest⟩
    | oneOf admitted rest => exact ⟨_, _, rfl, admitted, rest⟩
    | literal rest => exact ⟨_, _, rfl, beq_self_eq_true _, rest⟩
  · rintro ⟨c, left, rfl, admitted, rest⟩
    cases piece with
    | stars => exact absurd rfl single
    | anyChar => exact .anyChar c rest
    | oneOf cls => exact .oneOf admitted rest
    | literal d =>
        obtain rfl : d = c := by simpa [Piece.admits] using admitted
        exact .literal rest

/-! ## Reading on the way -/

theorem read_stars (rest : List Char) :
    Piece.read ('*' :: rest) = .stars :: Piece.read (rest.dropWhile (· == '*')) := by
  simp [Piece.read]

theorem read_eq_nil {pattern : List Char} : Piece.read pattern = [] ↔ pattern = [] := by
  constructor
  · intro none
    unfold Piece.read at none
    split at none
    · rfl
    · simp at none
    · simp at none
    · split at none <;> simp at none
    · simp at none
    · simp at none
  · rintro rfl
    simp [Piece.read]

theorem read_front {pattern : List Char} (nonempty : pattern ≠ [])
    (plain : ∀ rest, pattern ≠ '*' :: rest) :
    ∃ piece rest, piece ≠ .stars ∧ Piece.read pattern = piece :: Piece.read rest ∧
      ∀ c, consume? c pattern = if piece.admits c then some rest else none := by
  rw [Piece.read.eq_def]
  split
  case h_1 => exact absurd rfl nonempty
  case h_2 rest => exact absurd rfl (plain rest)
  case h_3 rest => exact ⟨.anyChar, rest, by simp, rfl, fun c => rfl⟩
  case h_4 rest =>
    cases closed : CharClass.read? rest with
    | some found =>
        refine ⟨.oneOf found.1, found.2, by simp, by simp, fun c => ?_⟩
        simp only [consume?, CharClass.test?_eq, closed, Option.map_some, Piece.admits]
        rfl
    | none =>
        refine ⟨.literal '[', rest, by simp, by simp, fun c => ?_⟩
        simp [consume?, CharClass.test?_eq, closed, Piece.admits]
  case h_5 d rest => exact ⟨.literal d, rest, by simp, rfl, fun c => by simp [consume?, Piece.admits]⟩
  case h_6 d rest _ _ _ _ =>
    exact ⟨.literal d, rest, by simp, rfl, fun c => by simp_all [consume?, Piece.admits]⟩

theorem matches_read {pattern : List Char} (nonempty : pattern ≠ [])
    (plain : ∀ rest, pattern ≠ '*' :: rest) {text : List Char} :
    Matches (Piece.read pattern) text ↔
      ∃ c left next, text = c :: left ∧ consume? c pattern = some next ∧
        Matches (Piece.read next) left := by
  obtain ⟨piece, rest, single, reads, consumes⟩ := read_front nonempty plain
  rw [reads, matches_cons single]
  simp [consumes, and_assoc]

/-! ## Trying the suffixes of a text -/

section AnySuffix

variable {attempt attempt' : List Char → Nat → Bool × Nat}

theorem le_anySuffix (counts : ∀ text calls, calls ≤ (attempt text calls).2) (text : List Char)
    (calls : Nat) : calls ≤ (anySuffix attempt text calls).2 := by
  fun_induction anySuffix attempt text calls with
  | case1 calls => exact counts [] calls
  | case2 c rest calls calls' found => simpa [found] using counts (c :: rest) calls
  | case3 c rest calls calls' found ih =>
      have here := counts (c :: rest) calls
      rw [found] at here
      exact Nat.le_trans here ih

theorem suffix_of_anySuffix {text : List Char} {calls : Nat}
    (found : (anySuffix attempt text calls).1 = true) :
    ∃ rest calls', rest <:+ text ∧ (attempt rest calls').1 = true := by
  fun_induction anySuffix attempt text calls with
  | case1 calls => exact ⟨[], calls, List.suffix_refl _, found⟩
  | case2 c rest calls calls' here =>
      exact ⟨c :: rest, calls, List.suffix_refl _, by rw [here]⟩
  | case3 c rest calls calls' here ih =>
      obtain ⟨suffix, calls'', shorter, there⟩ := ih found
      exact ⟨suffix, calls'', shorter.trans (List.suffix_cons c rest), there⟩

theorem anySuffix_of_suffix {rest text : List Char} (suffix : rest <:+ text)
    (found : ∀ calls, (attempt rest calls).1 = true) (calls : Nat) :
    (anySuffix attempt text calls).1 = true := by
  fun_induction anySuffix attempt text calls with
  | case1 calls => exact List.suffix_nil.mp suffix ▸ found calls
  | case2 => rfl
  | case3 c left calls calls' here ih =>
      rcases List.suffix_cons_iff.mp suffix with rfl | shorter
      · simpa [here] using found calls
      · exact ih shorter

/-- Attempts that agree as long as few calls are made agree on the suffixes of a text as well. -/
theorem anySuffix_congr {most : Nat} (counts : ∀ text calls, calls ≤ (attempt text calls).2)
    (same : ∀ text calls, (attempt text calls).2 ≤ most →
      attempt' text calls = attempt text calls)
    {text : List Char} {calls : Nat} (few : (anySuffix attempt text calls).2 ≤ most) :
    anySuffix attempt' text calls = anySuffix attempt text calls := by
  fun_induction anySuffix attempt text calls with
  | case1 calls => exact same [] calls few
  | case2 c rest calls calls' found =>
      simp only [anySuffix, same (c :: rest) calls (by rw [found]; exact few), found]
  | case3 c rest calls calls' found ih =>
      have here : calls' ≤ most := Nat.le_trans (le_anySuffix counts rest calls') few
      simp only [anySuffix, same (c :: rest) calls (by rw [found]; exact here), found, ih few]

end AnySuffix

/-! ## One call and those that follow from it -/

variable {limit : Option Nat} {pattern text : List Char} {calls : Nat}

theorem lt_attempt (limit : Option Nat) (pattern text : List Char) (calls : Nat) :
    calls < (attempt limit pattern text calls).2 := by
  fun_induction attempt limit pattern text calls with
  | case1 | case2 | case3 | case5 | case7 => exact Nat.lt_succ_self _
  | case4 text calls _ rest next _ ih =>
      exact le_anySuffix (fun text calls => Nat.le_of_lt (ih text calls)) text (calls + 1)
  | case6 calls _ _ _ _ _ _ _ _ ih => exact Nat.lt_of_succ_lt ih

/-- Whatever is found is a match, limit or not. -/
theorem matches_of_attempt (found : (attempt limit pattern text calls).1 = true) :
    Matches (Piece.read pattern) text := by
  fun_induction attempt limit pattern text calls with
  | case1 | case5 | case7 => simp at found
  | case2 text =>
      obtain rfl : text = [] := by simpa using found
      rw [read_eq_nil.mpr rfl]
      exact .done
  | case3 text _ _ rest next last =>
      have none : next = [] := by simpa using last
      rw [read_stars, matches_stars, read_eq_nil.mpr none]
      exact ⟨[], List.nil_suffix, .done⟩
  | case4 text calls _ rest next _ ih =>
      obtain ⟨left, calls', suffix, further⟩ := suffix_of_anySuffix found
      rw [read_stars, matches_stars]
      exact ⟨left, suffix, ih left calls' further⟩
  | case6 _ _ front nonempty plain c left next consumed ih =>
      rw [matches_read nonempty plain]
      exact ⟨c, left, next, rfl, consumed, ih found⟩

theorem attempt_of_matches (found : Matches (Piece.read pattern) text) :
    (attempt none pattern text calls).1 = true := by
  fun_induction attempt none pattern text calls with
  | case1 _ _ _ spent => simp [isSpent] at spent
  | case2 text =>
      rw [read_eq_nil.mpr rfl, matches_nil] at found
      simpa using found
  | case3 => rfl
  | case4 text calls _ rest next _ ih =>
      rw [read_stars, matches_stars] at found
      obtain ⟨left, suffix, further⟩ := found
      exact anySuffix_of_suffix suffix (fun calls' => ih left calls' further) (calls + 1)
  | case5 _ _ front nonempty plain =>
      obtain ⟨c, left, next, same, -⟩ := (matches_read nonempty plain).mp found
      simp at same
  | case6 _ _ front nonempty plain c left next consumed ih =>
      obtain ⟨d, left', next', same, consumed', further⟩ := (matches_read nonempty plain).mp found
      obtain ⟨rfl, rfl⟩ := List.cons.inj same
      obtain rfl : next = next' := Option.some.inj (consumed.symm.trans consumed')
      exact ih further
  | case7 _ _ front nonempty plain c left refused =>
      obtain ⟨d, left', next', same, consumed, -⟩ := (matches_read nonempty plain).mp found
      obtain ⟨rfl, rfl⟩ := List.cons.inj same
      simp [refused] at consumed

theorem attempt_front (unspent : isSpent limit (calls + 1) = false) (nonempty : pattern ≠ [])
    (plain : ∀ rest, pattern ≠ '*' :: rest) (text : List Char) :
    attempt limit pattern text calls =
      match text with
      | [] => (false, calls + 1)
      | c :: left =>
        match consume? c pattern with
        | some next => attempt limit next left (calls + 1)
        | none => (false, calls + 1) := by
  rw [attempt.eq_def, if_neg (by simp [unspent])]
  split
  · exact absurd rfl nonempty
  · exact absurd rfl (plain _)
  · cases text with
    | nil => rfl
    | cons c left =>
        dsimp only
        split
        next next consumed => rw [consumed]
        next refused => rw [refused]

theorem attempt_stars (unspent : isSpent limit (calls + 1) = false) (rest text : List Char) :
    attempt limit ('*' :: rest) text calls =
      if (rest.dropWhile (· == '*')).isEmpty then (true, calls + 1)
      else anySuffix (attempt limit (rest.dropWhile (· == '*'))) text (calls + 1) := by
  rw [attempt.eq_def, if_neg (by simp [unspent])]
  rfl

theorem isSpent_of_le {most : Nat} (few : (attempt none pattern text calls).2 ≤ most) :
    isSpent (some most) (calls + 1) = false := by
  have := lt_attempt none pattern text calls
  simp only [isSpent, decide_eq_false_iff_not]
  omega

/-- A limit that is not reached changes neither the answer nor the count. -/
theorem attempt_eq_of_le {most : Nat} (few : (attempt none pattern text calls).2 ≤ most) :
    attempt (some most) pattern text calls = attempt none pattern text calls := by
  have unspent := isSpent_of_le few
  fun_induction attempt none pattern text calls with
  | case1 _ _ _ spent => simp [isSpent] at spent
  | case2 => rw [attempt.eq_def, if_neg (by simp [unspent])]
  | case3 _ _ _ rest next last => rw [attempt_stars unspent, if_pos last]
  | case4 text calls _ rest next more ih =>
      rw [attempt_stars unspent, if_neg more]
      refine anySuffix_congr (fun text calls => Nat.le_of_lt (lt_attempt none next text calls))
        (fun text calls few => ?_) few
      exact ih text calls few (isSpent_of_le few)
  | case5 _ _ _ nonempty plain => rw [attempt_front unspent nonempty plain]
  | case6 _ _ _ nonempty plain _ _ _ consumed ih =>
      rw [attempt_front unspent nonempty plain]
      simp only [consumed]
      exact ih few (isSpent_of_le few)
  | case7 _ _ _ nonempty plain _ _ refused =>
      rw [attempt_front unspent nonempty plain]
      simp only [refused]

/-- A glob match is never wrong when it accepts a text, and it is right either way when the search,
    left to itself, would make no more calls than it may. -/
theorem accepts_within_limit (pattern text : String) :
    (accepts pattern text = true → Matches (Piece.read pattern.toList) text.toList) ∧
      ((attempt none pattern.toList text.toList 0).2 ≤ callLimit →
        (accepts pattern text = true ↔ Matches (Piece.read pattern.toList) text.toList)) := by
  refine ⟨matches_of_attempt, fun few => ⟨matches_of_attempt, fun found => ?_⟩⟩
  rw [accepts, attempt_eq_of_le few]
  exact attempt_of_matches found

/-- A set, stars and an escaped star, on a text that they describe and on one that they do not. -/
theorem accepts_within_limit_escaped_star :
    let pattern := "[!x]**\\*"
    accepts pattern "ab*" = true ∧ Matches (Piece.read pattern.toList) "ab*".toList ∧
      (attempt none pattern.toList "abc".toList 0).2 ≤ callLimit ∧
      ¬Matches (Piece.read pattern.toList) "abc".toList := by
  have found : accepts "[!x]**\\*" "ab*" = true := by decide +kernel
  have few : (attempt none "[!x]**\\*".toList "abc".toList 0).2 ≤ callLimit := by decide +kernel
  have refused : accepts "[!x]**\\*" "abc" = false := by decide +kernel
  refine ⟨found, (accepts_within_limit _ _).1 found, few, fun describes => ?_⟩
  rw [((accepts_within_limit _ _).2 few).mpr describes] at refused
  cases refused

end Shell.Glob
