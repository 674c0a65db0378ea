import Mathlib.Tactic.GCongr
import Mathlib.Tactic.Ring
import Shell.Proofs.Glob.Matching

/-! # How many calls a match makes

A piece other than stars makes one call and leaves less of the text. Stars make a call at every
place that is left, so with few runs of stars a search makes few calls, and the limit hides no
match. Once the calls are used up every further one is refused, but the search does not stop
there: each of the stars that it is in goes on through the places that it has left.
-/

namespace Shell.Glob

/-! ## Runs of stars -/

/-- The runs of stars in the text of a pattern, each counted at its last star. -/
def starRuns : List Char → Nat
  | [] => 0
  | c :: rest => starRuns rest + if c = '*' ∧ rest.head? ≠ some '*' then 1 else 0

/-- The pieces of a pattern that are stars. Stars in brackets or after a backslash are none. -/
def stars (pattern : List Char) : Nat :=
  (Piece.read pattern).count .stars

theorem starRuns_le_cons (c : Char) (rest : List Char) : starRuns rest ≤ starRuns (c :: rest) :=
  Nat.le_add_right _ _

theorem starRuns_le_of_suffix {rest text : List Char} (suffix : rest <:+ text) :
    starRuns rest ≤ starRuns text := by
  obtain ⟨front, rfl⟩ := suffix
  induction front with
  | nil => exact Nat.le_refl _
  | cons c front ih => exact Nat.le_trans ih (starRuns_le_cons c _)

theorem starRuns_stars (rest : List Char) :
    starRuns ('*' :: rest) = starRuns (rest.dropWhile (· == '*')) + 1 := by
  induction rest with
  | nil => rfl
  | cons c rest ih =>
      by_cases star : c = '*'
      · subst star
        rw [starRuns, ih]
        simp
      · simp [starRuns, star]

theorem starRuns_eq_zero {pattern : List Char} (none : '*' ∉ pattern) : starRuns pattern = 0 := by
  induction pattern with
  | nil => rfl
  | cons c rest ih =>
      rw [List.mem_cons, not_or] at none
      simp [starRuns, ih none.2, Ne.symm none.1]

theorem stars_stars (rest : List Char) :
    stars ('*' :: rest) = stars (rest.dropWhile (· == '*')) + 1 := by
  rw [stars, read_stars, List.count_cons_self, stars]

theorem stars_of_consume? {pattern next : List Char} (nonempty : pattern ≠ [])
    (plain : ∀ rest, pattern ≠ '*' :: rest) {c : Char} (consumed : consume? c pattern = some next) :
    stars next = stars pattern := by
  obtain ⟨piece, rest, single, reads, consumes⟩ := read_front nonempty plain
  rw [consumes, Option.ite_none_right_eq_some, Option.some.injEq] at consumed
  rw [stars, stars, reads, List.count_cons_of_ne single, consumed.2]

/-- Different pieces of stars are read from different runs. -/
theorem stars_le_starRuns (pattern : List Char) : stars pattern ≤ starRuns pattern := by
  unfold stars
  fun_induction Piece.read pattern with
  | case1 => exact Nat.le_refl 0
  | case2 rest ih =>
      rw [List.count_cons_self, starRuns_stars]
      exact Nat.succ_le_succ ih
  | case3 rest ih =>
      rw [List.count_cons_of_ne (by simp)]
      exact Nat.le_trans ih (starRuns_le_cons _ rest)
  | case4 rest cls left closed ih =>
      rw [List.count_cons_of_ne (by simp)]
      have suffix := (CharClass.suffix_of_read? closed).trans (List.suffix_cons '[' rest)
      exact Nat.le_trans ih (starRuns_le_of_suffix suffix)
  | case5 rest _ ih =>
      rw [List.count_cons_of_ne (by simp)]
      exact Nat.le_trans ih (starRuns_le_cons _ rest)
  | case6 c rest ih =>
      rw [List.count_cons_of_ne (by simp)]
      exact Nat.le_trans ih (starRuns_le_of_suffix (List.suffix_append ['\\', c] rest))
  | case7 c rest _ _ _ _ ih =>
      rw [List.count_cons_of_ne (by simp)]
      exact Nat.le_trans ih (starRuns_le_cons c rest)

/-! ## A search left to itself -/

section AnySuffix

variable {attempt : List Char → Nat → Bool × Nat}

theorem anySuffix_le_mul {most : Nat} {text : List Char} {calls : Nat}
    (few : ∀ rest : List Char, rest.length ≤ text.length → ∀ calls,
      (attempt rest calls).2 ≤ calls + most) :
    (anySuffix attempt text calls).2 ≤ calls + (text.length + 1) * most := by
  fun_induction anySuffix attempt text calls with
  | case1 calls => simpa using few [] (Nat.le_refl 0) calls
  | case2 c rest calls calls' found =>
      have here := few (c :: rest) (Nat.le_refl _) calls
      rw [found] at here
      rw [Nat.succ_mul]
      omega
  | case3 c rest calls calls' found ih =>
      have here := few (c :: rest) (Nat.le_refl _) calls
      have further := ih fun shorter le => few shorter (Nat.le_succ_of_le le)
      rw [found] at here
      rw [List.length_cons, Nat.succ_mul]
      omega

end AnySuffix

/-- Each run of stars multiplies the calls by the places of the text, and no more. -/
theorem attempt_le_pow (limit : Option Nat) (pattern text : List Char) (calls : Nat) :
    (attempt limit pattern text calls).2 ≤
      calls + (pattern.length + 1) * (text.length + 2) ^ stars pattern := by
  have one : ∀ pattern text : List Char,
      1 ≤ (pattern.length + 1) * (text.length + 2) ^ stars pattern := fun pattern text =>
    Nat.mul_pos (Nat.succ_pos _) (Nat.pow_pos (Nat.succ_pos _))
  fun_induction attempt limit pattern text calls with
  | case1 | case2 | case3 | case5 | case7 => exact Nat.add_le_add_left (one _ _) _
  | case4 text calls _ rest next _ ih =>
      have each : ∀ left : List Char, left.length ≤ text.length → ∀ calls,
          (attempt limit next left calls).2 ≤
            calls + (next.length + 1) * (text.length + 2) ^ stars next := by
        intro left le calls
        refine Nat.le_trans (ih left calls) ?_
        gcongr
      have all : (anySuffix (attempt limit next) text (calls + 1)).2 ≤ _ := anySuffix_le_mul each
      have shorter : next.length ≤ rest.length :=
        (List.dropWhile_sublist (l := rest) (· == '*')).length_le
      have grown : 1 + (text.length + 1) * ((next.length + 1) * (text.length + 2) ^ stars next) ≤
          (rest.length + 2) * (text.length + 2) ^ (stars next + 1) :=
        calc
          _ ≤ (text.length + 2) ^ stars next +
              (text.length + 1) * ((rest.length + 1) * (text.length + 2) ^ stars next) := by
            gcongr
            exact Nat.pow_pos (Nat.succ_pos _)
          _ ≤ (text.length + 2) ^ stars next +
              (text.length + 1) * ((rest.length + 1) * (text.length + 2) ^ stars next) +
                (text.length + rest.length + 2) * (text.length + 2) ^ stars next :=
            Nat.le_add_right _ _
          _ = _ := by ring
      rw [stars_stars]
      rw [Nat.add_assoc] at all
      exact Nat.le_trans all (Nat.add_le_add_left grown calls)
  | case6 calls _ front nonempty plain c left next consumed ih =>
      have shorter : next.length + 1 ≤ front.length := length_of_consume? consumed
      rw [stars_of_consume? nonempty plain consumed] at ih
      have grown : 1 + (next.length + 1) * (left.length + 2) ^ stars front ≤
          (front.length + 1) * (left.length + 3) ^ stars front :=
        calc
          _ ≤ (left.length + 3) ^ stars front + front.length * (left.length + 3) ^ stars front := by
            gcongr
            · exact Nat.pow_pos (Nat.succ_pos _)
            · exact Nat.le_succ _
          _ = _ := by ring
      rw [Nat.add_assoc] at ih
      exact Nat.le_trans ih (Nat.add_le_add_left grown calls)

theorem accepts_iff_of_le {pattern text : String}
    (few : (attempt none pattern.toList text.toList 0).2 ≤ callLimit) :
    accepts pattern text = true ↔ Matches (Piece.read pattern.toList) text.toList := by
  rw [accepts, attempt_eq_of_le few]
  exact ⟨matches_of_attempt, attempt_of_matches⟩

/-- Where a pattern is short for its runs of stars and the length of a text, a glob match is right
    either way: the search makes no more calls than it may. That is so of every pattern without
    stars that is shorter than the limit, whatever the text. -/
theorem accepts_iff_of_few_stars (pattern text : String) :
    let right : Prop := accepts pattern text = true ↔ Matches (Piece.read pattern.toList) text.toList
    ((pattern.length + 1) * (text.length + 2) ^ stars pattern.toList ≤ callLimit → right) ∧
      ((pattern.length + 1) * (text.length + 2) ^ starRuns pattern.toList ≤ callLimit → right) ∧
      ('*' ∉ pattern.toList → pattern.length < callLimit → right) := by
  intro right
  have fewPieces : (pattern.length + 1) * (text.length + 2) ^ stars pattern.toList ≤ callLimit →
      right := by
    intro few
    have calls := attempt_le_pow none pattern.toList text.toList 0
    rw [Nat.zero_add, String.length_toList, String.length_toList] at calls
    exact accepts_iff_of_le (Nat.le_trans calls few)
  have fewRuns : (pattern.length + 1) * (text.length + 2) ^ starRuns pattern.toList ≤ callLimit →
      right := by
    intro few
    refine fewPieces (Nat.le_trans ?_ few)
    gcongr
    · exact Nat.le_add_left 1 _
    · exact stars_le_starRuns _
  refine ⟨fewPieces, fewRuns, fun none short => fewRuns ?_⟩
  rw [starRuns_eq_zero none, Nat.pow_zero, Nat.mul_one]
  exact short

/-- Stars after a backslash and in brackets beside two pieces of stars, and no stars at all. -/
theorem accepts_iff_of_few_stars_escaped :
    let pattern := "\\**x[*]*y"
    let plain := "[a-c]?"
    stars pattern.toList = 2 ∧ starRuns pattern.toList = 3 ∧
      (pattern.length + 1) * ("*abx*zy".length + 2) ^ 2 ≤ callLimit ∧
      Matches (Piece.read pattern.toList) "*abx*zy".toList ∧
      (pattern.length + 1) * ("*abxzy".length + 2) ^ 3 ≤ callLimit ∧
      ¬Matches (Piece.read pattern.toList) "*abxzy".toList ∧
      '*' ∉ plain.toList ∧ plain.length < callLimit ∧
      ¬Matches (Piece.read plain.toList) "d-".toList := by
  intro pattern plain
  have pieces : stars pattern.toList = 2 := by decide +kernel
  have runs : starRuns pattern.toList = 3 := by decide +kernel
  have few : (pattern.length + 1) * ("*abx*zy".length + 2) ^ 2 ≤ callLimit := by decide +kernel
  have few' : (pattern.length + 1) * ("*abxzy".length + 2) ^ 3 ≤ callLimit := by decide +kernel
  have none : '*' ∉ plain.toList := by decide +kernel
  have short : plain.length < callLimit := by decide +kernel
  have right := (accepts_iff_of_few_stars pattern "*abx*zy").1 (pieces.symm ▸ few)
  have right' := (accepts_iff_of_few_stars pattern "*abxzy").2.1 (runs.symm ▸ few')
  have right'' := (accepts_iff_of_few_stars plain "d-").2.2 none short
  refine ⟨pieces, runs, few, ?_, few', ?_, none, short, ?_⟩
  · rw [← right]
    decide +kernel
  · rw [← right']
    decide +kernel
  · rw [← right'']
    decide +kernel

/-! ## A search that is cut off -/

section Spent

variable {attempt : List Char → Nat → Bool × Nat} {most : Nat}

theorem anySuffix_of_spent
    (spent : ∀ text calls, most ≤ calls → attempt text calls = (false, calls + 1))
    (text : List Char) {calls : Nat} (past : most ≤ calls) :
    anySuffix attempt text calls = (false, calls + text.length + 1) := by
  induction text generalizing calls with
  | nil => exact spent [] calls past
  | cons c rest ih =>
      rw [anySuffix, spent (c :: rest) calls past]
      dsimp only
      rw [ih (Nat.le_succ_of_le past), List.length_cons, Prod.mk.injEq]
      exact ⟨rfl, by omega⟩

/-- The attempt that uses the calls up may go too far; those after it go one call further each. -/
theorem anySuffix_le_of_spent {beyond : Nat}
    (spent : ∀ text calls, most ≤ calls → attempt text calls = (false, calls + 1))
    {text : List Char} (within : ∀ rest : List Char, rest.length ≤ text.length → ∀ calls < most,
      (attempt rest calls).2 ≤ most + 1 + beyond) (calls : Nat) :
    (anySuffix attempt text calls).2 ≤ max calls (most + beyond) + 1 + text.length := by
  have once : ∀ rest : List Char, rest.length ≤ text.length → ∀ calls,
      (attempt rest calls).2 ≤ max calls (most + beyond) + 1 := by
    intro rest le calls
    rcases Nat.lt_or_ge calls most with before | past
    · have := within rest le calls before
      omega
    · rw [spent rest calls past]
      omega
  clear within
  fun_induction anySuffix attempt text calls with
  | case1 calls => exact once [] (Nat.le_refl 0) calls
  | case2 c rest calls calls' found =>
      have here := once (c :: rest) (Nat.le_refl _) calls
      rw [found] at here
      exact Nat.le_add_right_of_le here
  | case3 c rest calls calls' found ih =>
      have here := once (c :: rest) (Nat.le_refl _) calls
      have further := ih fun shorter le => once shorter (Nat.le_succ_of_le le)
      rw [found] at here
      rw [List.length_cons]
      omega

end Spent

theorem attempt_of_spent {most calls : Nat} (past : most ≤ calls) (pattern text : List Char) :
    attempt (some most) pattern text calls = (false, calls + 1) := by
  rw [attempt.eq_def, if_pos]
  simpa [isSpent] using Nat.lt_succ_of_le past

theorem attempt_le_limit (most : Nat) (pattern text : List Char) (calls : Nat) :
    (attempt (some most) pattern text calls).2 ≤
      max calls most + 1 + stars pattern * (text.length + 1) := by
  fun_induction attempt (some most) pattern text calls with
  | case1 | case2 | case3 | case5 | case7 => omega
  | case4 text calls unspent rest next _ ih =>
      have within : ∀ left : List Char, left.length ≤ text.length → ∀ calls < most,
          (attempt (some most) next left calls).2 ≤
            most + 1 + stars next * (text.length + 1) := by
        intro left le calls before
        refine Nat.le_trans (ih left calls) ?_
        rw [Nat.max_eq_right (Nat.le_of_lt before)]
        gcongr
      have all := anySuffix_le_of_spent (fun text calls past => attempt_of_spent past next text)
        within (calls + 1)
      have early : calls + 1 ≤ most := by simpa [isSpent] using unspent
      have same : stars ('*' :: rest) = stars next + 1 := stars_stars rest
      rw [same, Nat.succ_mul]
      refine Nat.le_trans all ?_
      omega
  | case6 calls unspent front nonempty plain c left next consumed ih =>
      have early : calls + 1 ≤ most := by simpa [isSpent] using unspent
      rw [stars_of_consume? nonempty plain consumed] at ih
      rw [List.length_cons, Nat.mul_succ]
      refine Nat.le_trans ih ?_
      rw [Nat.max_eq_right early, Nat.max_eq_right (Nat.le_of_succ_le early)]
      omega

/-- A search under the limit makes at most one call past it, and one more for each run of stars and
    each place of the text: a call past the limit is refused at once, and so is that for each place
    that is left to stars. -/
theorem attempt_overrun_le (pattern text : String) :
    let overrun (runs : Nat) : Nat := callLimit + 1 + runs * (text.length + 1)
    let calls := (attempt (some callLimit) pattern.toList text.toList 0).2
    calls ≤ overrun (stars pattern.toList) ∧
      overrun (stars pattern.toList) ≤ overrun (starRuns pattern.toList) ∧
      ∀ (next rest : List Char) (more : Nat),
        let spent := callLimit + more
        attempt (some callLimit) next rest spent = (false, spent + 1) ∧
          anySuffix (attempt (some callLimit) next) rest spent =
            (false, spent + rest.length + 1) := by
  intro overrun calls
  refine ⟨?_, ?_, fun next rest more => ⟨?_, ?_⟩⟩
  · have bounded := attempt_le_limit callLimit pattern.toList text.toList 0
    rwa [Nat.max_eq_right (Nat.zero_le _), String.length_toList] at bounded
  · have fewer := stars_le_starRuns pattern.toList
    simp only [overrun]
    gcongr
  · exact attempt_of_spent (Nat.le_add_right _ _) next rest
  · exact anySuffix_of_spent (fun text calls past => attempt_of_spent past next text) rest
      (Nat.le_add_right _ _)

end Shell.Glob
