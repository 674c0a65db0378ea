import Shell.Arith.Numeral

/-! # Reading back what is rendered

The decimal text of a word reads as that word. Digits are read from the left, so the proof follows
`digits` at its right end: one more digit multiplies what has been read by ten and adds itself.
-/

namespace Shell.Text

theorem trim_eq_self {text : List Char} (h : ∀ c ∈ text, isSpace c = false) : trim text = text := by
  have keep : ∀ cs : List Char, (∀ c ∈ cs, isSpace c = false) → cs.dropWhile isSpace = cs := by
    intro cs hcs
    cases cs with
    | nil => rfl
    | cons c rest => simp [hcs c (by simp)]
  rw [trim, keep text h, keep text.reverse (fun c hc => h c (List.mem_reverse.mp hc)),
    List.reverse_reverse]

end Shell.Text

namespace Shell.Arith.Numeral

theorem accumulate_append (base sofar : Nat) (xs ys : List Char) :
    accumulate base sofar (xs ++ ys) = (accumulate base sofar xs).bind fun n =>
      accumulate base n ys := by
  induction xs generalizing sofar with
  | nil => rfl
  | cons c rest ih =>
      simp only [List.cons_append, accumulate]
      cases digit? base c with
      | none => rfl
      | some d => exact ih _

theorem digit?_digitChar {d : Nat} (h : d < 10) : digit? 10 (digitChar d) = some d := by
  revert d
  decide

theorem accumulate_digits (n : Nat) : accumulate 10 0 (digits n) = some n := by
  induction n using digits.induct with
  | case1 n small => rw [digits, if_pos small]; simp [accumulate, digit?_digitChar small]
  | case2 n large ih =>
      have last : n % 10 < 10 := Nat.mod_lt n (by decide)
      rw [digits, if_neg large, accumulate_append, ih]
      simp only [Option.bind_some, accumulate, digit?_digitChar last, Option.some.injEq]
      omega

theorem digits_ne_nil (n : Nat) : digits n ≠ [] := by
  rw [digits]
  split <;> simp

theorem mem_digits {n : Nat} {c : Char} (h : c ∈ digits n) : ∃ d < 10, c = digitChar d := by
  induction n using digits.induct with
  | case1 n small =>
      rw [digits, if_pos small] at h
      exact ⟨n, small, List.mem_singleton.mp h⟩
  | case2 n large ih =>
      rw [digits, if_neg large] at h
      rcases List.mem_append.mp h with front | last
      · exact ih front
      · exact ⟨n % 10, Nat.mod_lt n (by decide), List.mem_singleton.mp last⟩

/-- A zero in front stands alone. -/
theorem head_digits {n : Nat} (h : 10 ≤ n) : (digits n).head? ≠ some '0' := by
  induction n using digits.induct with
  | case1 n small => omega
  | case2 n large ih =>
      rw [digits, if_neg large]
      by_cases next : 10 ≤ n / 10
      · cases front : digits (n / 10) with
        | nil => exact absurd front (digits_ne_nil _)
        | cons c rest => simpa [front] using ih next
      · have one : n / 10 < 10 := by omega
        have positive : n / 10 ≠ 0 := by omega
        rw [digits, if_pos one]
        have nonzero : ∀ d < 10, d ≠ 0 → digitChar d ≠ '0' := by decide
        simpa using nonzero _ one positive

theorem digitChar_ne {c : Char} (hc : ∀ d < 10, digitChar d ≠ c) {n : Nat} : c ∉ digits n := by
  intro h
  obtain ⟨d, small, same⟩ := mem_digits h
  exact hc d small same.symm

/-- A decimal text is read neither as hexadecimal nor as octal. -/
theorem unsigned?_digits (n : Nat) : unsigned? (digits n) = some n := by
  have decimal : digits? 10 (digits n) = some n := by
    cases h : digits n with
    | nil => exact absurd h (digits_ne_nil n)
    | cons c rest => rw [digits?, ← h, accumulate_digits]
  by_cases small : n < 10
  · rw [digits, if_pos small] at decimal ⊢
    rw [unsigned?]
    · exact decimal
    all_goals simp
  · have front := head_digits (Nat.not_lt.mp small)
    rw [unsigned?]
    · exact decimal
    all_goals
      intros
      rename_i same
      simp [same] at front

theorem isSpace_digitChar {d : Nat} (h : d < 10) : Text.isSpace (digitChar d) = false := by
  revert d
  decide

theorem isSpace_signedDigits {n : Int} {c : Char} (h : c ∈ signedDigits n) :
    Text.isSpace c = false := by
  have unsigned : c ∈ digits n.natAbs → Text.isSpace c = false := by
    intro member
    obtain ⟨d, small, rfl⟩ := mem_digits member
    exact isSpace_digitChar small
  unfold signedDigits at h
  split at h
  · rcases List.mem_cons.mp h with rfl | member
    · decide
    · exact unsigned member
  · exact unsigned h

theorem word?_toInt (n : Int64) : word? n.toInt = some n := by
  rw [word?, if_pos ⟨n.minValue_le_toInt, n.toInt_le⟩, Int64.ofInt_toInt]

theorem read?_render (n : Int64) : read? (render n).toList = some n := by
  have nonneg : ∀ m : Nat, read? (digits m) = (some m).bind fun m => word? (m : Int) := by
    intro m
    have plain : Text.trim (digits m) = digits m := by
      apply Text.trim_eq_self
      intro c member
      obtain ⟨d, small, rfl⟩ := mem_digits member
      exact isSpace_digitChar small
    have minus : '-' ∉ digits m := digitChar_ne (by decide)
    have plus : '+' ∉ digits m := digitChar_ne (by decide)
    unfold read?
    rw [plain]
    split
    · rename_i same; simp [same] at minus
    · rename_i same; simp [same] at plus
    · rw [unsigned?_digits]
  rw [render, String.toList_ofList]
  by_cases negative : n.toInt < 0
  · have shape : signedDigits n.toInt = '-' :: digits n.toInt.natAbs := if_pos negative
    have plain : Text.trim (signedDigits n.toInt) = signedDigits n.toInt :=
      Text.trim_eq_self fun _ => isSpace_signedDigits
    have size : -((n.toInt.natAbs : Nat) : Int) = n.toInt := by omega
    rw [read?, plain, shape]
    simp only [unsigned?_digits, Option.bind_some, size, word?_toInt]
  · have shape : signedDigits n.toInt = digits n.toInt.natAbs := if_neg negative
    have size : ((n.toInt.natAbs : Nat) : Int) = n.toInt := by omega
    rw [shape, nonneg]
    simp only [Option.bind_some, size, word?_toInt]

theorem trim_render_ne_nil (n : Int64) : Text.trim (render n).toList ≠ [] := by
  rw [render, String.toList_ofList, Text.trim_eq_self (fun _ => isSpace_signedDigits), signedDigits]
  split
  · simp
  · exact digits_ne_nil _

end Shell.Arith.Numeral
