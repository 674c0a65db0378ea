import Shell.Proofs.Arith.Simulation
import Shell.Proofs.Arith.Spelling
import Shell.Proofs.Scope.Lookup

/-! # Assignments that are held back

Without a choice nobody can tell that assignments are held back: every read gives what it would
give if each of them were made at once. Only when the expression fails is there a difference, as
then none has been made.
-/

namespace Shell.Arith

def Memory.direct : Memory Scope where
  read name scope := numberOf name (scope.get? name)
  write name value scope := scope.set name (Numeral.render value)
  fork _ after := after
  join _ after := after

/-! ## Reading what was written -/

theorem numberOf_render (name : String) (value : Int64) :
    numberOf name (some (Numeral.render value)) = .ok value := by
  have solid : (Text.trim (Numeral.render value).toList).isEmpty = false := by
    simp [Numeral.trim_render_ne_nil]
  simp [numberOf, solid, Numeral.read?_render]

theorem get?_commit (writes : List (String × Int64)) (scope : Scope) (name : String) :
    (commit writes scope).get? name =
      ((writes.reverse.lookup name).map Numeral.render).or (scope.get? name) := by
  induction writes generalizing scope with
  | nil => rfl
  | cons entry writes ih =>
      obtain ⟨written, value⟩ := entry
      show (commit writes (scope.set written (Numeral.render value))).get? name = _
      rw [ih, Scope.get?_set, List.reverse_cons, List.lookup_append, Bindings.lookup_entry]
      cases writes.reverse.lookup name with
      | some newer => rfl
      | none => by_cases same : name = written <;> simp [same]

/-! ## A text without a question mark -/

namespace Symbol

theorem ne_question_of_mem_readFrom {offset : Nat} {text : List Char} (h : '?' ∉ text) :
    ∀ symbol ∈ (readFrom offset text).symbols, symbol ≠ .question := by
  intro symbol member same
  obtain ⟨offset, c, rest, left, begins, suffix⟩ := exists_beginning_of_mem_readFrom member
  obtain rfl := (suffix_of_beginning begins).2 same
  exact h (suffix.mem List.mem_cons_self)

end Symbol

/-! ## The two evaluations -/

/-- Assignments held back beside the scope in which they have been made. -/
def Pending.Stages (scope : Scope) (held : Pending) (now : Scope) : Prop :=
  held.visible = held.writes.reverse ∧ now = commit held.writes scope

/-- How an evaluation that holds assignments back is compared with one that makes them. -/
def staging (scope : Scope) : Comparison Unit Pending Scope where
  related _ := Pending.Stages scope
  admits symbol := symbol ≠ .question
  excuses _ := False

/-- Held-back assignments are read as they would be from the scope. -/
theorem staging_respects (scope : Scope) :
    (staging scope).Respects (.pending (scope.get? ·)) .direct where
  finish := nofun
  read {name _ held now} := by
    rintro - ⟨visible, rfl⟩
    simp only [Memory.pending, Memory.direct, get?_commit, visible]
    cases held.writes.reverse.lookup name with
    | none => rfl
    | some value => exact (numberOf_render name value).symm
  write name value _ held now := by
    rintro ⟨visible, rfl⟩
    exact ⟨by simp [Memory.pending, visible], by simp [Memory.pending, Memory.direct, commit]⟩
  choice admitted := absurd rfl admitted

/-- Holding assignments back cannot be told from making each at once, in a text without a choice:
    the value or the error is the same, and so is the scope that is left after a value. After an
    error the scope is what it was. -/
theorem perform_eq_direct (scope : Scope) {text : String} (plain : '?' ∉ text.toList) :
    perform text scope =
      match evaluateText .direct maxNesting text scope with
      | .ok (value, left) => (.ok value, left)
      | .error error => (.error error, scope) := by
  have same := Comparison.evaluateText (staging_respects scope) (.inl (Eq.refl maxNesting)) text
    (Symbol.ne_question_of_mem_readFrom plain)
    (show (staging scope).related () {} scope from ⟨rfl, rfl⟩)
  unfold perform evaluate evaluateWithin
  rcases same with ⟨error, excused, -⟩ | ⟨error, failed, failed'⟩ |
    ⟨value, held, left, runs, runs', staged⟩
  · exact excused.elim
  · rw [failed, failed']
    rfl
  · rw [runs, runs']
    simp only [EvalM.ok_bind, EvalM.pure_eq_ok, staged.2]

/-- Variables are assigned to where they are bound, and a compound assignment reads first. -/
theorem perform_eq_direct_nested :
    perform "x += ( y = x * 2 ) - y / 2" ((Scope.empty.set "x" "5").push.setLocal "y" "1") =
      (.ok 10, (Scope.empty.set "x" "10").push.setLocal "y" "10") := by
  have direct : (evaluateText .direct maxNesting "x += ( y = x * 2 ) - y / 2"
      ((Scope.empty.set "x" "5").push.setLocal "y" "1")).toOption =
        some (10, (Scope.empty.set "x" "10").push.setLocal "y" "10") := by
    decide +kernel
  rw [perform_eq_direct _ (by decide)]
  cases result : evaluateText .direct maxNesting "x += ( y = x * 2 ) - y / 2"
      ((Scope.empty.set "x" "5").push.setLocal "y" "1") with
  | error error =>
      rw [result] at direct
      cases direct
  | ok found =>
      rw [result] at direct
      cases direct
      rfl

end Shell.Arith
