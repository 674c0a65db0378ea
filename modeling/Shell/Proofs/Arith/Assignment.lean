import Shell.Proofs.Arith.Grammar
import Shell.Proofs.Arith.Simulation
import Shell.Proofs.Arith.Staging

/-! # The old value of a variable that is assigned to

An assignment begins with its variable, and a variable is read wherever an operand begins, before
anything is known of what follows. So its old text has to be a number. Which number it is makes no
difference to a plain assignment, unless the right side reads the variable too.
-/

namespace Shell.Arith

/-- No text, blank text or a numeral: what can be read as a number. -/
def isNumber : Option String → Bool
  | none => true
  | some text => (Text.trim text.toList).isEmpty || (Numeral.read? text.toList).isSome

theorem exists_numberOf {found : Option String} (number : isNumber found = true) (name : String) :
    ∃ value, numberOf name found = .ok value := by
  cases found with
  | none => exact ⟨0, rfl⟩
  | some text =>
      simp only [numberOf]
      split
      · exact ⟨0, rfl⟩
      · rename_i solid
        cases reads : Numeral.read? text.toList with
        | none => simp [isNumber, solid, reads] at number
        | some value => exact ⟨value, rfl⟩

theorem numberOf_eq_error {text : String} (other : isNumber (some text) = false) (name : String) :
    numberOf name (some text) = .error (.notANumber name text) := by
  simp only [isNumber, Bool.or_eq_false_iff, Option.isSome_eq_false_iff,
    Option.isNone_iff_eq_none] at other
  simp [numberOf, other.1, other.2]

namespace Tree

/-- A tree that stands alone in a text. -/
structure IsWrittenIn (text : String) (tree : Tree) : Prop where
  reads : Symbol.readAll text = ⟨tree.symbols, none⟩
  stands : tree.standsAt 0 = true

/-- True if a variable is read for its value, not only because it is assigned to. -/
def reads (name : String) : Tree → Bool
  | literal _ => false
  | reference other => other == name
  | group inner => inner.reads name
  | unary _ operand => operand.reads name
  | connect _ left right => left.reads name || right.reads name
  | choice condition ifTrue ifFalse =>
    condition.reads name || ifTrue.reads name || ifFalse.reads name
  | assign op target value => op.isSome && target == name || value.reads name

section Unread

variable {first second : String → Option String} {name : String}

theorem readVisible_eq_of_ne (agree : ∀ other, other ≠ name → first other = second other)
    {other : String} (different : other ≠ name) (visible : Writes) :
    readVisible first other visible = readVisible second other visible := by
  simp only [readVisible, agree other different]

theorem exists_readVisible (number : isNumber (first name) = true) (visible : Writes) :
    ∃ value, readVisible first name visible = .ok value := by
  unfold readVisible
  split
  · exact ⟨_, rfl⟩
  · exact exists_numberOf number name

theorem meaningWithin_eq_of_unread (agree : ∀ other, other ≠ name → first other = second other)
    (number : isNumber (first name) = true) (number' : isNumber (second name) = true)
    {tree : Tree} (unread : tree.reads name = false) (levels : Nat) (visible : Writes) :
    tree.meaningWithin first levels visible = tree.meaningWithin second levels visible := by
  induction tree generalizing levels visible with
  | literal value => cases levels <;> rfl
  | reference other =>
      have different : other ≠ name := by simpa [reads] using unread
      cases levels with
      | zero => rfl
      | succ levels => simp only [meaningWithin, readVisible_eq_of_ne agree different]
  | group inner ih =>
      cases levels with
      | zero => rfl
      | succ levels => exact ih unread levels visible
  | unary op operand ih =>
      cases levels with
      | zero => rfl
      | succ levels => simp only [meaningWithin, ih unread]
  | connect op left right ihl ihr =>
      simp only [reads, Bool.or_eq_false_iff] at unread
      cases levels with
      | zero => rfl
      | succ levels => simp only [meaningWithin, ihl unread.1, ihr unread.2]
  | choice condition ifTrue ifFalse ihc iht ihf =>
      simp only [reads, Bool.or_eq_false_iff] at unread
      cases levels with
      | zero => rfl
      | succ levels => simp only [meaningWithin, ihc unread.1.1, iht unread.1.2, ihf unread.2]
  | assign op target value ih =>
      simp only [reads, Bool.or_eq_false_iff, Bool.and_eq_false_iff, beq_eq_false_iff_ne] at unread
      obtain ⟨apart, unread⟩ := unread
      cases levels with
      | zero => rfl
      | succ levels =>
          simp only [meaningWithin, ih unread]
          by_cases same : target = name
          · -- The two old values may differ, but `=` has no use for either.
            subst same
            have plain : op = none := by simpa using apart
            obtain ⟨old, before⟩ := exists_readVisible number visible
            obtain ⟨old', before'⟩ := exists_readVisible number' visible
            simp only [before, before', EvalM.ok_bind, plain, assigned]
          · rw [readVisible_eq_of_ne agree same]

end Unread

end Tree

/-- A text does not read a variable: it has no symbol for it, or is a tree that assigns to it only. -/
def Unread (name text : String) : Prop :=
  .reference name ∉ (Symbol.readAll text).symbols ∨
    ∃ tree : Tree, tree.IsWrittenIn text ∧ tree.reads name = false

def assignment (name text : String) : String :=
  name ++ " = (" ++ text ++ ")"

namespace Symbol

theorem breaks_closing (rest : List Char) : Breaks (')' :: rest) := by
  intro c here
  cases here
  decide

theorem readAll_assignment {name : String} (valid : Name.isValid name.toList = true)
    (text : String) :
    readAll (assignment name text) =
      (⟨[.reference name, .assign none, .opening], none⟩ : Reading).followedBy
        (((readAll text).moved (name.toList.length + 4)).followedBy ⟨[.closing], none⟩) := by
  have split : (assignment name text).toList =
      name.toList ++ (' ' :: '=' :: ' ' :: '(' :: (text.toList ++ [')'])) := by
    simp [assignment]
  have inside : ∀ offset, readFrom offset (text.toList ++ [')']) =
      ((readAll text).moved offset).followedBy ⟨[.closing], none⟩ := by
    intro offset
    have last : ∀ offset, readFrom offset [')'] = ⟨[.closing], none⟩ :=
      readFrom_written (.operator (by decide) : Written .closing _)
    rw [readFrom_append (breaks_closing []), readAll, ← readFrom_moved, Nat.zero_add, last]
  rw [readAll, split, readFrom_append_blank (by decide), readFrom_written (.bare valid),
    readFrom_symbol rfl, readFrom_blank (beginning_blank (by decide) _ _), readFrom_symbol rfl,
    inside]
  simp only [Nat.add_sub_cancel, Nat.zero_add]
  rfl

end Symbol

namespace EvalM

variable {σ : Type} (memory : Memory σ) (levels : Nat)

/-- Wherever an operand can be assigned to, its old value is read before the right side. -/
theorem run_expression_assign (op : Option BinaryOp) {strength : Int}
    (tight : strength < (Symbol.assign op).strength) (name : String)
    (symbol : Symbol) (rest : List Symbol) (fault : Option Error) (held : σ) :
    (expression memory (levels + 1) strength).run
        ⟨.reference name, .assign op :: symbol :: rest, fault, held⟩ = (do
      let old ← memory.read name held
      let (right, after) ← (expression memory levels 0).run ⟨symbol, rest, fault, held⟩
      let value ← Tree.orDivision (Tree.assigned op old right)
      (climb memory (expression memory levels) strength (rest.length + 1) none value).run
        { after with memory := memory.write name value after.memory }) := by
  let start : State σ := ⟨.assign op, symbol :: rest, fault, held⟩
  have begins : (expression memory (levels + 1) strength).run
        ⟨.reference name, .assign op :: symbol :: rest, fault, held⟩ =
      ((read memory name).run start >>= fun found =>
        (climb memory (expression memory levels) strength (found.2.rest.length + 1) (some name)
          found.1).run found.2) := rfl
  rw [begins, run_read_state]
  cases memory.read name held with
  | error error => rfl
  | ok old =>
      have goes : (climb memory (expression memory levels) strength (start.rest.length + 1)
          (some name) old).run start =
          ((extend memory (expression memory levels) (some name) old (.assign op)).run
            ⟨symbol, rest, fault, held⟩ >>= fun found =>
              (climb memory (expression memory levels) strength (rest.length + 1) none
                found.1).run found.2) := by
        rw [climb, run_bind, show peek.run start = .ok (.assign op, start) from rfl, ok_bind,
          if_pos tight]
        rfl
      simp only [Except.map, ok_bind]
      rw [goes, run_extend_assign]
      cases (expression memory levels 0).run ⟨symbol, rest, fault, held⟩ with
      | error error => rfl
      | ok found =>
          simp only [ok_bind]
          cases Tree.assigned op old found.1 <;> rfl

/-- The rest of an assignment in brackets, once its variable has been read. -/
def assignRest (name : String) (rounds : Nat) : EvalM σ Int64 := do
  let right ← expression memory levels 0
  revise (memory.write name right)
  let value ← climb memory (expression memory levels) 0 rounds none right
  match ← peek with
  | .finish => return value
  | other => throw (.expectedEnd other)

/-- The old value of a variable decides whether an assignment goes on, and nothing after that. -/
theorem run_whole_assignment (name : String) (rest : List Symbol) (fault : Option Error)
    (held : σ) :
    (whole memory (levels + 1)).run
        ⟨.finish, .reference name :: .assign none :: .opening :: rest, fault, held⟩ =
      (memory.read name held >>= fun _ =>
        (assignRest memory levels name (rest.length + 1)).run ⟨.opening, rest, fault, held⟩) := by
  have opened : (whole memory (levels + 1)).run
        ⟨.finish, .reference name :: .assign none :: .opening :: rest, fault, held⟩ =
      ((expression memory (levels + 1) 0).run
        ⟨.reference name, .assign none :: .opening :: rest, fault, held⟩ >>= fun found =>
          (peek >>= fun ahead => match ahead with
            | .finish => return found.1
            | other => throw (.expectedEnd other)).run found.2) := rfl
  rw [opened, run_expression_assign memory levels none (by decide)]
  cases memory.read name held with
  | error error => rfl
  | ok old =>
      simp only [ok_bind]
      rw [assignRest, run_bind]
      cases (expression memory levels 0).run ⟨.opening, rest, fault, held⟩ <;> rfl

end EvalM

/-- How an evaluation is compared with one that has another text in a variable that never comes. -/
def elsewhere (name : String) : Comparison Unit Pending Pending where
  related _ := Eq
  admits symbol := symbol ≠ .reference name
  excuses _ := False

theorem elsewhere_respects {first second : String → Option String} {name : String}
    (agree : ∀ other, other ≠ name → first other = second other) :
    (elsewhere name).Respects (.pending first) (.pending second) where
  finish := nofun
  read := by
    rintro other _ held _ different rfl
    exact Tree.readVisible_eq_of_ne agree (fun same => different (congrArg _ same)) held.visible
  write := by rintro other value _ _ held rfl; rfl
  choice := by
    rintro _ held _ - rfl
    exact .same rfl (by rintro held' _ rfl; rfl) (by rintro held' _ rfl; rfl)

namespace Comparison

variable {ι σ τ : Type} {c : Comparison ι σ τ} {first : Memory σ} {second : Memory τ}

theorem assignRest (respects : c.Respects first second) {branch : ι} (levels : Nat)
    (name : String) (rounds : Nat) :
    c.Simulates branch Eq (EvalM.assignRest first levels name rounds)
      (EvalM.assignRest second levels name rounds) := by
  have subs (branch : ι) (strength : Int) : c.Simulates branch Eq
      (EvalM.expression first levels strength) (EvalM.expression second levels strength) :=
    expression respects (.inl (Eq.refl levels)) strength
  refine bind (subs branch 0) ?_
  rintro right _ rfl
  refine bind (revise fun _ _ => respects.write name right) fun _ _ _ => ?_
  refine bind (climb respects subs 0 rounds none right) ?_
  rintro value _ rfl
  refine bind peek ?_
  rintro ahead _ ⟨rfl, -⟩
  split
  · exact pure rfl
  · exact throw _

end Comparison

section Texts

variable {name : String} (valid : Name.isValid name.toList = true)
include valid

theorem exists_readAll_assignment (text : String) : ∃ rest fault,
    Symbol.readAll (assignment name text) =
      ⟨.reference name :: .assign none :: .opening :: rest, fault⟩ ∧
    ∀ symbol ∈ rest, symbol ∈ (Symbol.readAll text).symbols ∨ symbol = .closing := by
  rw [Symbol.readAll_assignment valid]
  obtain ⟨symbols, fault⟩ := Symbol.readAll text
  cases fault with
  | some error => exact ⟨symbols, _, rfl, fun symbol member => .inl member⟩
  | none => exact ⟨symbols ++ [.closing], none, rfl, fun symbol member => by simpa using member⟩

theorem isWrittenIn_assignment {tree : Tree} {text : String} (written : tree.IsWrittenIn text) :
    (Tree.assign none name (.group tree)).IsWrittenIn (assignment name text) where
  reads := by
    rw [Symbol.readAll_assignment valid, written.reads]
    rfl
  stands := by simpa [Tree.standsAt, Symbol.strength] using written.stands

variable {levels : Nat}

theorem evaluateWithin_assignment_error {lookup : String → Option String} {error : Error}
    (failed : numberOf name (lookup name) = .error error) (text : String) :
    evaluateWithin (levels + 1) lookup (assignment name text) = .error error := by
  obtain ⟨rest, fault, reads, -⟩ := exists_readAll_assignment valid text
  have unread : (Memory.pending lookup).read name {} = .error error := failed
  rw [evaluateWithin, evaluateText, reads]
  simp only [EvalM.run_whole_assignment, unread]
  rfl

variable {first second : String → Option String}

theorem evaluateWithin_assignment_eq
    (agree : ∀ other, other ≠ name → first other = second other)
    (number : isNumber (first name) = true) (number' : isNumber (second name) = true)
    {text : String} (unread : Unread name text) :
    evaluateWithin (levels + 1) first (assignment name text) =
      evaluateWithin (levels + 1) second (assignment name text) := by
  rcases unread with absent | ⟨tree, written, unread⟩
  · obtain ⟨rest, fault, reads, known⟩ := exists_readAll_assignment valid text
    obtain ⟨old, before⟩ := exists_numberOf number name
    obtain ⟨old', before'⟩ := exists_numberOf number' name
    have alike : (elsewhere name).Alike () (⟨.opening, rest, fault, {}⟩ : State Pending)
        ⟨.opening, rest, fault, {}⟩ := by
      refine ⟨rfl, rfl, rfl, rfl, List.forall_mem_cons.mpr ⟨nofun, fun symbol member => ?_⟩⟩
      rcases known symbol member with member | rfl
      · rintro rfl
        exact absent member
      · nofun
    have same := Comparison.assignRest (elsewhere_respects agree) levels name (rest.length + 1)
      _ _ alike
    have begun : (Memory.pending first).read name {} = .ok old := before
    have begun' : (Memory.pending second).read name {} = .ok old' := before'
    simp only [evaluateWithin, evaluateText, reads, EvalM.run_whole_assignment, begun, begun',
      EvalM.ok_bind]
    generalize (EvalM.assignRest (.pending first) levels name _).run _ = left at same ⊢
    generalize (EvalM.assignRest (.pending second) levels name _).run _ = right at same ⊢
    cases same with
    | excused allowed => exact allowed.elim
    | error error => rfl
    | ok equal alike' => rw [equal, alike'.eq, alike'.memory]
  · have written := isWrittenIn_assignment valid written
    rw [evaluateWithin_tree first written.reads written.stands,
      evaluateWithin_tree second written.reads written.stands,
      Tree.meaningWithin_eq_of_unread agree number number' (by simpa [Tree.reads] using unread)]

theorem evaluateWithin_assignment {lookup : String → Option String}
    (number : isNumber (lookup name) = true) {tree : Tree} {text : String}
    (written : tree.IsWrittenIn text) :
    evaluateWithin (levels + 2) lookup (assignment name text) =
      (evaluateWithin levels lookup text).map fun found =>
        ⟨found.value, found.writes ++ [(name, found.value)]⟩ := by
  have whole := isWrittenIn_assignment valid written
  obtain ⟨old, before⟩ := Tree.exists_readVisible number []
  rw [evaluateWithin_tree lookup whole.reads whole.stands,
    evaluateWithin_tree lookup written.reads written.stands]
  simp only [Tree.meaningWithin, before, EvalM.ok_bind, Tree.assigned]
  cases tree.meaningWithin lookup levels [] <;> rfl

/-- A plain assignment to a variable that has text which is no number fails with that text, whatever
    is assigned. Otherwise the old text makes no difference unless the right side reads the
    variable: then the assignment fails as the right side does with two levels of nesting less, or
    it assigns what the right side is worth, after the assignments of the right side. -/
theorem evaluate_assignment (text : String) :
    (∀ (scope : Scope) (old : String),
      scope.get? name = some old → isNumber (some old) = false →
      evaluate scope (assignment name text) = .error (.notANumber name old)) ∧
    (∀ first second : Scope, (∀ other, other ≠ name → first.get? other = second.get? other) →
      isNumber (first.get? name) = true → isNumber (second.get? name) = true →
      Unread name text →
      evaluate first (assignment name text) = evaluate second (assignment name text)) ∧
    (∀ scope : Scope, isNumber (scope.get? name) = true →
      (∃ tree : Tree, tree.IsWrittenIn text) →
      evaluate scope (assignment name text) =
        (evaluateWithin (maxNesting - 2) (scope.get? ·) text).map fun found =>
          ⟨found.value, found.writes ++ [(name, found.value)]⟩) ∧
    (∀ (scope : Scope) (result : Result), isNumber (scope.get? name) = true →
      evaluateWithin (maxNesting - 2) (scope.get? ·) text = .ok result →
      evaluate scope (assignment name text) =
          .ok ⟨result.value, result.writes ++ [(name, result.value)]⟩ ∧
        (perform (assignment name text) scope).1 = .ok result.value ∧
        (perform (assignment name text) scope).2.get? name =
          some (Numeral.render result.value)) := by
  refine ⟨?_, ?_, ?_, ?_⟩
  · intro scope old found other
    refine evaluateWithin_assignment_error valid ?_ text
    simp only [found]
    exact numberOf_eq_error other name
  · intro first second agree number number' unread
    exact evaluateWithin_assignment_eq valid agree number number' unread
  · rintro scope number ⟨tree, written⟩
    exact evaluateWithin_assignment valid number written
  · intro scope result number found
    obtain ⟨tree, reads, stands, -⟩ := evaluateWithin_eq_ok_iff.mp found
    have value : evaluate scope (assignment name text) =
        .ok ⟨result.value, result.writes ++ [(name, result.value)]⟩ := by
      refine (evaluateWithin_assignment valid number ⟨reads, stands⟩).trans ?_
      rw [show maxNesting - 2 = 254 from rfl] at found
      rw [found]
      rfl
    refine ⟨value, by rw [perform, value], ?_⟩
    rw [perform, value]
    simp [get?_commit]

end Texts

/-- The right side assigns to the variable itself, which it does not read. -/
theorem evaluate_assignment_nested :
    evaluate ((Scope.empty.set "x" "one").set "y" "1") "x = (y + (x = 2))" =
      .error (.notANumber "x" "one") ∧
    evaluate ((Scope.empty.set "x" " 7 ").set "y" "1") "x = (y + (x = 2))" =
      evaluate (Scope.empty.set "y" "1") "x = (y + (x = 2))" ∧
    evaluate (Scope.empty.set "y" "1") "x = (y + (x = 2))" = .ok ⟨3, [("x", 2), ("x", 3)]⟩ ∧
    (perform "x = (y + (x = 2))" (Scope.empty.set "y" "1")).2.get? "x" = some "3" ∧
    evaluate (Scope.empty.set "y" "many") "x = (y + (x = 2))" =
      .error (.notANumber "y" "many") := by
  have written : (Tree.connect (.binary .add) (.reference "y")
      (.group (.assign none "x" (.literal 2)))).IsWrittenIn "y + (x = 2)" :=
    ⟨by decide +kernel, by decide⟩
  have text : assignment "x" "y + (x = 2)" = "x = (y + (x = 2))" := by decide +kernel
  obtain ⟨wrong, same, fails, assigns⟩ :=
    evaluate_assignment (show Name.isValid "x".toList = true by decide) "y + (x = 2)"
  rw [text] at wrong same fails assigns
  have agree : ∀ other, other ≠ "x" → ((Scope.empty.set "x" " 7 ").set "y" "1").get? other =
      (Scope.empty.set "y" "1").get? other := by
    intro other different
    simp only [Scope.get?_set, different, if_false]
  have assigned := assigns (Scope.empty.set "y" "1") ⟨3, [("x", 2)]⟩ (by decide +kernel)
    (by decide +kernel)
  refine ⟨wrong _ "one" (by decide +kernel) (by decide), same _ _ agree (by decide +kernel)
    (by decide +kernel) (.inr ⟨_, written, by decide⟩), assigned.1,
    assigned.2.2.trans (by decide +kernel), ?_⟩
  rw [fails _ (by decide +kernel) ⟨_, written⟩]
  decide +kernel

/-- Two scopes that differ only in the old text, which is read although it is not needed. -/
theorem assignment_reads_old_text :
    (∀ other, other ≠ "x" →
      (Scope.empty.set "x" "hello").get? other = (Scope.empty.set "x" "1").get? other) ∧
    Unread "x" "5" ∧
    evaluate (Scope.empty.set "x" "hello") "5" = .ok ⟨5, []⟩ ∧
    evaluate (Scope.empty.set "x" "1") "5" = .ok ⟨5, []⟩ ∧
    evaluate (Scope.empty.set "x" "hello") (assignment "x" "5") =
      .error (.notANumber "x" "hello") ∧
    evaluate (Scope.empty.set "x" "1") (assignment "x" "5") = .ok ⟨5, [("x", 5)]⟩ := by
  refine ⟨fun other different => ?_, .inl (by decide +kernel), ?_⟩
  · simp only [Scope.get?_set, different, if_false]
  · decide +kernel

end Shell.Arith
