import Shell.Proofs.Arith.Simulation

/-! # A log with hidden ranges

Assignments can also be held back in one log that only grows. What the first branch of a choice
has added to it is then hidden by its place in the log while the second branch is evaluated, and
a stack keeps the ranges that are hidden. Such a log is read like a list of what is visible: every
hidden range ends before the branch that it is hidden in begins.
-/

namespace Shell.Arith

/-- A log of assignments, of which some ranges are hidden. -/
structure Ranged where
  writes : Writes := []
  /-- The first place and the end of each range, the newest range first. -/
  hidden : List (Nat × Nat) := []
deriving Repr, DecidableEq

def covers (ranges : List (Nat × Nat)) (place : Nat) : Bool :=
  ranges.any fun range => range.1 ≤ place && place < range.2

/-- The assignments of a log that are in none of the hidden ranges. -/
def unhidden (hidden : List (Nat × Nat)) (writes : Writes) : Writes :=
  (writes.zipIdx.filter fun entry => !covers hidden entry.2).map (·.1)

/-- A read sees the newest assignment that is not hidden, or else the scope. -/
def Memory.ranged (lookup : String → Option String) : Memory Ranged where
  read name held :=
    match (unhidden held.hidden held.writes).reverse.lookup name with
    | some value => .ok value
    | none => numberOf name (lookup name)
  write name value held := { held with writes := held.writes ++ [(name, value)] }
  fork before held :=
    { held with hidden := (before.writes.length, held.writes.length) :: held.hidden }
  join _ held := { held with hidden := held.hidden.tail }

/-- The value of an expression and the assignments it makes, with a log of them. -/
def evaluateRanged (levels : Nat) (lookup : String → Option String) (text : String) :
    Except Error Result := do
  let (value, held) ← evaluateText (.ranged lookup) levels text {}
  return ⟨value, held.writes⟩

/-! ## What is hidden -/

theorem covers_eq_false {ranges : List (Nat × Nat)} {place : Nat}
    (ended : ∀ range ∈ ranges, range.2 ≤ place) : covers ranges place = false := by
  simp only [covers, List.any_eq_false, Bool.and_eq_true, decide_eq_true_eq, not_and, Nat.not_lt]
  exact fun range member _ => ended range member

theorem unhidden_append {hidden : List (Nat × Nat)} {before : Writes}
    (ended : ∀ range ∈ hidden, range.2 ≤ before.length) (later : Writes) :
    unhidden hidden (before ++ later) = unhidden hidden before ++ later := by
  have shown : (later.zipIdx before.length).filter (fun entry => !covers hidden entry.2) =
      later.zipIdx before.length := by
    refine List.filter_eq_self.mpr fun entry member => ?_
    have place := List.le_snd_of_mem_zipIdx member
    rw [covers_eq_false fun range inside => Nat.le_trans (ended range inside) place]
    rfl
  rw [unhidden, List.zipIdx_append, List.filter_append, Nat.zero_add, shown, List.map_append,
    List.zipIdx_map_fst, unhidden]

/-- A range that begins after some assignments and ends with the log hides what was added. -/
theorem unhidden_cons (hidden : List (Nat × Nat)) (before made : Writes) :
    unhidden ((before.length, (before ++ made).length) :: hidden) (before ++ made) =
      unhidden hidden before := by
  have kept : before.zipIdx.filter (fun entry =>
      !covers ((before.length, (before ++ made).length) :: hidden) entry.2) =
      before.zipIdx.filter fun entry => !covers hidden entry.2 := by
    refine List.filter_congr fun entry member => ?_
    have place := List.snd_lt_of_mem_zipIdx member
    simp [covers, show ¬ before.length ≤ entry.2 by omega]
  have gone : (made.zipIdx before.length).filter (fun entry =>
      !covers ((before.length, (before ++ made).length) :: hidden) entry.2) = [] := by
    refine List.filter_eq_nil_iff.mpr fun entry member => ?_
    have place := List.le_snd_of_mem_zipIdx member
    have bound := List.snd_lt_add_of_mem_zipIdx member
    simp [covers, place, bound]
  rw [unhidden, List.zipIdx_append, List.filter_append, Nat.zero_add, kept, gone, List.append_nil,
    unhidden]

/-! ## The two evaluations -/

/-- A branch of a choice in which a log is read: what is hidden, and the log where it begins. -/
structure Branch where
  hidden : List (Nat × Nat)
  before : Writes

/-- A log that was extended in a branch, beside a list of what is visible there. -/
structure Branch.Shows (branch : Branch) (log : Ranged) (held : Pending) : Prop where
  hidden : log.hidden = branch.hidden
  ended : ∀ range ∈ branch.hidden, range.2 ≤ branch.before.length
  begun : branch.before <+: log.writes
  writes : held.writes = log.writes
  visible : held.visible = (unhidden branch.hidden log.writes).reverse

/-- How a log with hidden ranges is compared with a list of what is visible. -/
def logged : Comparison Branch Ranged Pending where
  related := Branch.Shows
  admits _ := True
  excuses _ := False

/-- What is hidden in a branch ends within the log, whatever has been added there. -/
theorem Branch.Shows.within {branch : Branch} {log : Ranged} {held : Pending}
    (shown : branch.Shows log held) : ∀ range ∈ branch.hidden, range.2 ≤ log.writes.length :=
  fun range member => Nat.le_trans (shown.ended range member) shown.begun.length_le

theorem Branch.Shows.splits {branch : Branch} {log : Ranged} {held : Pending}
    (shown : branch.Shows log held) (lookup : String → Option String) :
    logged.Splits (.ranged lookup) (.pending lookup) branch log held := by
  have within := shown.within
  obtain ⟨hidden, ended, begun, writes, visible⟩ := shown
  refine ⟨⟨branch.hidden, log.writes⟩, ⟨hidden, within, List.prefix_rfl, writes, visible⟩, ?_⟩
  rintro log' held' ⟨hidden', -, ⟨made, added⟩, writes', -⟩
  refine ⟨⟨(log.writes.length, log'.writes.length) :: branch.hidden, log'.writes⟩, ?_, ?_⟩
  · refine ⟨congrArg _ hidden', List.forall_mem_cons.mpr ⟨Nat.le_refl _, fun range member => ?_⟩,
      List.prefix_rfl, writes', ?_⟩
    · have longer : log.writes <+: log'.writes := ⟨made, added⟩
      exact Nat.le_trans (within range member) longer.length_le
    · simp only [Memory.ranged, Memory.pending, visible, ← added, unhidden_cons]
  · rintro log'' held'' ⟨hidden'', -, ⟨more, further⟩, writes'', -⟩
    have whole : log''.writes = log.writes ++ (made ++ more) := by
      rw [← further, ← added, List.append_assoc]
    refine ⟨congrArg List.tail hidden'', ended, begun.trans ⟨made ++ more, whole.symm⟩, writes'',
      ?_⟩
    simp only [Memory.ranged, Memory.pending, writes, writes'', visible, whole, List.drop_left,
      unhidden_append within, List.reverse_append]

theorem logged_respects (lookup : String → Option String) :
    logged.Respects (.ranged lookup) (.pending lookup) where
  finish := trivial
  read {name branch log held} := by
    obtain ⟨writes, hidden⟩ := log
    obtain ⟨writes', visible⟩ := held
    rintro - ⟨rfl, -, -, -, rfl⟩
    rfl
  write name value {branch log held} := by
    intro shown
    have within := shown.within
    obtain ⟨hidden, ended, begun, writes, visible⟩ := shown
    refine ⟨hidden, ended, begun.trans (List.prefix_append ..), ?_, ?_⟩
    · simp [Memory.ranged, Memory.pending, writes]
    · simp [Memory.ranged, Memory.pending, visible, unhidden_append within]
  choice _ shown := shown.splits lookup

/-- Nobody can tell a log with hidden ranges from a list of what is visible. -/
theorem evaluateWithin_eq_ranged (levels : Nat) (lookup : String → Option String) (text : String) :
    evaluateWithin levels lookup text = evaluateRanged levels lookup text := by
  have same := Comparison.evaluateText (logged_respects lookup) (.inl (Eq.refl levels)) text
    (fun _ _ => trivial)
    (show logged.related ⟨[], []⟩ {} {} from ⟨rfl, nofun, List.prefix_rfl, rfl, rfl⟩)
  unfold evaluateWithin evaluateRanged
  rcases same with ⟨error, excused, -⟩ | ⟨error, failed, failed'⟩ |
    ⟨value, log, held, runs, runs', shown⟩
  · exact excused.elim
  · rw [failed, failed']
    rfl
  · rw [runs, runs']
    exact congrArg (fun writes => Except.ok (Result.mk value writes)) shown.writes

end Shell.Arith
