import Mathlib.Data.String.Basic
import Shell.Proofs.Scope.Lookup

/-! # What commands see of a scope

Bindings are kept in increasing order of name, so each name is bound once. The environment is that
of the outer frames with the innermost frame laid over it, name by name.
-/

namespace Shell

namespace Bindings

def IsOrdered (bindings : Bindings) : Prop :=
  bindings.entries.Pairwise fun entry next => entry.1 < next.1

theorem isOrdered_empty : empty.IsOrdered := .nil

theorem mem_insertEntry {name value : String} {entries : List (String × String)}
    {entry : String × String} (member : entry ∈ insertEntry name value entries) :
    entry = (name, value) ∨ entry ∈ entries := by
  induction entries with
  | nil => simpa [insertEntry] using member
  | cons other rest ih =>
      obtain ⟨other, text⟩ := other
      simp only [insertEntry] at member
      split at member
      · exact (List.mem_cons.mp member).imp_right (List.mem_cons_of_mem _)
      split at member
      · exact List.mem_cons.mp member
      · rcases List.mem_cons.mp member with same | member
        · exact .inr (same ▸ List.mem_cons_self)
        · exact (ih member).imp_right (List.mem_cons_of_mem _)

theorem isOrdered_insert (name value : String) {bindings : Bindings}
    (ordered : bindings.IsOrdered) : (bindings.insert name value).IsOrdered := by
  obtain ⟨entries⟩ := bindings
  simp only [IsOrdered, insert] at ordered ⊢
  induction entries with
  | nil => exact List.pairwise_singleton _ _
  | cons other rest ih =>
      obtain ⟨other, text⟩ := other
      obtain ⟨above, ordered⟩ := List.pairwise_cons.mp ordered
      simp only [insertEntry]
      split
      next same => exact .cons (same ▸ above) ordered
      next different =>
        split
        next before =>
          refine .cons ?_ (.cons above ordered)
          rw [List.forall_mem_cons]
          exact ⟨before, fun entry member => before.trans (above entry member)⟩
        next notBefore =>
          refine .cons (fun entry member => ?_) (ih ordered)
          rcases mem_insertEntry member with rfl | member
          · exact lt_of_le_of_ne (not_lt.mp notBefore) (Ne.symm different)
          · exact above entry member

def insertAll (entries : List (String × String)) (bindings : Bindings) : Bindings :=
  entries.foldl (fun sofar entry => sofar.insert entry.1 entry.2) bindings

theorem isOrdered_insertAll (entries : List (String × String)) {bindings : Bindings}
    (ordered : bindings.IsOrdered) : (bindings.insertAll entries).IsOrdered := by
  induction entries generalizing bindings with
  | nil => exact ordered
  | cons entry entries ih => exact ih (isOrdered_insert entry.1 entry.2 ordered)

theorem lookup_concat (entries : List (String × String)) (entry : String × String) (name : String) :
    (entries ++ [entry]).lookup name =
      (entries.lookup name).or (if name = entry.1 then some entry.2 else none) := by
  rw [List.lookup_append, lookup_entry]
  rfl

/-- The entry that is inserted last counts. -/
theorem get?_insertAll (entries : List (String × String)) (bindings : Bindings) (name : String) :
    (bindings.insertAll entries).get? name =
      (entries.reverse.lookup name).or (bindings.get? name) := by
  induction entries generalizing bindings with
  | nil => rfl
  | cons entry entries ih =>
      have further := ih (bindings.insert entry.1 entry.2)
      rw [get?_insert] at further
      rw [List.reverse_cons, lookup_concat, Option.or_assoc]
      refine further.trans (congrArg _ ?_)
      split <;> rfl

theorem lookup_reverse {entries : List (String × String)}
    (ordered : entries.Pairwise fun entry next => entry.1 < next.1) (name : String) :
    entries.reverse.lookup name = entries.lookup name := by
  induction entries with
  | nil => rfl
  | cons entry entries ih =>
      obtain ⟨above, ordered⟩ := List.pairwise_cons.mp ordered
      rw [List.reverse_cons, lookup_concat, ih ordered, lookup_entry]
      split
      next same =>
        have absent : entries.lookup name = none :=
          List.lookup_eq_none_iff.mpr fun other member => by
            simpa [same] using (above other member).ne
        rw [absent, Option.none_or]
      next => rw [Option.or_none]

theorem get?_overlay (bindings : Bindings) {above : Bindings} (ordered : above.IsOrdered)
    (name : String) :
    (bindings.overlay above).get? name = (above.get? name).or (bindings.get? name) := by
  have inserted := get?_insertAll above.entries bindings name
  rwa [lookup_reverse ordered] at inserted

theorem isOrdered_restrict (keep : String → Bool) {bindings : Bindings}
    (ordered : bindings.IsOrdered) : (bindings.restrict keep).IsOrdered :=
  ordered.sublist List.filter_sublist

end Bindings

namespace Scope

theorem isOrdered_environ {scope : Scope} (ordered : scope.root.IsOrdered) :
    scope.environ.IsOrdered := by
  unfold environ
  have outside := Bindings.isOrdered_restrict scope.isExported ordered
  induction scope.pushed with
  | nil => exact outside
  | cons frame pushed ih => exact Bindings.isOrdered_insertAll frame.entries ih

/-- Variables that are set in the innermost frame, one after the other. -/
def setLocals (entries : List (String × String)) (scope : Scope) : Scope :=
  entries.foldl (fun scope entry => scope.setLocal entry.1 entry.2) scope

theorem setLocals_push (entries : List (String × String)) (scope : Scope) :
    scope.push.setLocals entries =
      { scope with pushed := Bindings.empty.insertAll entries :: scope.pushed } := by
  suffices h : ∀ frame : Bindings,
      { scope with pushed := frame :: scope.pushed }.setLocals entries =
      { scope with pushed := frame.insertAll entries :: scope.pushed } from h .empty
  induction entries with
  | nil => exact fun _ => rfl
  | cons entry entries ih => exact fun frame => ih (frame.insert entry.1 entry.2)

/-- Variables that a command is given beside those it would see anyway. -/
theorem get?_environ_setLocals_push (entries : List (String × String)) (scope : Scope)
    (name : String) :
    (scope.push.setLocals entries).environ.get? name =
      (entries.reverse.lookup name).or (scope.environ.get? name) := by
  have innermost : ∀ frame : Bindings, { scope with pushed := frame :: scope.pushed }.environ =
      scope.environ.overlay frame := fun _ => rfl
  rw [setLocals_push, innermost, Bindings.get?_overlay, Bindings.get?_insertAll]
  · exact congrArg (Option.or · _) Option.or_none
  · exact Bindings.isOrdered_insertAll entries Bindings.isOrdered_empty

/-! ## Scopes in order -/

/-- Every frame has its names in order. -/
structure IsOrdered (scope : Scope) : Prop where
  root : scope.root.IsOrdered
  pushed : ∀ frame ∈ scope.pushed, frame.IsOrdered

theorem isOrdered_empty : empty.IsOrdered := ⟨Bindings.isOrdered_empty, by simp [empty]⟩

theorem isOrdered_rebind? {name value : String} {frames rebound : List Bindings}
    (ordered : ∀ frame ∈ frames, frame.IsOrdered) (h : rebind? name value frames = some rebound) :
    ∀ frame ∈ rebound, frame.IsOrdered := by
  induction frames generalizing rebound with
  | nil => cases h
  | cons frame rest ih =>
      obtain ⟨here, below⟩ := List.forall_mem_cons.mp ordered
      simp only [rebind?] at h
      split at h
      · cases h
        exact List.forall_mem_cons.mpr ⟨Bindings.isOrdered_insert name value here, below⟩
      · obtain ⟨inner, found, rfl⟩ := Option.map_eq_some_iff.mp h
        exact List.forall_mem_cons.mpr ⟨here, ih below found⟩

namespace IsOrdered

variable {scope : Scope}

theorem setLocal (name value : String) (ordered : scope.IsOrdered) :
    (scope.setLocal name value).IsOrdered := by
  have above := ordered.pushed
  unfold Scope.setLocal
  split
  next => exact ⟨Bindings.isOrdered_insert name value ordered.root, above⟩
  next frame rest same =>
    obtain ⟨here, below⟩ := List.forall_mem_cons.mp (same ▸ above)
    have innermost := Bindings.isOrdered_insert name value here
    exact ⟨ordered.root, List.forall_mem_cons.mpr ⟨innermost, below⟩⟩

theorem set (name value : String) (ordered : scope.IsOrdered) :
    (scope.set name value).IsOrdered := by
  unfold Scope.set
  split
  next rebound => exact ⟨ordered.root, isOrdered_rebind? ordered.pushed rebound⟩
  next =>
    split
    · exact ⟨Bindings.isOrdered_insert name value ordered.root, ordered.pushed⟩
    · exact ordered.setLocal name value

theorem exportName (name : String) (ordered : scope.IsOrdered) :
    (scope.exportName name).IsOrdered := by
  unfold Scope.exportName
  split
  · exact ordered
  · exact ⟨ordered.root, ordered.pushed⟩

theorem setExported (name value : String) (ordered : scope.IsOrdered) :
    (scope.setExported name value).IsOrdered :=
  (ordered.set name value).exportName name

end IsOrdered

theorem isOrdered_ofVariables (entries : List (String × String)) :
    (ofVariables entries).IsOrdered := by
  let setAll := entries.foldl fun (scope : Scope) entry => scope.setExported entry.1 entry.2
  suffices h : ∀ scope : Scope, scope.IsOrdered → (setAll scope).IsOrdered from
    h empty isOrdered_empty
  induction entries with
  | nil => exact fun _ ordered => ordered
  | cons entry entries ih =>
      exact fun scope ordered => ih _ (ordered.setExported entry.1 entry.2)

theorem isOrdered_root_ofVariables (entries : List (String × String)) :
    (ofVariables entries).root.IsOrdered :=
  (isOrdered_ofVariables entries).root

end Scope

end Shell
