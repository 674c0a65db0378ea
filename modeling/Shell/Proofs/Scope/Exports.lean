import Shell.Process.Invocation
import Shell.Proofs.Scope.Environment

/-! # Exported variables

A lookup goes through the frames from the innermost outwards, while the environment of commands is
laid together from the root frame inwards. Whatever is done with a scope, each frame keeps its names
in order, so both come to the same: commands see a variable exactly if it is marked for export or
bound above the root frame, and then they see what a lookup finds.
-/

namespace Shell

namespace Bindings

theorem isOrdered_erase (name : String) {bindings : Bindings} (ordered : bindings.IsOrdered) :
    (bindings.erase name).IsOrdered :=
  ordered.sublist List.filter_sublist

theorem get?_restrict (keep : String → Bool) (bindings : Bindings) (name : String) :
    (bindings.restrict keep).get? name = if keep name then bindings.get? name else none := by
  obtain ⟨entries⟩ := bindings
  simp only [restrict, get?]
  induction entries with
  | nil => simp
  | cons entry rest ih =>
      obtain ⟨bound, text⟩ := entry
      rw [lookup_entry, List.filter_cons]
      by_cases same : name = bound
      · subst same
        split
        next => rw [lookup_entry, if_pos rfl, if_pos rfl]
        next dropped => rw [ih, if_neg dropped]
      · rw [if_neg same, ← ih]
        split
        next => rw [lookup_entry, if_neg same]
        next => rfl

theorem mem_toList_iff {bindings : Bindings} (ordered : bindings.IsOrdered) {name value : String} :
    (name, value) ∈ bindings.toList ↔ bindings.get? name = some value := by
  rw [get?, List.lookup_eq_some_iff, toList]
  constructor
  · intro member
    obtain ⟨before, after, split⟩ := List.append_of_mem member
    refine ⟨before, after, split, fun entry earlier => ?_⟩
    rw [IsOrdered, split, List.pairwise_append] at ordered
    have less : entry.1 < name := ordered.2.2 entry earlier _ List.mem_cons_self
    exact bne_iff_ne.mpr less.ne'
  · rintro ⟨before, after, split, -⟩
    rw [split]
    exact List.mem_append_right before List.mem_cons_self

end Bindings

namespace Scope

/-! ## What can be done with a scope -/

inductive Change where
  | set (name value : String)
  | setLocal (name value : String)
  | setExported (name value : String)
  | exportName (name : String)
  | remove (name : String)
  | push
  | pop
deriving Repr, DecidableEq

/-- The scope after a change. The root frame cannot be closed. -/
def change? (scope : Scope) : Change → Option Scope
  | .set name value => some (scope.set name value)
  | .setLocal name value => some (scope.setLocal name value)
  | .setExported name value => some (scope.setExported name value)
  | .exportName name => some (scope.exportName name)
  | .remove name => some (scope.remove name).2
  | .push => some scope.push
  | .pop => scope.pop?

/-- The scopes that changes lead to. -/
inductive Reached : Scope → Prop where
  | empty : Reached .empty
  | ofVariables (bindings : List (String × String)) : Reached (.ofVariables bindings)
  | change {scope scope' : Scope} (change : Change) :
    Reached scope → scope.change? change = some scope' → Reached scope'

/-! ## Order -/

theorem isOrdered_unbind? {name value : String} {frames unbound : List Bindings}
    (ordered : ∀ frame ∈ frames, frame.IsOrdered)
    (h : unbind? name frames = some (value, unbound)) :
    ∀ frame ∈ unbound, frame.IsOrdered := by
  induction frames generalizing unbound with
  | nil => cases h
  | cons frame rest ih =>
      obtain ⟨here, below⟩ := List.forall_mem_cons.mp ordered
      simp only [unbind?] at h
      split at h
      · cases h
        exact List.forall_mem_cons.mpr ⟨Bindings.isOrdered_erase name here, below⟩
      · obtain ⟨⟨_, inner⟩, found, same⟩ := Option.map_eq_some_iff.mp h
        cases same
        exact List.forall_mem_cons.mpr ⟨here, ih below found⟩

namespace IsOrdered

variable {scope scope' : Scope}

theorem remove (name : String) (ordered : scope.IsOrdered) :
    (scope.remove name).2.IsOrdered := by
  unfold Scope.remove
  split
  next unbound => exact ⟨ordered.root, isOrdered_unbind? ordered.pushed unbound⟩
  next => exact ⟨Bindings.isOrdered_erase name ordered.root, ordered.pushed⟩

theorem change? {change : Change} (ordered : scope.IsOrdered)
    (changed : scope.change? change = some scope') : scope'.IsOrdered := by
  cases change with
  | set name value =>
      cases changed
      exact ordered.set name value
  | setLocal name value =>
      cases changed
      exact ordered.setLocal name value
  | setExported name value =>
      cases changed
      exact ordered.setExported name value
  | exportName name =>
      cases changed
      exact ordered.exportName name
  | remove name =>
      cases changed
      exact ordered.remove name
  | push =>
      cases changed
      exact ⟨ordered.root, List.forall_mem_cons.mpr ⟨Bindings.isOrdered_empty, ordered.pushed⟩⟩
  | pop =>
      simp only [Scope.change?, pop?] at changed
      split at changed
      next => cases changed
      next frame rest same =>
        cases changed
        exact ⟨ordered.root, (List.forall_mem_cons.mp (same ▸ ordered.pushed)).2⟩

end IsOrdered

theorem Reached.isOrdered {scope : Scope} (reached : Reached scope) : scope.IsOrdered := by
  induction reached with
  | empty => exact isOrdered_empty
  | ofVariables bindings => exact isOrdered_ofVariables bindings
  | change change _ changed ih => exact ih.change? changed

/-! ## The environment of commands -/

/-- True for the names that commands may see: those marked for export or bound above the root. -/
def passesOn (name : String) (scope : Scope) : Bool :=
  scope.isExported name || scope.pushed.any (Bindings.contains name)

theorem find_cons (name : String) (frame : Bindings) (frames : List Bindings) :
    find name (frame :: frames) = (frame.get? name).or (find name frames) := by
  rw [find, List.findSome?_cons]
  cases frame.get? name <;> rfl

theorem isSome_find (name : String) (frames : List Bindings) :
    (find name frames).isSome = frames.any (Bindings.contains name) := by
  rw [Bool.eq_iff_iff, List.findSome?_isSome_iff, List.any_eq_true]
  rfl

/-- The frames above the root come first, and the root frame counts for what is exported. -/
theorem get?_environ {scope : Scope} (ordered : scope.IsOrdered) (name : String) :
    scope.environ.get? name = (find name scope.pushed).or
      (if scope.isExported name then scope.root.get? name else none) := by
  have above := ordered.pushed
  unfold environ
  generalize scope.pushed = pushed at above ⊢
  induction pushed with
  | nil => exact Bindings.get?_restrict _ _ name
  | cons frame outside ih =>
      obtain ⟨here, below⟩ := List.forall_mem_cons.mp above
      rw [List.foldr_cons, Bindings.get?_overlay _ here, ih below, find_cons, Option.or_assoc]

/-- Of the names that are passed on, commands see what a lookup finds, and of others nothing. -/
theorem get?_environ_eq {scope : Scope} (ordered : scope.IsOrdered) (name : String) :
    scope.environ.get? name = if scope.passesOn name then scope.get? name else none := by
  rw [get?_environ ordered, get?_eq, passesOn, ← isSome_find]
  cases find name scope.pushed with
  | some value => simp
  | none => simp

/-- The environment of commands has each name once, in increasing order. It binds a name to a text
    exactly if a lookup finds that text and the name is marked for export or bound in a frame above
    the root, and a command that looks the name up there finds the same. -/
theorem environ_exports {scope : Scope} (reached : Reached scope) :
    (scope.environ.toList.Pairwise fun entry next => entry.1 < next.1) ∧
    (∀ name value, (name, value) ∈ scope.environ.toList ↔
      scope.get? name = some value ∧
        (scope.isExported name = true ∨ ∃ frame ∈ scope.pushed, frame.contains name = true)) ∧
    ∀ argv name, (Invocation.mk argv scope.environ.toList).envVar? name =
      if scope.isExported name = true ∨ ∃ frame ∈ scope.pushed, frame.contains name = true
      then scope.get? name else none := by
  have ordered := reached.isOrdered
  have sorted := isOrdered_environ ordered.root
  have passed : ∀ name, scope.passesOn name = true ↔
      (scope.isExported name = true ∨ ∃ frame ∈ scope.pushed, frame.contains name = true) := by
    simp [passesOn]
  refine ⟨sorted, fun name value => ?_, fun argv name => ?_⟩
  · rw [Bindings.mem_toList_iff sorted, get?_environ_eq ordered, ← passed]
    cases scope.passesOn name <;> simp
  · simp only [← passed]
    exact get?_environ_eq ordered name

/-- A variable is hidden by one above the root, one is removed and keeps its mark for export until
    it is set again, and one is marked before it is set in a frame that is closed. -/
theorem environ_exports_shadowed :
    let begun := Scope.ofVariables [("PATH", "/bin"), ("HOME", "/root"), ("LANG", "C")]
    let scope := ((((((begun.set "PRIVATE" "x").exportName "LATER").remove "PATH").2.set
      "PATH" "/usr/bin").push.setLocal "HOME" "/tmp").setLocal "LOCAL" "y").push
    Reached scope ∧
      scope.environ.toList =
        [("HOME", "/tmp"), ("LANG", "C"), ("LOCAL", "y"), ("PATH", "/usr/bin")] ∧
      ("HOME", "/tmp") ∈ scope.environ.toList ∧ ("PRIVATE", "x") ∉ scope.environ.toList ∧
      (Invocation.mk ["ls"] scope.environ.toList).envVar? "PATH" = some "/usr/bin" ∧
      (Invocation.mk ["ls"] scope.environ.toList).envVar? "PRIVATE" = none := by
  intro begun scope
  have reached : Reached scope :=
    (((((((Reached.ofVariables _).change (.set "PRIVATE" "x") rfl).change (.exportName "LATER")
      rfl).change (.remove "PATH") rfl).change (.set "PATH" "/usr/bin") rfl).change .push
      rfl).change (.setLocal "HOME" "/tmp") rfl).change (.setLocal "LOCAL" "y") rfl |>.change .push
      rfl
  obtain ⟨-, member, found⟩ := environ_exports reached
  refine ⟨reached, by decide +kernel, (member _ _).mpr (by decide +kernel), ?_, ?_, ?_⟩
  · rw [member]
    decide +kernel
  · rw [found]
    decide +kernel
  · rw [found]
    decide +kernel

end Scope

end Shell
