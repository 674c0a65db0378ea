import Shell.Scope

/-! # Looking up what was set

A variable that has been set reads as its new text, whichever frame took it, and every other
variable reads as before.
-/

namespace Shell

namespace Bindings

theorem lookup_entry {α : Type} (name bound : String) (value : α) (rest : List (String × α)) :
    ((bound, value) :: rest).lookup name =
      if name = bound then some value else rest.lookup name := by
  by_cases same : name = bound
  · subst same
    simp
  · have distinct : (name == bound) = false := by simpa using same
    simp [List.lookup_cons, same, distinct]

@[simp] theorem get?_insert (name value other : String) (bindings : Bindings) :
    (bindings.insert name value).get? other =
      if other = name then some value else bindings.get? other := by
  obtain ⟨entries⟩ := bindings
  simp only [insert, get?]
  induction entries with
  | nil => simp only [insertEntry, lookup_entry]
  | cons entry rest ih =>
      obtain ⟨bound, text⟩ := entry
      by_cases found : name = bound
      · subst found
        by_cases same : other = name <;> simp [insertEntry, lookup_entry, same]
      · by_cases before : name < bound
        · simp only [insertEntry, if_neg found, if_pos before, lookup_entry]
        · simp only [insertEntry, if_neg found, if_neg before, lookup_entry, ih]
          by_cases here : other = bound
          · subst here
            simp [Ne.symm found]
          · simp [here]

end Bindings

namespace Scope

/-- What a list of frames says about a name. -/
abbrev find (name : String) (frames : List Bindings) : Option String :=
  frames.findSome? (Bindings.get? name)

theorem find_rebind? {name value : String} {frames rebound : List Bindings}
    (h : rebind? name value frames = some rebound) (other : String) :
    find other rebound = if other = name then some value else find other frames := by
  induction frames generalizing rebound with
  | nil => simp [rebind?] at h
  | cons frame rest ih =>
      simp only [rebind?] at h
      split at h
      · injection h with h
        subst h
        by_cases same : other = name <;> simp [find, List.findSome?_cons, same]
      · rename_i unbound
        obtain ⟨inner, found, rfl⟩ := Option.map_eq_some_iff.mp h
        have absent : frame.get? name = none := by simpa [Bindings.contains] using unbound
        have below := ih found
        by_cases same : other = name
        · subst same
          simpa [find, List.findSome?_cons, absent] using below
        · simp only [find, List.findSome?_cons, if_neg same] at below ⊢
          rw [below]

theorem find_of_rebind?_none {name value : String} {frames : List Bindings}
    (h : rebind? name value frames = none) : find name frames = none := by
  induction frames with
  | nil => rfl
  | cons frame rest ih =>
      simp only [rebind?] at h
      split at h
      · simp at h
      · rename_i unbound
        have absent : frame.get? name = none := by simpa [Bindings.contains] using unbound
        simp [find, absent, ih (by simpa using h)]

theorem get?_eq (name : String) (scope : Scope) :
    scope.get? name = (find name scope.pushed).or (scope.root.get? name) := by
  simp only [get?, frames, List.findSome?_append, List.findSome?_singleton]

theorem get?_setLocal (name value other : String) (scope : Scope) :
    (scope.setLocal name value).get? other =
      if other = name then some value else scope.get? other := by
  simp only [setLocal, get?_eq]
  cases scope.pushed with
  | nil => simp [find]
  | cons frame rest => by_cases same : other = name <;> simp [find, List.findSome?_cons, same]

/-- Setting a variable changes what that variable reads as, and nothing else. -/
@[simp] theorem get?_set (name value other : String) (scope : Scope) :
    (scope.set name value).get? other = if other = name then some value else scope.get? other := by
  cases found : rebind? name value scope.pushed with
  | some pushed =>
      simp only [set, found, get?_eq, find_rebind? found]
      by_cases same : other = name <;> simp [same]
  | none =>
      by_cases bound : scope.root.contains name
      · have above := find_of_rebind?_none found
        simp only [set, found, if_pos bound, get?_eq, Bindings.get?_insert]
        by_cases same : other = name
        · subst same
          simp [above]
        · simp [same]
      · simp only [set, found, if_neg bound, get?_setLocal]

end Scope

end Shell
