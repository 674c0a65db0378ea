/-! # Names

The names that variables can have: an ASCII letter or an underscore, then letters, digits and underscores.
-/

namespace Shell.Name

/-- True for a character that can begin a name. -/
def isStart (c : Char) : Bool :=
  c == '_' || ('a' ≤ c && c ≤ 'z') || ('A' ≤ c && c ≤ 'Z')

/-- True for a character that can continue a name. -/
def isPart (c : Char) : Bool :=
  isStart c || ('0' ≤ c && c ≤ '9')

/-- True for a name. -/
def isValid : List Char → Bool
  | [] => false
  | c :: rest => isStart c && rest.all isPart

theorem isPart_of_isStart {c : Char} (starts : isStart c = true) : isPart c = true := by
  rw [isPart, starts, Bool.true_or]

theorem isValid_cons_iff {first : Char} {rest : List Char} :
    isValid (first :: rest) = true ↔ isStart first = true ∧ ∀ c ∈ rest, isPart c = true := by
  rw [isValid, Bool.and_eq_true, List.all_eq_true]

/-- A name is a character that can begin it, with further parts. -/
theorem exists_cons_of_isValid {name : List Char} (valid : isValid name = true) :
    ∃ first rest, name = first :: rest ∧ isStart first = true ∧ ∀ c ∈ rest, isPart c = true := by
  cases name with
  | nil => cases valid
  | cons first rest => exact ⟨first, rest, rfl, isValid_cons_iff.mp valid⟩

theorem isPart_of_isValid {name : List Char} (valid : isValid name = true) :
    ∀ c ∈ name, isPart c = true := by
  obtain ⟨first, rest, rfl, starts, parts⟩ := exists_cons_of_isValid valid
  exact List.forall_mem_cons.mpr ⟨isPart_of_isStart starts, parts⟩

theorem isValid_concat {name : List Char} {c : Char} (valid : isValid name = true)
    (part : isPart c = true) : isValid (name ++ [c]) = true := by
  obtain ⟨first, rest, rfl, starts, parts⟩ := exists_cons_of_isValid valid
  refine isValid_cons_iff.mpr ⟨starts, List.forall_mem_append.mpr ⟨parts, ?_⟩⟩
  simpa using part

end Shell.Name
