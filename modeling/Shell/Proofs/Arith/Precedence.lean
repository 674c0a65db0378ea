import Shell.Proofs.Arith.Evaluation
import Shell.Proofs.Arith.Printing
import Shell.Proofs.Arith.Simulation

/-! # Precedence

A row of operands is grouped one level of connectives after the other, those that bind tightest
first. The tree that is left in the end may stand where the row stands, without brackets of its
own, so the row is worth what the tree is worth with all of its brackets.
-/

namespace Shell.Arith

/-- Which operands are joined first where connectives of one level follow one another. -/
inductive Grouping where
  | left
  | right
deriving Repr, DecidableEq

/-- How tightly the operand on the right of a connective of some strength has to bind. -/
def Grouping.bound (strength : Int) : Grouping → Int
  | left => strength
  | right => strength - 1

/-- Connectives that bind equally tightly. -/
structure Level where
  grouping : Grouping
  members : List Connective

/-- All connectives, those that bind tightest first. -/
def table : List Level := [
  ⟨.left, [.binary .mul, .binary .div, .binary .rem]⟩,
  ⟨.left, [.binary .add, .binary .sub]⟩,
  ⟨.left, [.binary .shiftLeft, .binary .shiftRight]⟩,
  ⟨.left, [.binary .bitAnd]⟩,
  ⟨.left, [.binary .bitXor]⟩,
  ⟨.left, [.binary .bitOr]⟩,
  ⟨.left, [.binary .less, .binary .lessEq, .binary .greater, .binary .greaterEq, .binary .equal,
    .binary .notEqual]⟩,
  ⟨.right, [.logical .both]⟩,
  ⟨.right, [.logical .either]⟩]

/-- Operands with a connective between every two. -/
structure Row (α : Type) where
  first : α
  rest : List (Connective × α)

/-- A number, a variable or an expression in brackets, after any number of signs. -/
structure Operand where
  signs : List UnaryOp
  base : Tree
  unnegated : .negation ∉ signs
  simple : base.isSimple = true
  grammatical : base.standsAt 0 = true

def Operand.tree (operand : Operand) : Tree :=
  operand.signs.foldr .unary operand.base

namespace Row

def map {α β : Type} (f : α → β) (row : Row α) : Row β :=
  ⟨f row.first, row.rest.map fun entry => (entry.1, f entry.2)⟩

def connectives {α : Type} (row : Row α) : List Connective :=
  row.rest.map Prod.fst

def symbols (row : Row Tree) : List Symbol :=
  row.first.symbols ++ row.rest.flatMap fun entry => entry.1.symbol :: entry.2.symbols

/-- Joins the operands on both sides of some connectives, the leftmost two first. -/
def joinLeft (members : List Connective) (first : Tree) : List (Connective × Tree) → Row Tree
  | [] => ⟨first, []⟩
  | (op, next) :: rest =>
    if op ∈ members then joinLeft members (.connect op first next) rest
    else
      let joined := joinLeft members next rest
      ⟨first, (op, joined.first) :: joined.rest⟩

/-- Joins the operands on both sides of some connectives, the rightmost two first. -/
def joinRight (members : List Connective) (first : Tree) : List (Connective × Tree) → Row Tree
  | [] => ⟨first, []⟩
  | (op, next) :: rest =>
    let joined := joinRight members next rest
    if op ∈ members then ⟨.connect op first joined.first, joined.rest⟩
    else ⟨first, (op, joined.first) :: joined.rest⟩

def join (level : Level) (row : Row Tree) : Row Tree :=
  match level.grouping with
  | .left => joinLeft level.members row.first row.rest
  | .right => joinRight level.members row.first row.rest

/-- Joins at one level after the other. -/
def group (levels : List Level) (row : Row Tree) : Row Tree :=
  levels.foldl (fun row level => row.join level) row

/-- The tree that the table makes of a row. -/
def tree (row : Row Operand) : Tree :=
  ((row.map Operand.tree).group table).first

/-! ## Nothing is lost -/

@[simp] theorem symbols_joinLeft (members : List Connective) (first : Tree)
    (rest : List (Connective × Tree)) :
    (joinLeft members first rest).symbols = symbols ⟨first, rest⟩ := by
  induction rest generalizing first with
  | nil => rfl
  | cons entry rest ih =>
      obtain ⟨op, next⟩ := entry
      simp only [symbols] at ih
      by_cases member : op ∈ members
      · simp [joinLeft, member, symbols, ih, Tree.symbols]
      · simp [joinLeft, member, symbols, ih]

@[simp] theorem symbols_joinRight (members : List Connective) (first : Tree)
    (rest : List (Connective × Tree)) :
    (joinRight members first rest).symbols = symbols ⟨first, rest⟩ := by
  induction rest generalizing first with
  | nil => rfl
  | cons entry rest ih =>
      obtain ⟨op, next⟩ := entry
      simp only [symbols] at ih
      by_cases member : op ∈ members
      · simp [joinRight, member, symbols, ← ih, Tree.symbols]
      · simp [joinRight, member, symbols, ih]

@[simp] theorem symbols_join (level : Level) (row : Row Tree) :
    (row.join level).symbols = row.symbols := by
  unfold join
  cases level.grouping with
  | left => exact symbols_joinLeft _ _ _
  | right => exact symbols_joinRight _ _ _

theorem symbols_group (levels : List Level) (row : Row Tree) :
    (row.group levels).symbols = row.symbols := by
  induction levels generalizing row with
  | nil => rfl
  | cons level levels ih => exact (ih _).trans (symbols_join level row)

@[simp] theorem connectives_joinLeft (members : List Connective) (first : Tree)
    (rest : List (Connective × Tree)) :
    (joinLeft members first rest).connectives =
      (connectives ⟨first, rest⟩).filter fun op => op ∉ members := by
  induction rest generalizing first with
  | nil => rfl
  | cons entry rest ih =>
      obtain ⟨op, next⟩ := entry
      simp only [connectives] at ih
      by_cases member : op ∈ members <;> simp [joinLeft, member, connectives, ih]

@[simp] theorem connectives_joinRight (members : List Connective) (first : Tree)
    (rest : List (Connective × Tree)) :
    (joinRight members first rest).connectives =
      (connectives ⟨first, rest⟩).filter fun op => op ∉ members := by
  induction rest generalizing first with
  | nil => rfl
  | cons entry rest ih =>
      obtain ⟨op, next⟩ := entry
      simp only [connectives] at ih
      by_cases member : op ∈ members <;> simp [joinRight, member, connectives, ih]

theorem connectives_join (level : Level) (row : Row Tree) :
    (row.join level).connectives = row.connectives.filter fun op => op ∉ level.members := by
  unfold join
  cases level.grouping with
  | left => exact connectives_joinLeft _ _ _
  | right => exact connectives_joinRight _ _ _

/-- What is left between operands stands on none of the levels. -/
theorem not_mem_of_mem_group {levels : List Level} {row : Row Tree} {op : Connective}
    (left : op ∈ (row.group levels).connectives) :
    op ∈ row.connectives ∧ ∀ level ∈ levels, op ∉ level.members := by
  induction levels generalizing row with
  | nil => exact ⟨left, by simp⟩
  | cons level levels ih =>
      obtain ⟨remains, absent⟩ := ih left
      simp only [connectives_join, List.mem_filter, decide_eq_true_eq] at remains
      exact ⟨remains.1, List.forall_mem_cons.mpr ⟨remains.2, absent⟩⟩

/-- The table has every connective, so a single tree is left. -/
theorem rest_group_table (row : Row Tree) : (row.group table).rest = [] := by
  have known : ∀ op : Connective, ∃ level ∈ table, op ∈ level.members := by
    intro op
    rcases op with op | op <;> cases op <;> decide
  apply List.map_eq_nil_iff.mp
  apply List.eq_nil_iff_forall_not_mem.mpr
  intro op left
  obtain ⟨level, listed, member⟩ := known op
  exact (not_mem_of_mem_group left).2 level listed member

end Row

/-! ## Everything stands where it may -/

/-- What binds no tighter than a strength may follow a tree, and the tree binds tighter. -/
def Tree.Fits (strength : Int) (tree : Tree) : Prop :=
  tree.standsAt strength = true ∧ ∀ weaker ≤ strength, tree.endsBefore weaker = true

def Row.Fits (strength : Int) (row : Row Tree) : Prop :=
  row.first.Fits strength ∧ ∀ entry ∈ row.rest, entry.2.Fits strength

/-- The members of a level bind with one strength, to both sides as the grouping says. -/
def Level.Binds (strength : Int) (level : Level) : Prop :=
  ∀ op ∈ level.members, op.strength = strength ∧ op.bound = level.grouping.bound strength

instance (strength : Int) (level : Level) : Decidable (level.Binds strength) :=
  inferInstanceAs (Decidable (∀ op ∈ level.members, _ ∧ _))

/-- Each level binds less tightly than the one before. -/
inductive Descends : Int → List Level → Prop where
  | nil {above : Int} : 0 ≤ above → Descends above []
  | cons {above : Int} (strength : Int) {level : Level} {levels : List Level} :
    strength ≤ above → level.Binds strength → Descends (strength - 1) levels →
      Descends above (level :: levels)

theorem table_descends : Descends 120 table :=
  .cons 120 (by decide) (by decide) <|
  .cons 110 (by decide) (by decide) <|
  .cons 100 (by decide) (by decide) <|
  .cons 90 (by decide) (by decide) <|
  .cons 80 (by decide) (by decide) <|
  .cons 70 (by decide) (by decide) <|
  .cons 60 (by decide) (by decide) <|
  .cons 40 (by decide) (by decide) <|
  .cons 30 (by decide) (by decide) <|
  .nil (by decide)

theorem Tree.Fits.mono {low high : Int} (h : low ≤ high) {tree : Tree} (fits : tree.Fits high) :
    tree.Fits low :=
  ⟨standsAt_mono h fits.1, fun weaker le => fits.2 weaker (Int.le_trans le h)⟩

theorem Row.Fits.mono {low high : Int} (h : low ≤ high) {row : Row Tree} (fits : row.Fits high) :
    row.Fits low :=
  ⟨fits.1.mono h, fun entry member => (fits.2 entry member).mono h⟩

theorem Operand.fits (operand : Operand) : operand.tree.Fits 120 := by
  obtain ⟨signs, base, unnegated, simple, grammatical⟩ := operand
  simp only [tree]
  -- Signs bind so tightly that what they stand before may stand anywhere, as the base may.
  suffices h : ∀ strength, (signs.foldr Tree.unary base).standsAt strength = true ∧
      ∀ weaker ≤ 120, (signs.foldr Tree.unary base).endsBefore weaker = true from
    ⟨(h 120).1, (h 120).2⟩
  induction signs with
  | nil =>
      intro strength
      exact ⟨Tree.standsAt_of_isSimple simple grammatical strength,
        fun weaker _ => Tree.endsBefore_of_isSimple simple weaker⟩
  | cons sign signs ih =>
      intro strength
      have inner := ih (fun member => unnegated (List.mem_cons_of_mem _ member))
      refine ⟨(inner sign.strength).1, fun weaker le => ?_⟩
      have tight : 120 ≤ sign.strength := by
        cases sign with
        | plus | minus | complement => decide
        | negation => exact absurd (by simp) unnegated
      simp only [List.foldr_cons, Tree.endsBefore, Bool.and_eq_true, decide_eq_true_eq]
      exact ⟨Int.le_trans le tight, (inner 0).2 weaker le⟩

namespace Row

theorem fits_joinLeft {strength : Int} {members : List Connective}
    (binds : ∀ op ∈ members, op.strength = strength ∧ op.bound = strength) {first : Tree}
    {rest : List (Connective × Tree)} (stands : first.standsAt (strength - 1) = true)
    (ends : ∀ weaker ≤ strength, first.endsBefore weaker = true)
    (fits : ∀ entry ∈ rest, entry.2.Fits strength) :
    (joinLeft members first rest).Fits (strength - 1) := by
  have lower : strength - 1 ≤ strength := by omega
  induction rest generalizing first with
  | nil =>
      exact ⟨⟨stands, fun weaker le => ends weaker (Int.le_trans le lower)⟩, by simp [joinLeft]⟩
  | cons entry rest ih =>
      obtain ⟨op, next⟩ := entry
      obtain ⟨nextFits, restFit⟩ := List.forall_mem_cons.mp fits
      by_cases member : op ∈ members
      · rw [joinLeft, if_pos member]
        obtain ⟨tight, bound⟩ := binds op member
        refine ih ?_ (fun weaker le => ?_) restFit
        · simp only [Tree.standsAt, tight, bound, Bool.and_eq_true, decide_eq_true_eq]
          exact ⟨⟨⟨by omega, stands⟩, ends strength (Int.le_refl _)⟩, nextFits.1⟩
        · simp only [Tree.endsBefore, bound, Bool.and_eq_true, decide_eq_true_eq]
          exact ⟨le, nextFits.2 weaker le⟩
      · rw [joinLeft, if_neg member]
        have further := ih (Tree.standsAt_mono lower nextFits.1) nextFits.2 restFit
        exact ⟨⟨stands, fun weaker le => ends weaker (Int.le_trans le lower)⟩,
          List.forall_mem_cons.mpr ⟨further.1, further.2⟩⟩

theorem fits_joinRight {strength : Int} {members : List Connective}
    (binds : ∀ op ∈ members, op.strength = strength ∧ op.bound = strength - 1) {first : Tree}
    {rest : List (Connective × Tree)} (firstFits : first.Fits strength)
    (fits : ∀ entry ∈ rest, entry.2.Fits strength) :
    (joinRight members first rest).Fits (strength - 1) := by
  have lower : strength - 1 ≤ strength := by omega
  induction rest generalizing first with
  | nil => exact ⟨firstFits.mono lower, by simp [joinRight]⟩
  | cons entry rest ih =>
      obtain ⟨op, next⟩ := entry
      obtain ⟨nextFits, restFit⟩ := List.forall_mem_cons.mp fits
      obtain ⟨joined, others⟩ := ih nextFits restFit
      by_cases member : op ∈ members
      · rw [joinRight, if_pos member]
        obtain ⟨tight, bound⟩ := binds op member
        refine ⟨⟨?_, fun weaker le => ?_⟩, others⟩
        · simp only [Tree.standsAt, tight, bound, Bool.and_eq_true, decide_eq_true_eq]
          exact
            ⟨⟨⟨by omega, Tree.standsAt_mono lower firstFits.1⟩,
              firstFits.2 strength (Int.le_refl _)⟩, joined.1⟩
        · simp only [Tree.endsBefore, bound, Bool.and_eq_true, decide_eq_true_eq]
          exact ⟨le, joined.2 weaker le⟩
      · rw [joinRight, if_neg member]
        exact ⟨firstFits.mono lower, List.forall_mem_cons.mpr ⟨joined, others⟩⟩

theorem fits_join {strength : Int} {level : Level} (binds : level.Binds strength) {row : Row Tree}
    (fits : row.Fits strength) : (row.join level).Fits (strength - 1) := by
  obtain ⟨grouping, members⟩ := level
  cases grouping with
  | left => exact fits_joinLeft binds (Tree.standsAt_mono (by omega) fits.1.1) fits.1.2 fits.2
  | right => exact fits_joinRight binds fits.1 fits.2

theorem fits_group {above : Int} {levels : List Level} (descends : Descends above levels)
    {row : Row Tree} (fits : row.Fits above) : (row.group levels).Fits 0 := by
  induction descends generalizing row with
  | nil positive => exact fits.mono positive
  | cons strength le binds _ ih => exact ih (fits_join binds (fits.mono le))

theorem symbols_tree (row : Row Operand) : row.tree.symbols = (row.map Operand.tree).symbols := by
  rw [← symbols_group table, symbols, rest_group_table]
  simp [tree]

/-- The tree of a row can be written without brackets of its own. -/
theorem standsAt_tree (row : Row Operand) : row.tree.standsAt 0 = true := by
  have fits : (row.map Operand.tree).Fits 120 :=
    ⟨row.first.fits, List.forall_mem_map.mpr fun entry _ => entry.2.fits⟩
  exact (fits_group table_descends fits).1.1

end Row

/-- A text with the symbols of a row of operands has the value of the tree that the table makes of
    the row, written with brackets around every compound operand, or fails as that does, if neither
    is nested too deeply. -/
theorem evaluate_row (scope : Scope) (row : Row Operand) {text explicit : String}
    (flat : Symbol.readAll text = ⟨(row.map Operand.tree).symbols, none⟩)
    (bracketed : Symbol.readAll explicit = ⟨row.tree.bracketed.symbols, none⟩)
    (shallow : evaluate scope text ≠ .error .nestedTooDeeply)
    (shallow' : evaluate scope explicit ≠ .error .nestedTooDeeply) :
    evaluate scope text = evaluate scope explicit := by
  rw [← row.symbols_tree] at flat
  -- Where no nesting is too deep, both are what they are with as many levels as either tree needs.
  let levels := maxNesting + row.tree.levels + row.tree.bracketed.levels
  have more : maxNesting ≤ levels := by simp only [levels]; omega
  have value := evaluateWithin_symbols (scope.get? ·) flat row.standsAt_tree levels
    (by simp only [levels]; omega)
  have same := evaluateWithin_symbols (scope.get? ·) bracketed row.tree.standsAt_bracketed levels
    (by simp only [levels]; omega)
  calc evaluate scope text = evaluateWithin levels (scope.get? ·) text :=
        (evaluateWithin_mono more _ shallow).symm
    _ = evaluateWithin levels (scope.get? ·) explicit := by rw [value, same, Tree.meaning_bracketed]
    _ = evaluate scope explicit := evaluateWithin_mono more _ shallow'

/-- Signs bind tightest, then products, then differences from the left, and `&&` from the right. -/
theorem evaluate_row_mixed :
    evaluate (Scope.empty.set "x" "5") "9-x-2*~-x&& x==0&&3" =
      evaluate (Scope.empty.set "x" "5") "((9-x)-(2*(~(-x)))) && ((x==0) && 3)" := by
  let number (value : Int64) : Operand := ⟨[], .literal value, by simp, rfl, rfl⟩
  let x : Operand := ⟨[], .reference "x", by simp, rfl, rfl⟩
  let signed : Operand := ⟨[.complement, .minus], .reference "x", by simp, rfl, rfl⟩
  let row : Row Operand :=
    ⟨number 9, [(.binary .sub, x), (.binary .sub, number 2), (.binary .mul, signed),
      (.logical .both, x), (.binary .equal, number 0), (.logical .both, number 3)]⟩
  have shallow : ∀ text, (evaluate (Scope.empty.set "x" "5") text).toOption.isSome →
      evaluate (Scope.empty.set "x" "5") text ≠ .error .nestedTooDeeply := by
    intro text valued deep
    rw [deep] at valued
    cases valued
  exact evaluate_row _ row (by decide +kernel) (by decide +kernel) (shallow _ (by decide +kernel))
    (shallow _ (by decide +kernel))

end Shell.Arith
