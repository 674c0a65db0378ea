import Shell.Proofs.Arith.Evaluation

/-! # What has a value is a tree

An evaluation that ends with a value has taken the symbols of a tree, and the tree may stand
where the evaluation began. So a text has a value exactly if it consists of the symbols of a tree
that may stand alone, is nested no deeper than allowed and has a meaning. The induction is on the
levels of nesting; within one level it follows the rounds of the loop, and the tree that has been
taken so far grows with each of them.
-/

namespace Shell.Arith

namespace EvalM

variable {σ : Type}

/-- The state in which some symbols are still to be taken, and after them perhaps an error. -/
def standing (fault : Option Error) (held : σ) : List Symbol → State σ
  | [] => { ahead := .finish, rest := [], fault, memory := held }
  | next :: rest => { ahead := next, rest, fault, memory := held }

theorem standing_none (held : σ) (symbols : List Symbol) :
    standing none held symbols = reading held symbols := by
  cases symbols <;> rfl

theorem standing_memory (fault : Option Error) (held : σ) (symbols : List Symbol) :
    standing fault (standing fault held symbols).memory symbols = standing fault held symbols := by
  cases symbols <;> rfl

/-! ## Steps that succeed -/

theorem exists_of_bind_eq_ok {α β : Type} {first : Except Error α} {further : α → Except Error β}
    {result : β} (h : (first >>= further) = .ok result) :
    ∃ found, first = .ok found ∧ further found = .ok result := by
  cases first with
  | error error => cases h
  | ok found => exact ⟨found, rfl, h⟩

theorem bind_eq_ok {α β : Type} {action : EvalM σ α} {further : α → EvalM σ β} {s : State σ}
    {found : β × State σ} (h : (action >>= further).run s = .ok found) :
    ∃ value s', action.run s = .ok (value, s') ∧ (further value).run s' = .ok found :=
  let ⟨first, ran, h⟩ := exists_of_bind_eq_ok h
  ⟨first.1, first.2, ran, h⟩

theorem eq_ok_of_orDivision {α : Type} {first : Option Int64} {further : Int64 → α} {result : α}
    (h : (Tree.orDivision first).map further = .ok result) :
    ∃ value, result = further value := by
  cases first with
  | none => cases h
  | some value => exact ⟨value, (Except.ok.inj h).symm⟩

theorem discard_eq_ok {α : Type} {action : EvalM σ α} {s s' : State σ}
    (h : (discard action).run s = .ok ((), s')) : ∃ value, action.run s = .ok (value, s') := by
  have h : (action >>= fun _ => pure ()).run s = .ok ((), s') := h
  obtain ⟨value, s, ran, h⟩ := bind_eq_ok h
  cases h
  exact ⟨value, ran⟩

theorem peek_standing (fault : Option Error) (held : σ) (symbols : List Symbol) :
    peek.run (standing fault held symbols) = .ok (next symbols, standing fault held symbols) := by
  cases symbols <;> rfl

/-- The last symbol can be taken only where no error comes after it. -/
theorem advance_standing {fault : Option Error} {held : σ} {symbols : List Symbol} {symbol : Symbol}
    {after : State σ} (h : advance.run (standing fault held symbols) = .ok (symbol, after)) :
    symbol = next symbols ∧ after = standing fault held symbols.tail ∧
      (symbols.tail = [] → fault = none) := by
  rcases symbols with - | ⟨first, - | ⟨second, rest⟩⟩
  · cases fault with
    | some error => cases h
    | none =>
        cases h
        exact ⟨rfl, rfl, fun _ => rfl⟩
  · cases fault with
    | some error => cases h
    | none =>
        cases h
        exact ⟨rfl, rfl, fun _ => rfl⟩
  · cases h
    exact ⟨rfl, rfl, nofun⟩

theorem cons_of_next {symbols : List Symbol} (more : next symbols ≠ .finish) :
    symbols = next symbols :: symbols.tail := by
  cases symbols with
  | nil => exact absurd rfl more
  | cons first rest => rfl

theorem close_standing {fault : Option Error} {held : σ} {symbols : List Symbol} {closer : Symbol}
    {after : State σ} (more : closer ≠ .finish)
    (h : (close closer).run (standing fault held symbols) = .ok ((), after)) :
    ∃ rest, symbols = closer :: rest ∧ after = standing fault held rest ∧
      (rest = [] → fault = none) := by
  obtain ⟨ahead, s, peeked, h⟩ := bind_eq_ok h
  rw [peek_standing] at peeked
  cases peeked
  split at h
  · rename_i same
    obtain ⟨taken, advanced⟩ := discard_eq_ok h
    obtain ⟨-, stands, whole⟩ := advance_standing advanced
    exact ⟨symbols.tail, same ▸ cons_of_next (same ▸ more), stands, whole⟩
  · cases h

theorem revise_standing (fault : Option Error) (held : σ) (symbols : List Symbol) (change : σ → σ) :
    (revise change).run (standing fault held symbols) =
      .ok ((), standing fault (change held) symbols) := by
  cases symbols <;> rfl

theorem read_keeps {memory : Memory σ} {name : String} {s s' : State σ} {value : Int64}
    (h : (read memory name).run s = .ok (value, s')) : s' = s := by
  obtain ⟨held, s, taken, h⟩ := bind_eq_ok h
  cases taken
  split at h
  · cases h
    rfl
  · cases h

/-! ## Expressions -/

/-- What has been taken of some symbols is a tree, and the state is the one before all the others. -/
structure Parses (fault : Option Error) (levels : Nat) (strength : Int) (symbols : List Symbol)
    (after : State σ) (tree : Tree) (rest : List Symbol) : Prop where
  split : symbols = tree.symbols ++ rest
  state : after = standing fault after.memory rest
  whole : rest = [] → fault = none
  stands : tree.standsAt strength = true
  ends : tree.endsBefore (next rest).strength = true
  shallow : tree.levels ≤ levels

/-- A value is found only by taking a tree, up to a symbol that binds no tighter than a strength. -/
def Accepts (levels : Nat) (strength : Int) (action : EvalM σ Int64) : Prop :=
  ∀ {fault : Option Error} {held : σ} {symbols : List Symbol} {value : Int64} {after : State σ},
    action.run (standing fault held symbols) = .ok (value, after) →
      ∃ tree rest, Parses fault levels strength symbols after tree rest ∧
        (next rest).strength ≤ strength

section Expressions

variable {memory : Memory σ} {sub : Int → EvalM σ Int64} {levels : Nat} {fault : Option Error}
  {held : σ} {rest : List Symbol} {value : Int64} {after : State σ}

theorem parses_unary (subs : ∀ strength, 0 ≤ strength → Accepts levels strength (sub strength))
    (op : UnaryOp) (strength : Int)
    (h : (operand memory sub op.symbol).run (standing fault held rest) = .ok (value, after)) :
    ∃ tree rest', Parses fault (levels + 1) strength (op.symbol :: rest) after tree rest' ∧
      tree.target? = none := by
  have positive : 0 ≤ op.strength := by cases op <;> decide
  rw [run_operand_unary] at h
  obtain ⟨found, ran, h⟩ := exists_of_bind_eq_ok h
  cases h
  obtain ⟨inner, rest', parsed, loose⟩ := subs _ positive ran
  refine ⟨.unary op inner, rest', ?_, rfl⟩
  exact
    { split := by rw [parsed.split]; rfl
      state := parsed.state
      whole := parsed.whole
      stands := parsed.stands
      ends := by
        simp only [Tree.endsBefore, Bool.and_eq_true, decide_eq_true_eq]
        exact ⟨loose, parsed.ends⟩
      shallow := Nat.succ_le_succ parsed.shallow }

theorem parses_operand (subs : ∀ strength, 0 ≤ strength → Accepts levels strength (sub strength))
    {symbol : Symbol} (whole : rest = [] → fault = none) (strength : Int)
    (h : (operand memory sub symbol).run (standing fault held rest) = .ok (value, after)) :
    ∃ tree rest', Parses fault (levels + 1) strength (symbol :: rest) after tree rest' ∧
      tree.target? = target? symbol := by
  cases symbol with
  | literal value =>
      cases h
      exact ⟨.literal value, rest, ⟨rfl, (standing_memory _ _ _).symm, whole, rfl, rfl,
        Nat.le_add_left 1 levels⟩, rfl⟩
  | reference name =>
      obtain rfl := read_keeps h
      exact ⟨.reference name, rest, ⟨rfl, (standing_memory _ _ _).symm, whole, rfl, rfl,
        Nat.le_add_left 1 levels⟩, rfl⟩
  | binary op =>
      cases op with
      | add => exact parses_unary subs .plus strength h
      | sub => exact parses_unary subs .minus strength h
      | _ => cases h
  | complement => exact parses_unary subs .complement strength h
  | negation => exact parses_unary subs .negation strength h
  | opening =>
      obtain ⟨value, s, ran, h⟩ := bind_eq_ok h
      obtain ⟨_, s', closed, h⟩ := bind_eq_ok h
      cases h
      obtain ⟨inner, left, parsed, -⟩ := subs 0 (Int.le_refl 0) ran
      rw [parsed.state] at closed
      obtain ⟨rest', rfl, rfl, whole'⟩ := close_standing (by decide) closed
      refine ⟨.group inner, rest', ?_, rfl⟩
      exact
        { split := by simp [parsed.split, Tree.symbols]
          state := (standing_memory _ _ _).symm
          whole := whole'
          stands := parsed.stands
          ends := rfl
          shallow := Nat.succ_le_succ parsed.shallow }
  | logical | assign | closing | question | colon | finish => cases h

theorem parses_connect (subs : ∀ strength, 0 ≤ strength → Accepts levels strength (sub strength))
    (op : Connective) {target : Option String} {strength : Int} {left : Tree} {a : Int64}
    (tight : strength < op.strength) (stands : left.standsAt strength = true)
    (ends : left.endsBefore op.strength = true) (shallow : left.levels ≤ levels + 1)
    (h : (extend memory sub target a op.symbol).run (standing fault held rest) = .ok (value, after)) :
    ∃ tree rest', Parses fault (levels + 1) strength (left.symbols ++ op.symbol :: rest) after tree
      rest' ∧ rest'.length ≤ rest.length := by
  have positive : 0 ≤ op.bound := by rcases op with op | op <;> cases op <;> decide
  rw [run_extend_connective] at h
  obtain ⟨found, ran, h⟩ := exists_of_bind_eq_ok h
  obtain ⟨result, same⟩ := eq_ok_of_orDivision h
  cases same
  obtain ⟨right, rest', parsed, loose⟩ := subs _ positive ran
  refine ⟨.connect op left right, rest', ?_, by simp [parsed.split]⟩
  exact
    { split := by simp [parsed.split, Tree.symbols]
      state := parsed.state
      whole := parsed.whole
      stands := by
        simp only [Tree.standsAt, Bool.and_eq_true, decide_eq_true_eq]
        exact ⟨⟨⟨tight, stands⟩, ends⟩, parsed.stands⟩
      ends := by
        simp only [Tree.endsBefore, Bool.and_eq_true, decide_eq_true_eq]
        exact ⟨loose, parsed.ends⟩
      shallow := Nat.max_le.mpr ⟨shallow, Nat.succ_le_succ parsed.shallow⟩ }

theorem parses_assign (subs : ∀ strength, 0 ≤ strength → Accepts levels strength (sub strength))
    (op : Option BinaryOp) {target : Option String} {strength : Int} {left : Tree} {a : Int64}
    (tight : strength < (Symbol.assign op).strength)
    (targeted : ∀ name, target = some name → left = .reference name)
    (h : (extend memory sub target a (.assign op)).run (standing fault held rest) =
      .ok (value, after)) :
    ∃ tree rest', Parses fault (levels + 1) strength (left.symbols ++ .assign op :: rest) after tree
      rest' ∧ rest'.length ≤ rest.length := by
  cases target with
  | none => cases h
  | some name =>
      obtain rfl := targeted name rfl
      rw [run_extend_assign] at h
      obtain ⟨found, ran, h⟩ := exists_of_bind_eq_ok h
      obtain ⟨result, same⟩ := eq_ok_of_orDivision h
      cases same
      obtain ⟨right, rest', parsed, loose⟩ := subs 0 (Int.le_refl 0) ran
      refine ⟨.assign op name right, rest', ?_, by simp [parsed.split]⟩
      exact
        { split := by simp [parsed.split, Tree.symbols]
          state := by rw [parsed.state]; cases rest' <;> rfl
          whole := parsed.whole
          stands := by
            simp only [Tree.standsAt, Bool.and_eq_true, decide_eq_true_eq]
            exact ⟨tight, parsed.stands⟩
          ends := by
            simp only [Tree.endsBefore, Bool.and_eq_true, decide_eq_true_eq]
            exact ⟨loose, parsed.ends⟩
          shallow := Nat.succ_le_succ parsed.shallow }

theorem parses_question (subs : ∀ strength, 0 ≤ strength → Accepts levels strength (sub strength))
    {target : Option String} {strength : Int} {condition : Tree} {a : Int64}
    (tight : strength < Symbol.question.strength) (stands : condition.standsAt strength = true)
    (ends : condition.endsBefore Symbol.question.strength = true)
    (shallow : condition.levels ≤ levels + 1)
    (h : (extend memory sub target a .question).run (standing fault held rest) =
      .ok (value, after)) :
    ∃ tree rest', Parses fault (levels + 1) strength (condition.symbols ++ .question :: rest) after
      tree rest' ∧ rest'.length ≤ rest.length := by
  obtain ⟨before, s, taken, h⟩ := bind_eq_ok h
  cases taken
  obtain ⟨b, s, ran, h⟩ := bind_eq_ok h
  obtain ⟨_, s', closed, h⟩ := bind_eq_ok h
  obtain ⟨_, s'', revised, h⟩ := bind_eq_ok h
  obtain ⟨c, t, ran', h⟩ := bind_eq_ok h
  obtain ⟨_, t', revised', h⟩ := bind_eq_ok h
  cases h
  obtain ⟨ifTrue, left, first, -⟩ := subs 0 (Int.le_refl 0) ran
  rw [first.state] at closed
  obtain ⟨middle, rfl, rfl, -⟩ := close_standing (by decide) closed
  rw [revise_standing] at revised
  cases revised
  obtain ⟨ifFalse, rest', second, loose⟩ := subs 0 (Int.le_refl 0) ran'
  rw [second.state, revise_standing] at revised'
  cases revised'
  refine ⟨.choice condition ifTrue ifFalse, rest', ?_, ?_⟩
  · exact
      { split := by simp [first.split, second.split, Tree.symbols]
        state := (standing_memory _ _ _).symm
        whole := second.whole
        stands := by
          simp only [Tree.standsAt, Bool.and_eq_true, decide_eq_true_eq]
          exact ⟨⟨⟨⟨tight, stands⟩, ends⟩, first.stands⟩, second.stands⟩
        ends := by
          simp only [Tree.endsBefore, Bool.and_eq_true, decide_eq_true_eq]
          exact ⟨loose, second.ends⟩
        shallow := by
          have := first.shallow
          have := second.shallow
          simp only [Tree.levels]
          omega }
  · simp only [first.split, second.split, List.length_append, List.length_cons]
    omega

theorem parses_extend (subs : ∀ strength, 0 ≤ strength → Accepts levels strength (sub strength))
    {symbol : Symbol} {target : Option String} {strength : Int} {symbols : List Symbol} {left : Tree}
    {a : Int64} {before : State σ}
    (taken : Parses fault (levels + 1) strength symbols before left (symbol :: rest))
    (targeted : ∀ name, target = some name → left = .reference name)
    (tight : strength < symbol.strength)
    (h : (extend memory sub target a symbol).run (standing fault held rest) = .ok (value, after)) :
    ∃ tree rest', Parses fault (levels + 1) strength symbols after tree rest' ∧
      rest'.length ≤ rest.length := by
  rw [taken.split]
  cases symbol with
  | binary op =>
      exact parses_connect subs (.binary op) tight taken.stands taken.ends taken.shallow h
  | logical op =>
      exact parses_connect subs (.logical op) tight taken.stands taken.ends taken.shallow h
  | assign op => exact parses_assign subs op tight targeted h
  | question => exact parses_question subs tight taken.stands taken.ends taken.shallow h
  | literal | reference | complement | negation | opening | closing | colon | finish => cases h

/-- The loop goes on until what comes next binds no tighter, as it has rounds for all symbols. -/
theorem parses_climb (subs : ∀ strength, 0 ≤ strength → Accepts levels strength (sub strength))
    {strength : Int} (nonneg : 0 ≤ strength) {rounds : Nat} {target : Option String}
    {symbols : List Symbol} {left : Tree} {a : Int64} {before : State σ}
    (taken : Parses fault (levels + 1) strength symbols before left rest)
    (targeted : ∀ name, target = some name → left = .reference name)
    (enough : rest.length ≤ rounds)
    (h : (climb memory sub strength rounds target a).run before = .ok (value, after)) :
    ∃ tree rest', Parses fault (levels + 1) strength symbols after tree rest' ∧
      (next rest').strength ≤ strength := by
  induction rounds generalizing target left a before rest with
  | zero =>
      obtain rfl := List.length_eq_zero_iff.mp (Nat.le_zero.mp enough)
      cases h
      exact ⟨left, [], taken, Int.le_trans (by decide) nonneg⟩
  | succ rounds ih =>
      obtain ⟨ahead, s, peeked, h⟩ := bind_eq_ok h
      rw [taken.state, peek_standing] at peeked
      cases peeked
      split at h
      · rename_i tight
        have more : next rest ≠ .finish := by
          intro same
          rw [same] at tight
          exact absurd (Int.lt_of_le_of_lt nonneg tight) (by decide)
        obtain ⟨symbol, s, advanced, h⟩ := bind_eq_ok h
        obtain ⟨rfl, rfl, -⟩ := advance_standing advanced
        obtain ⟨result, s', extended, h⟩ := bind_eq_ok h
        rw [cons_of_next more] at taken enough
        obtain ⟨tree, rest', taken', fewer⟩ := parses_extend subs taken targeted tight extended
        simp only [List.length_cons] at enough
        exact ih taken' (by simp) (by omega) h
      · rename_i loose
        cases h
        refine ⟨left, rest, ?_, Int.not_lt.mp loose⟩
        rw [← taken.state]
        exact taken

end Expressions

/-- What an expression takes is a tree that may stand where the expression does. -/
theorem accepts_expression (memory : Memory σ) (levels : Nat) {strength : Int}
    (nonneg : 0 ≤ strength) : Accepts levels strength (expression memory levels strength) := by
  induction levels generalizing strength with
  | zero =>
      intro fault held symbols value after h
      cases h
  | succ levels ih =>
      intro fault held symbols value after h
      obtain ⟨symbol, s, advanced, h⟩ := bind_eq_ok h
      obtain ⟨rfl, rfl, whole⟩ := advance_standing advanced
      obtain ⟨a, s, begun, h⟩ := bind_eq_ok h
      obtain ⟨rounds, s', counted, h⟩ := bind_eq_ok h
      cases counted
      have more : next symbols ≠ .finish := by
        intro same
        rw [same] at begun
        cases begun
      obtain ⟨tree, rest, taken, target⟩ :=
        parses_operand (fun _ nonneg => ih nonneg) whole strength begun
      rw [← cons_of_next more] at taken
      refine parses_climb (fun _ nonneg => ih nonneg) nonneg taken (fun name same => ?_) ?_ h
      · rw [← target] at same
        cases tree with
        | reference other => exact congrArg Tree.reference (Option.some.inj same)
        | _ => cases same
      · rw [taken.state]
        cases rest <;> simp [standing]

theorem exists_tree_of_whole {memory : Memory σ} {levels : Nat} {fault : Option Error} {held : σ}
    {symbols : List Symbol} {found : Int64 × State σ} (proper : .finish ∉ symbols)
    (h : (whole memory levels).run
      { ahead := .finish, rest := symbols, fault, memory := held } = .ok found) :
    ∃ tree : Tree, symbols = tree.symbols ∧ fault = none ∧ tree.standsAt 0 = true ∧
      tree.levels ≤ levels := by
  have begun : ({ ahead := .finish, rest := symbols, fault, memory := held } : State σ) =
      standing fault held (.finish :: symbols) := rfl
  rw [begun, whole] at h
  obtain ⟨_, s, discarded, h⟩ := bind_eq_ok h
  obtain ⟨_, advanced⟩ := discard_eq_ok discarded
  obtain ⟨-, rfl, -⟩ := advance_standing advanced
  obtain ⟨value, s, ran, h⟩ := bind_eq_ok h
  obtain ⟨tree, rest, taken, -⟩ := accepts_expression memory levels (Int.le_refl 0) ran
  obtain ⟨ahead, s', peeked, h⟩ := bind_eq_ok h
  rw [taken.state, peek_standing] at peeked
  cases peeked
  have last : next rest = .finish := by
    split at h
    · assumption
    · cases h
  cases rest with
  | nil => exact ⟨tree, by simpa using taken.split, taken.whole rfl, taken.stands, taken.shallow⟩
  | cons first rest =>
      obtain rfl : first = .finish := last
      refine absurd ?_ proper
      rw [show symbols = _ from taken.split]
      simp

end EvalM

/-! ## Texts -/

theorem Symbol.finish_notMem_readAll (text : String) : .finish ∉ (readAll text).symbols := by
  intro member
  obtain ⟨offset, c, rest, left, begins, -⟩ := exists_beginning_of_mem_readFrom member
  have known : ∀ left, operator? (c :: rest) ≠ some (.finish, left) := by
    intro left found
    exact absurd (eq_append_of_operator? found).1 (by decide)
  unfold beginning beginNumber beginName beginDollar beginName at begins
  grind

/-- A text has a value exactly if it consists of the symbols of a tree that has one. -/
theorem evaluateWithin_eq_ok_iff {levels : Nat} {lookup : String → Option String} {text : String}
    {result : Result} : evaluateWithin levels lookup text = .ok result ↔
      ∃ tree : Tree, Symbol.readAll text = ⟨tree.symbols, none⟩ ∧ tree.standsAt 0 = true ∧
        tree.levels ≤ levels ∧ tree.meaning lookup [] = .ok (result.value, result.writes) := by
  have valued : ∀ {tree : Tree}, Symbol.readAll text = ⟨tree.symbols, none⟩ →
      tree.standsAt 0 = true → tree.levels ≤ levels →
      (evaluateWithin levels lookup text = .ok result ↔
        tree.meaning lookup [] = .ok (result.value, result.writes)) := by
    intro tree reads stands shallow
    rw [evaluateWithin_symbols lookup reads stands levels shallow]
    cases tree.meaning lookup [] with
    | error error => simp [Except.map]
    | ok found =>
        obtain ⟨value, writes⟩ := result
        simp [Except.map, Prod.ext_iff]
  constructor
  · intro h
    cases ran : (EvalM.whole (.pending lookup) levels).run
        ⟨.finish, (Symbol.readAll text).symbols, (Symbol.readAll text).fault, {}⟩ with
    | error error =>
        simp only [evaluateWithin, evaluateText, ran] at h
        cases h
    | ok found =>
        obtain ⟨tree, symbols, fault, stands, shallow⟩ :=
          EvalM.exists_tree_of_whole (Symbol.finish_notMem_readAll text) ran
        have reads : Symbol.readAll text = ⟨tree.symbols, none⟩ := by rw [← symbols, ← fault]
        exact ⟨tree, reads, stands, shallow, (valued reads stands shallow).mp h⟩
  · rintro ⟨tree, reads, stands, shallow, meaning⟩
    exact (valued reads stands shallow).mpr meaning

end Shell.Arith
