import Shell.Proofs.Arith.Grammar
import Shell.Proofs.Arith.Printing
import Shell.Proofs.Arith.Simulation

/-! # How deep an expression is nested

An evaluation without a limit counts how many expressions it evaluates at once. The limit refuses
exactly the expressions for which this is too much, and it changes nothing else. How long an
expression is does not matter.
-/

namespace Shell.Arith

/-! ## Evaluating without a limit -/

/-- Variables beside the most expressions that have been evaluated at once. -/
structure Measured (σ : Type) where
  held : σ
  most : Nat := 0
deriving Repr

def Memory.measured {σ : Type} (memory : Memory σ) : Memory (Measured σ) where
  read name state := memory.read name state.held
  write name value state := { state with held := memory.write name value state.held }
  fork before after := { after with held := memory.fork before.held after.held }
  join before after := { after with held := memory.join before.held after.held }

namespace EvalM

variable {σ : Type}

/-- Evaluates as `expression` does while some others are active, and counts. `calls` only bounds the
    recursion: where more calls would be needed, `exhausted` comes in their place. -/
def measured (memory : Memory σ) (exhausted : EvalM (Measured σ) Int64) :
    (calls active : Nat) → Int → EvalM (Measured σ) Int64
  | 0, _, _ => exhausted
  | calls + 1, active, strength => do
    revise fun state => { state with most := max state.most (active + 1) }
    let symbol ← advance
    let left ← operand memory.measured (measured memory exhausted calls (active + 1)) symbol
    climb memory.measured (measured memory exhausted calls (active + 1)) strength (← remaining)
      (target? symbol) left

def measuredWhole (memory : Memory σ) (exhausted : EvalM (Measured σ) Int64) (calls : Nat) :
    EvalM (Measured σ) Int64 := do
  discard advance
  let value ← measured memory exhausted calls 0 0
  match ← peek with
  | .finish => return value
  | other => throw (.expectedEnd other)

end EvalM

/-- An expression has a result without a limit, and so many expressions are evaluated at once where
    it is nested deepest. The calls that bound the recursion never run out, as the result is the
    same whatever comes where they do. -/
def Unlimited (lookup : String → Option String) (text : String) (result : Result) (depth : Nat) :
    Prop :=
  ∃ calls state, (∀ exhausted, (EvalM.measuredWhole (.pending lookup) exhausted calls).run
      ⟨.finish, (Symbol.readAll text).symbols, (Symbol.readAll text).fault, { held := {} }⟩ =
        .ok (result.value, state)) ∧
    result.writes = state.memory.held.writes ∧ depth = state.memory.most

/-! ## With a limit and without -/

namespace Measured

variable {σ : Type}

def plain (s : State (Measured σ)) : State σ :=
  { s with memory := s.memory.held }

variable {α β γ δ : Type}

/-- Where the first evaluation succeeds within a limit, so does the second, with what `view` makes
    of the same result. Where the first goes beyond the limit, the second fails. -/
def Limits (limit : Nat) (view : α → β) (first : EvalM (Measured σ) α) (second : EvalM σ β) :
    Prop :=
  ∀ s a s', first.run s = .ok (a, s') → s.memory.most ≤ s'.memory.most ∧
    (s.memory.most ≤ limit → second.run (plain s) =
      if s'.memory.most ≤ limit then .ok (view a, plain s') else .error .nestedTooDeeply)

variable {limit : Nat} {view : α → β} {onward : γ → δ}

theorem Limits.bind {first : EvalM (Measured σ) α} {second : EvalM σ β}
    {further : α → EvalM (Measured σ) γ} {next : β → EvalM σ δ}
    (h : Limits limit view first second)
    (rest : ∀ a, Limits limit onward (further a) (next (view a))) :
    Limits limit onward (first >>= further) (second >>= next) := by
  intro s c s'' ran
  obtain ⟨a, s', begun, ended⟩ := EvalM.bind_eq_ok ran
  obtain ⟨grows, runs⟩ := h s a s' begun
  obtain ⟨growsOn, runsOn⟩ := rest a s' c s'' ended
  refine ⟨Nat.le_trans grows growsOn, fun within => ?_⟩
  rw [EvalM.run_bind, runs within]
  by_cases still : s'.memory.most ≤ limit
  · rw [if_pos still]
    exact runsOn still
  · rw [if_neg still, if_neg fun most => still (Nat.le_trans growsOn most)]
    rfl

theorem Limits.of_steady {first : EvalM (Measured σ) α} {second : EvalM σ β}
    (steady : ∀ s a s', first.run s = .ok (a, s') → s'.memory.most = s.memory.most ∧
      second.run (plain s) = .ok (view a, plain s')) : Limits limit view first second := by
  intro s a s' ran
  obtain ⟨same, runs⟩ := steady s a s' ran
  exact ⟨Nat.le_of_eq same.symm, fun within => by rw [if_pos (same ▸ within), runs]⟩

theorem Limits.pure (a : α) : Limits (σ := σ) limit view (pure a) (pure (view a)) := by
  refine .of_steady fun s b s' ran => ?_
  cases ran
  exact ⟨rfl, rfl⟩

theorem Limits.throw (error error' : Error) :
    Limits (σ := σ) limit view (throw error) (throw error') :=
  fun _ _ _ ran => nomatch ran

theorem Limits.peek : Limits (σ := σ) limit id EvalM.peek EvalM.peek := by
  refine .of_steady fun s symbol s' ran => ?_
  cases ran
  exact ⟨rfl, rfl⟩

theorem Limits.remaining : Limits (σ := σ) limit id EvalM.remaining EvalM.remaining := by
  refine .of_steady fun s count s' ran => ?_
  cases ran
  exact ⟨rfl, rfl⟩

theorem Limits.snapshot :
    Limits (σ := σ) limit Measured.held EvalM.snapshot EvalM.snapshot := by
  refine .of_steady fun s state s' ran => ?_
  cases ran
  exact ⟨rfl, rfl⟩

theorem Limits.revise {change : Measured σ → Measured σ} {alter : σ → σ}
    (steady : ∀ state, change state = { state with held := alter state.held }) :
    Limits limit id (EvalM.revise change) (EvalM.revise alter) := by
  refine .of_steady fun s found s' ran => ?_
  cases ran
  have same := steady s.memory
  refine ⟨(congrArg Measured.most same :), ?_⟩
  show Except.ok ((), { plain s with memory := alter s.memory.held }) =
    .ok ((), { plain s with memory := (change s.memory).held })
  rw [same]

theorem Limits.advance : Limits (σ := σ) limit id EvalM.advance EvalM.advance := by
  refine .of_steady fun s symbol s' ran => ?_
  obtain ⟨ahead, rest, fault, memory⟩ := s
  cases rest with
  | cons next rest =>
      cases ran
      exact ⟨rfl, rfl⟩
  | nil =>
      cases fault with
      | some error => cases ran
      | none =>
          cases ran
          exact ⟨rfl, rfl⟩

theorem Limits.discard {first : EvalM (Measured σ) α} {second : EvalM σ β}
    (h : Limits limit view first second) : Limits limit id (discard first) (discard second) := by
  show Limits limit id (first >>= fun _ => Pure.pure ()) (second >>= fun _ => Pure.pure ())
  exact h.bind fun _ => .pure ()

theorem Limits.close (closer : Symbol) :
    Limits (σ := σ) limit id (EvalM.close closer) (EvalM.close closer) := by
  refine Limits.peek.bind fun ahead => ?_
  show Limits limit id (if ahead = closer then _ else _) (if ahead = closer then _ else _)
  split
  · exact Limits.advance.discard
  · exact .throw _ _

theorem Limits.applyBinary (op : BinaryOp) (left right : Int64) :
    Limits (σ := σ) limit id (EvalM.applyBinary op left right)
      (EvalM.applyBinary op left right) := by
  unfold EvalM.applyBinary
  cases op.apply left right with
  | none => exact .throw _ _
  | some value => exact .pure value

variable {memory : Memory σ}

theorem Limits.read (name : String) :
    Limits limit id (EvalM.read memory.measured name) (EvalM.read memory name) := by
  refine Limits.snapshot.bind fun state => ?_
  have same : memory.measured.read name state = memory.read name state.held := rfl
  rw [same]
  cases memory.read name state.held with
  | ok value => exact .pure value
  | error error => exact .throw _ _

variable {sub : Int → EvalM (Measured σ) Int64} {below : Int → EvalM σ Int64}

theorem Limits.operand (subs : ∀ strength, Limits limit id (sub strength) (below strength))
    (symbol : Symbol) :
    Limits limit id (EvalM.operand memory.measured sub symbol)
      (EvalM.operand memory below symbol) := by
  cases symbol with
  | literal value => exact .pure value
  | reference name => exact .read name
  | binary op =>
      cases op with
      | add => exact subs _
      | sub => exact (subs _).bind fun value => .pure (-value)
      | _ => exact .throw _ _
  | complement => exact (subs _).bind fun value => .pure (~~~value)
  | negation => exact (subs _).bind fun value => .pure (truth (value == 0))
  | opening => exact (subs _).bind fun value => (Limits.close _).bind fun _ => .pure value
  | logical | assign | closing | question | colon | finish => exact .throw _ _

theorem Limits.extend_assign (subs : ∀ strength, Limits limit id (sub strength) (below strength))
    (target : Option String) (left : Int64) (op : Option BinaryOp) :
    Limits limit id (EvalM.extend memory.measured sub target left (.assign op))
      (EvalM.extend memory below target left (.assign op)) := by
  cases target with
  | none => exact .throw _ _
  | some name =>
      have store : ∀ value, Limits limit id
          (EvalM.revise (memory.measured.write name value) >>= fun _ => Pure.pure value)
          (EvalM.revise (memory.write name value) >>= fun _ => Pure.pure value) :=
        fun value => (Limits.revise fun _ => rfl).bind fun _ => .pure value
      cases op with
      | none => exact (subs 0).bind store
      | some op => exact (subs 0).bind fun right => (Limits.applyBinary op left right).bind store

theorem Limits.extend_question
    (subs : ∀ strength, Limits limit id (sub strength) (below strength)) (target : Option String)
    (left : Int64) :
    Limits limit id (EvalM.extend memory.measured sub target left .question)
      (EvalM.extend memory below target left .question) :=
  Limits.snapshot.bind fun _ =>
  (subs 0).bind fun ifTrue =>
  (Limits.close _).bind fun _ =>
  (Limits.revise fun _ => rfl).bind fun _ =>
  (subs 0).bind fun ifFalse =>
  (Limits.revise fun _ => rfl).bind fun _ =>
  .pure (if left ≠ 0 then ifTrue else ifFalse)

theorem Limits.extend (subs : ∀ strength, Limits limit id (sub strength) (below strength))
    (target : Option String) (left : Int64) (symbol : Symbol) :
    Limits limit id (EvalM.extend memory.measured sub target left symbol)
      (EvalM.extend memory below target left symbol) := by
  cases symbol with
  | binary op => exact (subs _).bind fun right => .applyBinary op left right
  | logical op => exact (subs _).bind fun right => .pure (op.apply left right)
  | assign op => exact .extend_assign subs target left op
  | question => exact .extend_question subs target left
  | literal | reference | complement | negation | opening | closing | colon | finish =>
      exact .throw _ _

theorem Limits.climb (subs : ∀ strength, Limits limit id (sub strength) (below strength))
    (strength : Int) (rounds : Nat) (target : Option String) (left : Int64) :
    Limits limit id (EvalM.climb memory.measured sub strength rounds target left)
      (EvalM.climb memory below strength rounds target left) := by
  induction rounds generalizing target left with
  | zero => exact .pure left
  | succ rounds ih =>
      refine Limits.peek.bind fun ahead => ?_
      show Limits limit id (if strength < ahead.strength then _ else _)
        (if strength < ahead.strength then _ else _)
      split
      · exact Limits.advance.bind fun symbol => (Limits.extend subs target left symbol).bind
          fun value => ih none value
      · exact .pure left

/-- While some expressions are active, as many levels are left as the limit leaves. -/
theorem Limits.expression (memory : Memory σ) (error : Error) (limit calls active : Nat)
    (strength : Int) :
    Limits limit id (EvalM.measured memory (MonadExcept.throw error) calls active strength)
      (EvalM.expression memory (limit - active) strength) := by
  induction calls generalizing active strength with
  | zero => exact fun _ _ _ ran => nomatch ran
  | succ calls ih =>
      have body : Limits limit id _ (EvalM.expression memory (limit - (active + 1) + 1) strength) :=
        Limits.advance.bind fun symbol =>
        (Limits.operand (ih (active + 1)) symbol).bind fun left =>
        Limits.remaining.bind fun rounds =>
        Limits.climb (ih (active + 1)) strength rounds (EvalM.target? symbol) left
      intro s value s' ran
      obtain ⟨_, _, counted, ran⟩ := EvalM.bind_eq_ok ran
      cases counted
      obtain ⟨grows, runs⟩ := body _ _ _ ran
      have here : active + 1 ≤ s'.memory.most := Nat.le_trans (Nat.le_max_right _ _) grows
      refine ⟨Nat.le_trans (Nat.le_max_left _ _) grows, fun within => ?_⟩
      by_cases room : active + 1 ≤ limit
      · have levels : limit - active = limit - (active + 1) + 1 := by omega
        rw [levels]
        exact runs (Nat.max_le.mpr ⟨within, room⟩)
      · have levels : limit - active = 0 := by omega
        rw [levels, if_neg fun most => room (Nat.le_trans here most)]
        rfl

theorem Limits.whole (memory : Memory σ) (error : Error) (limit calls : Nat) :
    Limits limit id (EvalM.measuredWhole memory (MonadExcept.throw error) calls)
      (EvalM.whole memory limit) := by
  refine Limits.advance.discard.bind fun _ => (Limits.expression memory error limit calls 0 0).bind
    fun value => Limits.peek.bind fun ahead => ?_
  cases ahead with
  | finish => exact .pure value
  | _ => exact .throw _ _

end Measured

/-- What has a result without a limit has it with every limit that is not below its depth. -/
theorem Unlimited.evaluateWithin {lookup : String → Option String} {text : String}
    {result : Result} {depth : Nat} (unlimited : Unlimited lookup text result depth)
    (limit : Nat) : evaluateWithin limit lookup text =
      if depth ≤ limit then .ok result else .error .nestedTooDeeply := by
  obtain ⟨calls, state, ran, writes, rfl⟩ := unlimited
  obtain ⟨-, runs⟩ := Measured.Limits.whole _ .nestedTooDeeply limit calls _ _ _ (ran _)
  have limited := runs (Nat.zero_le limit)
  simp only [Arith.evaluateWithin, evaluateText]
  change (EvalM.whole (.pending lookup) limit).run ⟨.finish, (Symbol.readAll text).symbols,
    (Symbol.readAll text).fault, {}⟩ = _ at limited
  rw [limited]
  split
  · simp only [EvalM.ok_bind, EvalM.pure_eq_ok, Measured.plain, id_eq]
    rw [← writes]
  · rfl

/-! ## The depth of a tree -/

namespace Tree

variable {lookup : String → Option String}

theorem meaningWithin_eq_error {tree : Tree} {visible : Writes} {found : Int64 × Writes}
    (worth : tree.meaning lookup visible = .ok found) {levels : Nat} (few : levels < tree.levels) :
    tree.meaningWithin lookup levels visible = .error .nestedTooDeeply := by
  induction tree generalizing levels visible found with
  | literal | reference =>
      obtain rfl : levels = 0 := Nat.lt_one_iff.mp few
      rfl
  | group inner ih =>
      cases levels with
      | zero => rfl
      | succ levels => exact ih worth (Nat.lt_of_succ_lt_succ few)
  | unary op operand ih =>
      cases levels with
      | zero => rfl
      | succ levels =>
          obtain ⟨value, inside, -⟩ := EvalM.exists_of_bind_eq_ok worth
          rw [meaningWithin, ih inside (Nat.lt_of_succ_lt_succ few)]
          rfl
  | connect op left right ihl ihr =>
      cases levels with
      | zero => rfl
      | succ levels =>
          obtain ⟨⟨a, first⟩, lefts, worth⟩ := EvalM.exists_of_bind_eq_ok worth
          obtain ⟨b, rights, -⟩ := EvalM.exists_of_bind_eq_ok worth
          rw [meaningWithin]
          by_cases outer : left.levels ≤ levels + 1
          · have inner : levels < right.levels := by
              simp only [Tree.levels] at few
              omega
            rw [meaningWithin_eq_meaning outer, lefts]
            simp only [EvalM.ok_bind, ihr rights inner]
            rfl
          · rw [ihl lefts (Nat.lt_of_not_le outer)]
            rfl
  | choice condition ifTrue ifFalse ihc iht ihf =>
      cases levels with
      | zero => rfl
      | succ levels =>
          obtain ⟨⟨test, made⟩, tests, worth⟩ := EvalM.exists_of_bind_eq_ok worth
          obtain ⟨a, branch, worth⟩ := EvalM.exists_of_bind_eq_ok worth
          obtain ⟨b, other, -⟩ := EvalM.exists_of_bind_eq_ok worth
          rw [meaningWithin]
          by_cases outer : condition.levels ≤ levels + 1
          · rw [meaningWithin_eq_meaning outer, tests]
            simp only [EvalM.ok_bind]
            by_cases first : ifTrue.levels ≤ levels
            · have second : levels < ifFalse.levels := by
                simp only [Tree.levels] at few
                omega
              rw [meaningWithin_eq_meaning first, branch, EvalM.ok_bind, ihf other second]
              rfl
            · rw [iht branch (Nat.lt_of_not_le first)]
              rfl
          · rw [ihc tests (Nat.lt_of_not_le outer)]
            rfl
  | assign op name operand ih =>
      cases levels with
      | zero => rfl
      | succ levels =>
          obtain ⟨old, known, worth⟩ := EvalM.exists_of_bind_eq_ok worth
          obtain ⟨right, inside, -⟩ := EvalM.exists_of_bind_eq_ok worth
          rw [meaningWithin, known, EvalM.ok_bind, ih inside (Nat.lt_of_succ_lt_succ few)]
          rfl

end Tree

theorem evaluateWithin_of_meaning {lookup : String → Option String} {tree : Tree} {text : String}
    (reads : Symbol.readAll text = ⟨tree.symbols, none⟩) (stands : tree.standsAt 0 = true)
    {value : Int64} {writes : Writes} (worth : tree.meaning lookup [] = .ok (value, writes))
    (limit : Nat) : evaluateWithin limit lookup text =
      if tree.levels ≤ limit then .ok ⟨value, writes⟩ else .error .nestedTooDeeply := by
  rw [evaluateWithin_tree lookup reads stands]
  split
  · next enough => rw [Tree.meaningWithin_eq_meaning enough, worth]; rfl
  · next few => rw [Tree.meaningWithin_eq_error worth (Nat.lt_of_not_le few)]; rfl

/-- What has a result without a limit has the meaning of its tree. -/
theorem Unlimited.meaning {lookup : String → Option String} {text : String} {result : Result}
    {depth : Nat} (unlimited : Unlimited lookup text result depth) {tree : Tree}
    (reads : Symbol.readAll text = ⟨tree.symbols, none⟩) (stands : tree.standsAt 0 = true) :
    tree.meaning lookup [] = .ok (result.value, result.writes) := by
  have enough := evaluateWithin_symbols lookup reads stands (max depth tree.levels)
    (Nat.le_max_right _ _)
  rw [unlimited.evaluateWithin, if_pos (Nat.le_max_left _ _)] at enough
  cases worth : tree.meaning lookup [] with
  | error error =>
      rw [worth] at enough
      cases enough
  | ok found =>
      rw [worth] at enough
      cases enough
      rfl

/-! ## Expressions of one shape -/

namespace Tree

def nested : Nat → Tree → Tree
  | 0, tree => tree
  | n + 1, tree => group (nested n tree)

def joined (op : LogicalOp) : Int64 → List Int64 → Tree
  | first, [] => literal first
  | first, second :: rest => connect (.logical op) (literal first) (joined op second rest)

def assigning (chain : List (Option BinaryOp × String)) (tree : Tree) : Tree :=
  chain.foldr (fun entry value => assign entry.1 entry.2 value) tree

def summing (tree : Tree) (rest : List (BinaryOp × Int64)) : Tree :=
  rest.foldl (fun left entry => connect (.binary entry.1) left (literal entry.2)) tree

variable {lookup : String → Option String} {visible : Writes}

theorem symbols_nested (n : Nat) (tree : Tree) : (nested n tree).symbols =
    List.replicate n .opening ++ tree.symbols ++ List.replicate n .closing := by
  induction n with
  | zero => simp [nested]
  | succ n ih =>
      rw [nested, symbols, ih, List.replicate_succ, List.replicate_succ']
      simp

theorem standsAt_nested {n : Nat} {tree : Tree} (stands : tree.standsAt 0 = true) :
    (nested n tree).standsAt 0 = true := by
  induction n with
  | zero => exact stands
  | succ n ih => exact ih

theorem levels_nested (n : Nat) (tree : Tree) : (nested n tree).levels = tree.levels + n := by
  induction n with
  | zero => rfl
  | succ n ih => exact congrArg (· + 1) ih

theorem meaning_nested (n : Nat) (tree : Tree) :
    (nested n tree).meaning lookup visible = tree.meaning lookup visible := by
  induction n with
  | zero => rfl
  | succ n ih => exact ih

theorem symbols_signed (ops : List UnaryOp) (tree : Tree) :
    (ops.foldr unary tree).symbols = ops.map UnaryOp.symbol ++ tree.symbols := by
  induction ops with
  | nil => rfl
  | cons op ops ih => exact congrArg (op.symbol :: ·) ih

theorem standsAt_signed (ops : List UnaryOp) (value : Int64) (strength : Int) :
    (ops.foldr unary (literal value)).standsAt strength = true := by
  induction ops generalizing strength with
  | nil => rfl
  | cons op ops ih => exact ih _

theorem levels_signed (ops : List UnaryOp) (tree : Tree) :
    (ops.foldr unary tree).levels = tree.levels + ops.length := by
  induction ops with
  | nil => rfl
  | cons op ops ih => exact congrArg (· + 1) ih

theorem meaning_signed (ops : List UnaryOp) (value : Int64) :
    (ops.foldr unary (literal value)).meaning lookup visible =
      .ok (ops.foldr UnaryOp.apply value, []) := by
  induction ops with
  | nil => rfl
  | cons op ops ih =>
      rw [List.foldr_cons, meaning, ih]
      rfl

theorem symbols_assigning (chain : List (Option BinaryOp × String)) (tree : Tree) :
    (assigning chain tree).symbols =
      chain.flatMap (fun entry => [.reference entry.2, .assign entry.1]) ++ tree.symbols := by
  induction chain with
  | nil => rfl
  | cons entry chain ih => exact congrArg (.reference entry.2 :: .assign entry.1 :: ·) ih

theorem standsAt_assigning {chain : List (Option BinaryOp × String)} {tree : Tree}
    (stands : tree.standsAt 0 = true) : (assigning chain tree).standsAt 0 = true := by
  induction chain with
  | nil => exact stands
  | cons entry chain ih => exact ih

theorem levels_assigning (chain : List (Option BinaryOp × String)) (tree : Tree) :
    (assigning chain tree).levels = tree.levels + chain.length := by
  induction chain with
  | nil => rfl
  | cons entry chain ih => exact congrArg (· + 1) ih

theorem meaning_assigning {names : List String} (value : Int64)
    (known : ∀ name ∈ names, ∃ old, readVisible lookup name visible = .ok old) :
    (assigning (names.map fun name => (none, name)) (literal value)).meaning lookup visible =
      .ok (value, names.reverse.map fun name => (name, value)) := by
  induction names with
  | nil => rfl
  | cons name names ih =>
      obtain ⟨⟨old, here⟩, others⟩ := List.forall_mem_cons.mp known
      show (readVisible lookup name visible >>= _) = _
      rw [here, EvalM.ok_bind]
      show ((assigning _ _).meaning lookup visible >>= _) = _
      rw [ih others, List.reverse_cons, List.map_append]
      rfl

theorem symbols_joined (op : LogicalOp) (first : Int64) (rest : List Int64) :
    (joined op first rest).symbols =
      .literal first :: rest.flatMap fun value => [.logical op, .literal value] := by
  induction rest generalizing first with
  | nil => rfl
  | cons second rest ih => exact congrArg (.literal first :: .logical op :: ·) (ih second)

theorem standsAt_joined (op : LogicalOp) (first : Int64) (rest : List Int64) :
    (joined op first rest).standsAt (op.strength - 1) = true := by
  induction rest generalizing first with
  | nil => rfl
  | cons second rest ih =>
      have weaker : op.strength - 1 < op.strength := by omega
      simp [joined, standsAt, endsBefore, Connective.strength, Connective.bound, ih, weaker]

theorem levels_joined (op : LogicalOp) (first : Int64) (rest : List Int64) :
    (joined op first rest).levels = rest.length + 1 := by
  induction rest generalizing first with
  | nil => rfl
  | cons second rest ih => simp [joined, levels, ih]

theorem exists_meaning_joined (op : LogicalOp) (first : Int64) (rest : List Int64) :
    ∃ value, (joined op first rest).meaning lookup visible = .ok (value, []) := by
  induction rest generalizing first with
  | nil => exact ⟨first, rfl⟩
  | cons second rest ih =>
      obtain ⟨value, further⟩ := ih second
      refine ⟨op.apply first value, ?_⟩
      show ((joined op second rest).meaning lookup ([] ++ visible) >>= _) = _
      rw [List.nil_append, further]
      rfl

theorem symbols_summing (tree : Tree) (rest : List (BinaryOp × Int64)) :
    (summing tree rest).symbols =
      tree.symbols ++ rest.flatMap fun entry => [.binary entry.1, .literal entry.2] := by
  induction rest generalizing tree with
  | nil => simp [summing]
  | cons entry rest ih =>
      rw [summing, List.foldl_cons, ← summing, ih]
      simp [symbols, Connective.symbol]

theorem standsAt_summing {tree : Tree} {rest : List (BinaryOp × Int64)}
    (signs : ∀ entry ∈ rest, entry.1 = .add ∨ entry.1 = .sub) (stands : tree.standsAt 0 = true)
    (ends : tree.endsBefore BinaryOp.add.strength = true) :
    (summing tree rest).standsAt 0 = true := by
  induction rest generalizing tree with
  | nil => exact stands
  | cons entry rest ih =>
      obtain ⟨sign, others⟩ := List.forall_mem_cons.mp signs
      have strength : entry.1.strength = BinaryOp.add.strength := by
        rcases sign with sign | sign <;> rw [sign]
        rfl
      refine ih others ?_ ?_
      · simp only [standsAt, Connective.strength, strength, stands, ends, Bool.and_true]
        rfl
      · simp only [endsBefore, Connective.bound, strength, Bool.and_true]
        rfl

theorem levels_summing (tree : Tree) (rest : List (BinaryOp × Int64)) :
    (summing tree rest).levels ≤ max tree.levels 2 := by
  induction rest generalizing tree with
  | nil => exact Nat.le_max_left _ _
  | cons entry rest ih =>
      refine Nat.le_trans (ih _) ?_
      simp only [levels]
      omega

theorem exists_meaning_summing {tree : Tree} {rest : List (BinaryOp × Int64)}
    (signs : ∀ entry ∈ rest, entry.1 = .add ∨ entry.1 = .sub) {first : Int64}
    (worth : tree.meaning lookup visible = .ok (first, [])) :
    ∃ value, (summing tree rest).meaning lookup visible = .ok (value, []) := by
  induction rest generalizing tree first with
  | nil => exact ⟨first, worth⟩
  | cons entry rest ih =>
      obtain ⟨sign, others⟩ := List.forall_mem_cons.mp signs
      obtain ⟨sum, added⟩ : ∃ sum, entry.1.apply first entry.2 = some sum := by
        rcases sign with sign | sign <;> exact ⟨_, by rw [sign]; rfl⟩
      have further : (connect (.binary entry.1) tree (literal entry.2)).meaning lookup visible =
          .ok (sum, []) := by
        rw [meaning, worth, EvalM.ok_bind]
        simp only [meaning, Connective.apply, EvalM.pure_eq_ok, EvalM.ok_bind, added, orDivision]
        rfl
      exact ih others further

end Tree

section Shapes

variable {scope : Scope} {text : String}

theorem evaluate_of_meaning {tree : Tree} {symbols : List Symbol} {value : Int64} {writes : Writes}
    (written : tree.symbols = symbols) (reads : Symbol.readAll text = ⟨symbols, none⟩)
    (stands : tree.standsAt 0 = true)
    (worth : tree.meaning (scope.get? ·) [] = .ok (value, writes)) :
    evaluate scope text =
      if tree.levels ≤ 256 then .ok ⟨value, writes⟩ else .error .nestedTooDeeply := by
  subst written
  exact evaluateWithin_of_meaning reads stands worth 256

theorem evaluate_brackets {n : Nat} {value : Int64} (reads : Symbol.readAll text =
      ⟨List.replicate n .opening ++ .literal value :: List.replicate n .closing, none⟩) :
    evaluate scope text = if n < 256 then .ok ⟨value, []⟩ else .error .nestedTooDeeply := by
  have written : (Tree.nested n (.literal value)).symbols =
      List.replicate n .opening ++ .literal value :: List.replicate n .closing := by
    rw [Tree.symbols_nested, List.append_assoc]
    rfl
  have worth : (Tree.nested n (.literal value)).meaning (scope.get? ·) [] = .ok (value, []) :=
    Tree.meaning_nested n _
  rw [evaluate_of_meaning written reads (Tree.standsAt_nested rfl) worth, Tree.levels_nested]
  simp only [Tree.levels, Nat.add_comm 1, Nat.succ_le_iff]

theorem evaluate_signs {ops : List UnaryOp} {value : Int64}
    (reads : Symbol.readAll text = ⟨ops.map UnaryOp.symbol ++ [.literal value], none⟩) :
    evaluate scope text =
      if ops.length < 256 then .ok ⟨ops.foldr UnaryOp.apply value, []⟩
      else .error .nestedTooDeeply := by
  rw [evaluate_of_meaning (Tree.symbols_signed ops (.literal value)) reads
    (Tree.standsAt_signed ops value 0) (Tree.meaning_signed ops value), Tree.levels_signed]
  simp only [Tree.levels, Nat.add_comm 1, Nat.succ_le_iff]

theorem evaluate_assignments {chain : List (Option BinaryOp × String)} {value : Int64}
    (reads : Symbol.readAll text = ⟨chain.flatMap (fun entry =>
      [.reference entry.2, .assign entry.1]) ++ [.literal value], none⟩)
    {result : Int64} {writes : Writes}
    (worth : (Tree.assigning chain (.literal value)).meaning (scope.get? ·) [] =
      .ok (result, writes)) :
    evaluate scope text =
      if chain.length < 256 then .ok ⟨result, writes⟩ else .error .nestedTooDeeply := by
  rw [evaluate_of_meaning (Tree.symbols_assigning chain (.literal value)) reads
    (Tree.standsAt_assigning rfl) worth, Tree.levels_assigning]
  simp only [Tree.levels, Nat.add_comm 1, Nat.succ_le_iff]

theorem evaluate_joined {op : LogicalOp} {first : Int64} {rest : List Int64}
    (reads : Symbol.readAll text =
      ⟨.literal first :: rest.flatMap fun value => [.logical op, .literal value], none⟩) :
    ∃ value, evaluate scope text =
      if (first :: rest).length < 257 then .ok ⟨value, []⟩ else .error .nestedTooDeeply := by
  obtain ⟨value, worth⟩ : ∃ value, (Tree.joined op first rest).meaning (scope.get? ·) [] =
      .ok (value, []) := Tree.exists_meaning_joined op first rest
  have weaker : 0 ≤ op.strength - 1 := by cases op <;> decide
  refine ⟨value, ?_⟩
  rw [evaluate_of_meaning (Tree.symbols_joined op first rest) reads
    (Tree.standsAt_mono weaker (Tree.standsAt_joined op first rest)) worth, Tree.levels_joined]
  simp only [List.length_cons, Nat.lt_succ_iff]

theorem evaluate_sum {first : Int64} {rest : List (BinaryOp × Int64)}
    (reads : Symbol.readAll text =
      ⟨.literal first :: rest.flatMap fun entry => [.binary entry.1, .literal entry.2], none⟩)
    (signs : ∀ entry ∈ rest, entry.1 = .add ∨ entry.1 = .sub) :
    ∃ value, evaluate scope text = .ok ⟨value, []⟩ := by
  obtain ⟨value, worth⟩ : ∃ value, (Tree.summing (.literal first) rest).meaning (scope.get? ·) [] =
      .ok (value, []) := Tree.exists_meaning_summing signs rfl
  refine ⟨value, ?_⟩
  rw [evaluate_of_meaning (Tree.symbols_summing (.literal first) rest) reads
    (Tree.standsAt_summing signs rfl rfl) worth]
  have shallow : max (Tree.literal first).levels 2 ≤ 256 := show 2 ≤ 256 by decide
  exact if_pos (Nat.le_trans (Tree.levels_summing _ _) shallow)

end Shapes

/-- The limit of nesting is exact. An expression that has a result without a limit has the same one
    if at most 256 expressions are evaluated at once where it is nested deepest. Otherwise it fails
    for its nesting and nothing is assigned. So 256 brackets, signs or assignments before a number
    are too many, and so are 257 numbers joined by `&&` or by `||`, but numbers that are added and
    subtracted are never too many. -/
theorem nesting_limit_exact (scope : Scope) (text : String) :
    (∀ result depth, Unlimited (scope.get? ·) text result depth →
      evaluate scope text = (if depth ≤ 256 then .ok result else .error .nestedTooDeeply) ∧
      perform text scope =
        if depth ≤ 256 then (.ok result.value, commit result.writes scope)
        else (.error .nestedTooDeeply, scope)) ∧
    (∀ n value, Symbol.readAll text =
        ⟨List.replicate n .opening ++ .literal value :: List.replicate n .closing, none⟩ →
      evaluate scope text = if n < 256 then .ok ⟨value, []⟩ else .error .nestedTooDeeply) ∧
    (∀ (ops : List UnaryOp) value,
      Symbol.readAll text = ⟨ops.map UnaryOp.symbol ++ [.literal value], none⟩ →
      evaluate scope text =
        if ops.length < 256 then .ok ⟨ops.foldr UnaryOp.apply value, []⟩
        else .error .nestedTooDeeply) ∧
    (∀ (chain : List (Option BinaryOp × String)) value, Symbol.readAll text =
        ⟨chain.flatMap (fun entry => [.reference entry.2, .assign entry.1]) ++ [.literal value],
          none⟩ →
      ∀ result depth, Unlimited (scope.get? ·) text result depth → evaluate scope text =
        if chain.length < 256 then .ok result else .error .nestedTooDeeply) ∧
    (∀ (names : List String) value, Symbol.readAll text =
        ⟨names.flatMap (fun name => [.reference name, .assign none]) ++ [.literal value], none⟩ →
      (∀ name ∈ names, ∃ old, numberOf name (scope.get? name) = .ok old) →
      evaluate scope text =
        if names.length < 256 then .ok ⟨value, names.reverse.map fun name => (name, value)⟩
        else .error .nestedTooDeeply) ∧
    (∀ (op : LogicalOp) first (rest : List Int64), Symbol.readAll text =
        ⟨.literal first :: rest.flatMap fun value => [.logical op, .literal value], none⟩ →
      ∃ value, evaluate scope text =
        if (first :: rest).length < 257 then .ok ⟨value, []⟩ else .error .nestedTooDeeply) ∧
    ∀ first (rest : List (BinaryOp × Int64)), Symbol.readAll text =
        ⟨.literal first :: rest.flatMap fun entry => [.binary entry.1, .literal entry.2], none⟩ →
      (∀ entry ∈ rest, entry.1 = .add ∨ entry.1 = .sub) →
      ∃ value, evaluate scope text = .ok ⟨value, []⟩ := by
  refine ⟨fun result depth unlimited => ?_, fun n value => evaluate_brackets,
    fun ops value => evaluate_signs, fun chain value reads result depth unlimited => ?_,
    fun names value reads known => ?_, fun op first rest => evaluate_joined,
    fun first rest => evaluate_sum⟩
  · have limited : evaluate scope text = _ := unlimited.evaluateWithin 256
    refine ⟨limited, ?_⟩
    rw [perform, limited]
    by_cases shallow : depth ≤ 256
    · simp only [if_pos shallow]
    · simp only [if_neg shallow]
  · have written := Tree.symbols_assigning chain (.literal value)
    exact evaluate_assignments reads
      (unlimited.meaning (by rw [reads, written]; rfl) (Tree.standsAt_assigning rfl))
  · have worth : (Tree.assigning (names.map fun name => (none, name)) (.literal value)).meaning
        (scope.get? ·) [] = _ := Tree.meaning_assigning value known
    rw [← List.flatMap_map (fun name => (none, name)) fun entry : Option BinaryOp × String =>
      [Symbol.reference entry.2, .assign entry.1]] at reads
    have limited := evaluate_assignments reads worth
    rwa [List.length_map] at limited

/-- The inner assignment is one of four expressions that are evaluated at once. With 256 brackets,
    signs or assignments before a number there are 257. -/
theorem nesting_limit_exact_256 :
    let scope := Scope.empty.set "x" "5"
    let signs : Tree := (List.replicate 256 UnaryOp.minus).foldr .unary (.literal 7)
    let assignments : Tree :=
      .assigning ((List.replicate 256 "x").map fun name => (none, name)) (.literal 7)
    evaluate scope "x = ( 1 + 2 ) * x" = .ok ⟨15, [("x", 15)]⟩ ∧
    evaluate scope (Tree.nested 256 (.literal 7)).print = .error .nestedTooDeeply ∧
    evaluate scope signs.print = .error .nestedTooDeeply ∧
    evaluate scope "x += x -= 7" = .ok ⟨3, [("x", -2), ("x", 3)]⟩ ∧
    evaluate scope assignments.print = .error .nestedTooDeeply ∧
    (∃ value, evaluate scope "1 || 0" = .ok ⟨value, []⟩) ∧
    ∃ value, evaluate scope "1 + 2 - 4" = .ok ⟨value, []⟩ := by
  intro scope signs assignments
  have spelled : ∀ (tree : Tree) {text : String} {symbols : List Symbol},
      tree.isWritable = true → tree.print = text → tree.symbols = symbols →
      Symbol.readAll text = ⟨symbols, none⟩ := by
    rintro tree _ _ writable rfl rfl
    exact Symbol.readAll_spells (Tree.spells_print writable)
  have product : Symbol.readAll "x = ( 1 + 2 ) * x" = ⟨[.reference "x", .assign none, .opening,
      .literal 1, .binary .add, .literal 2, .closing, .binary .mul, .reference "x"], none⟩ :=
    spelled (.assign none "x" (.connect (.binary .mul)
      (.group (.connect (.binary .add) (.literal 1) (.literal 2))) (.reference "x")))
      (by decide +kernel) (by decide +kernel) rfl
  have nested : Unlimited (scope.get? ·) "x = ( 1 + 2 ) * x" ⟨15, [("x", 15)]⟩ 4 := by
    refine ⟨4, ⟨.finish, [], none, ⟨⟨[("x", 15)], [("x", 15)]⟩, 4⟩⟩, fun exhausted => ?_, rfl, rfl⟩
    rw [product]
    rfl
  have brackets : Symbol.readAll (Tree.nested 256 (.literal 7)).print =
      ⟨List.replicate 256 .opening ++ .literal 7 :: List.replicate 256 .closing, none⟩ := by
    refine spelled _ rfl rfl ?_
    rw [Tree.symbols_nested, List.append_assoc, Tree.symbols, List.singleton_append]
  have signed := (nesting_limit_exact scope _).2.2.1 (List.replicate 256 .minus) 7
    (spelled signs (by decide +kernel) rfl (Tree.symbols_signed _ _))
  have chain : Symbol.readAll "x += x -= 7" = ⟨[.reference "x", .assign (some .add),
      .reference "x", .assign (some .sub), .literal 7], none⟩ :=
    spelled (.assigning [(some .add, "x"), (some .sub, "x")] (.literal 7))
      (by decide +kernel) (by decide +kernel) rfl
  have chained : Unlimited (scope.get? ·) "x += x -= 7" ⟨3, [("x", -2), ("x", 3)]⟩ 3 := by
    refine ⟨3, ⟨.finish, [], none,
      ⟨⟨[("x", -2), ("x", 3)], [("x", 3), ("x", -2)]⟩, 3⟩⟩, fun exhausted => ?_, rfl, rfl⟩
    rw [chain]
    rfl
  have names : ∀ names : List String,
      (Tree.assigning (names.map fun name => (none, name)) (.literal 7)).symbols =
        names.flatMap (fun name => [.reference name, .assign none]) ++ [.literal 7] := by
    intro names
    rw [Tree.symbols_assigning, List.flatMap_map, Tree.symbols]
  have known : ∀ name ∈ List.replicate 256 "x", ∃ old,
      numberOf name (scope.get? name) = .ok old := by
    intro name member
    rw [List.eq_of_mem_replicate member]
    exact ⟨5, rfl⟩
  have assigned := (nesting_limit_exact scope _).2.2.2.2.1 (List.replicate 256 "x") 7
    (spelled assignments (by decide +kernel) rfl (names _)) known
  rw [List.length_replicate] at signed assigned
  exact ⟨((nesting_limit_exact scope _).1 _ _ nested).1,
    (nesting_limit_exact scope _).2.1 256 7 brackets, signed,
    (nesting_limit_exact scope _).2.2.2.1 [(some .add, "x"), (some .sub, "x")] 7 chain _ _ chained,
    assigned,
    (nesting_limit_exact scope _).2.2.2.2.2.1 .either 1 [0]
      (spelled (.joined .either 1 [0]) (by decide +kernel) (by decide +kernel) rfl),
    (nesting_limit_exact scope _).2.2.2.2.2.2 1 [(.add, 2), (.sub, 4)]
      (spelled (.summing (.literal 1) [(.add, 2), (.sub, 4)]) (by decide +kernel)
        (by decide +kernel) rfl) (by decide)⟩

end Shell.Arith
