import Shell.Proofs.Arith.Steps

/-! # Comparing two evaluations

Two evaluations of the same symbols run in step when their variables answer every read alike.
The first may keep its variables in another way than the second, or allow fewer levels of
nesting; then it may also fail with an error that the second does not have. What holds between
their variables may be another thing in each branch of a choice. Each step is compared once, and
`Comparison.bind` puts them together.
-/

namespace Shell.Arith

/-- How the first of two evaluations is compared with the second; `ι` says in which branch. -/
structure Comparison (ι σ τ : Type) where
  /-- What holds between the variables of both at the same moment. -/
  related : ι → σ → τ → Prop
  /-- The symbols that may come. -/
  admits : Symbol → Prop
  /-- The errors of the first that the second need not have. -/
  excuses : Error → Prop

namespace Comparison

variable {ι σ τ : Type}

/-- A choice leads from one branch into another before the colon and into a third after it, and what
    holds there carries over to the branch that the choice stands in. -/
def Splits (c : Comparison ι σ τ) (first : Memory σ) (second : Memory τ) (branch : ι) (s : σ)
    (t : τ) : Prop :=
  ∃ ifTrue, c.related ifTrue s t ∧ ∀ s' t', c.related ifTrue s' t' →
    ∃ ifFalse, c.related ifFalse (first.fork s s') (second.fork t t') ∧
      ∀ s'' t'', c.related ifFalse s'' t'' →
        c.related branch (first.join s s'') (second.join t t'')

theorem Splits.same {c : Comparison ι σ τ} {first : Memory σ} {second : Memory τ} {branch : ι}
    {s : σ} {t : τ} (start : c.related branch s t)
    (fork : ∀ s' t', c.related branch s' t' →
      c.related branch (first.fork s s') (second.fork t t'))
    (join : ∀ s' t', c.related branch s' t' →
      c.related branch (first.join s s') (second.join t t')) :
    c.Splits first second branch s t :=
  ⟨branch, start, fun s' t' related => ⟨branch, fork s' t' related, join⟩⟩

/-- Both ways of keeping variables give the same answers and stay related. -/
structure Respects (c : Comparison ι σ τ) (first : Memory σ) (second : Memory τ) : Prop where
  finish : c.admits .finish
  read {name : String} {branch s t} : c.admits (.reference name) → c.related branch s t →
    first.read name s = second.read name t
  write (name : String) (value : Int64) {branch s t} : c.related branch s t →
    c.related branch (first.write name value s) (second.write name value t)
  choice {branch s t} : c.admits .question → c.related branch s t →
    c.Splits first second branch s t

/-- Both stand before the same symbols. -/
structure Alike (c : Comparison ι σ τ) (branch : ι) (s : State σ) (t : State τ) : Prop where
  ahead : s.ahead = t.ahead
  rest : s.rest = t.rest
  fault : s.fault = t.fault
  memory : c.related branch s.memory t.memory
  admitted : ∀ symbol ∈ s.ahead :: s.rest, c.admits symbol

theorem Alike.eq {c : Comparison ι σ τ} {branch : ι} {s : State σ} {t : State τ}
    (alike : c.Alike branch s t) :
    s = { ahead := t.ahead, rest := t.rest, fault := t.fault, memory := s.memory } := by
  rw [← alike.ahead, ← alike.rest, ← alike.fault]

theorem Alike.revise {c : Comparison ι σ τ} {branch other : ι} {s : State σ} {t : State τ}
    (alike : c.Alike branch s t) {held : σ} {kept : τ} (related : c.related other held kept) :
    c.Alike other { s with memory := held } { t with memory := kept } :=
  ⟨alike.ahead, alike.rest, alike.fault, related, alike.admitted⟩

variable {α β γ δ : Type}

/-- Both end in the same way, or the first with an error that is excused. -/
inductive Agrees (c : Comparison ι σ τ) (branch : ι) (same : α → β → Prop) :
    Except Error (α × State σ) → Except Error (β × State τ) → Prop where
  | excused {error : Error} {second : Except Error (β × State τ)} :
    c.excuses error → Agrees c branch same (.error error) second
  | error (error : Error) : Agrees c branch same (.error error) (.error error)
  | ok {a : α} {b : β} {s : State σ} {t : State τ} :
    same a b → c.Alike branch s t → Agrees c branch same (.ok (a, s)) (.ok (b, t))

/-- From like states, both run alike. -/
def Simulates (c : Comparison ι σ τ) (branch : ι) (same : α → β → Prop) (first : EvalM σ α)
    (second : EvalM τ β) : Prop :=
  ∀ s t, c.Alike branch s t → c.Agrees branch same (first.run s) (second.run t)

variable {c : Comparison ι σ τ} {branch : ι} {same : α → β → Prop} {equal : γ → δ → Prop}

/-! ## Steps -/

theorem pure {a : α} {b : β} (h : same a b) : c.Simulates branch same (pure a) (pure b) :=
  fun _ _ alike => .ok h alike

theorem throw (error : Error) : c.Simulates branch same (throw error) (throw error) :=
  fun _ _ _ => .error error

/-- What follows may go on in another branch. -/
theorem Agrees.bind {other : ι} {left : Except Error (α × State σ)}
    {right : Except Error (β × State τ)} {further : α × State σ → Except Error (γ × State σ)}
    {onward : β × State τ → Except Error (δ × State τ)} (h : c.Agrees branch same left right)
    (next : ∀ a b s t, same a b → c.Alike branch s t →
      c.Agrees other equal (further (a, s)) (onward (b, t))) :
    c.Agrees other equal (left >>= further) (right >>= onward) := by
  cases h with
  | excused allowed => exact .excused allowed
  | error error => exact .error error
  | ok found alike => exact next _ _ _ _ found alike

theorem bind {first : EvalM σ α} {second : EvalM τ β} {further : α → EvalM σ γ}
    {onward : β → EvalM τ δ} (h : c.Simulates branch same first second)
    (next : ∀ a b, same a b → c.Simulates branch equal (further a) (onward b)) :
    c.Simulates branch equal (first >>= further) (second >>= onward) :=
  fun s t alike => (h s t alike).bind fun a b s' t' found alike' => next a b found s' t' alike'

theorem discard {first : EvalM σ α} {second : EvalM τ β} (h : c.Simulates branch same first second) :
    c.Simulates branch Eq (discard first) (discard second) :=
  bind h fun _ _ _ => pure rfl

theorem peek : c.Simulates branch (fun a b => a = b ∧ c.admits a) EvalM.peek EvalM.peek :=
  fun _ _ alike => .ok ⟨alike.ahead, alike.admitted _ (by simp)⟩ alike

theorem remaining : c.Simulates branch Eq EvalM.remaining EvalM.remaining :=
  fun _ _ alike => .ok (congrArg (·.length + 1) alike.rest) alike

theorem snapshot : c.Simulates branch (c.related branch) EvalM.snapshot EvalM.snapshot :=
  fun _ _ alike => .ok alike.memory alike

theorem advance (finish : c.admits .finish) :
    c.Simulates branch (fun a b => a = b ∧ c.admits a) EvalM.advance EvalM.advance := by
  rintro ⟨ahead, rest, fault, held⟩ ⟨ahead', rest', fault', held'⟩
    ⟨sameAhead, sameRest, sameFault, memory, known⟩
  simp only at sameAhead sameRest sameFault memory known
  subst sameAhead sameRest sameFault
  cases rest with
  | cons next rest =>
      exact .ok ⟨rfl, known ahead (by simp)⟩
        ⟨rfl, rfl, rfl, memory, fun symbol member => known symbol (List.mem_cons_of_mem _ member)⟩
  | nil =>
      cases fault with
      | some error => exact .error error
      | none =>
          exact .ok ⟨rfl, known ahead (by simp)⟩
            ⟨rfl, rfl, rfl, memory, List.forall_mem_singleton.mpr finish⟩

theorem revise {change : σ → σ} {alter : τ → τ}
    (h : ∀ s t, c.related branch s t → c.related branch (change s) (alter t)) :
    c.Simulates branch Eq (EvalM.revise change) (EvalM.revise alter) :=
  fun _ _ alike => .ok rfl (alike.revise (h _ _ alike.memory))

theorem applyBinary (op : BinaryOp) (left right : Int64) :
    c.Simulates branch Eq (EvalM.applyBinary op left right) (EvalM.applyBinary op left right) := by
  unfold EvalM.applyBinary
  cases op.apply left right with
  | none => exact throw _
  | some value => exact pure rfl

variable {first : Memory σ} {second : Memory τ}

theorem close (finish : c.admits .finish) (closer : Symbol) :
    c.Simulates branch Eq (EvalM.close closer) (EvalM.close closer) := by
  refine bind peek ?_
  rintro ahead _ ⟨rfl, -⟩
  split
  · exact discard (advance finish)
  · exact throw _

theorem read (respects : c.Respects first second) {name : String}
    (admitted : c.admits (.reference name)) :
    c.Simulates branch Eq (EvalM.read first name) (EvalM.read second name) := by
  refine bind snapshot ?_
  intro s t related
  rw [respects.read admitted related]
  cases second.read name t with
  | ok value => exact pure rfl
  | error error => exact throw error

/-! ## Expressions -/

variable {sub : Int → EvalM σ Int64} {below : Int → EvalM τ Int64}

theorem operand (respects : c.Respects first second)
    (subs : ∀ strength, c.Simulates branch Eq (sub strength) (below strength)) {symbol : Symbol}
    (admitted : c.admits symbol) :
    c.Simulates branch Eq (EvalM.operand first sub symbol) (EvalM.operand second below symbol) := by
  cases symbol with
  | literal value => exact pure rfl
  | reference name => exact read respects admitted
  | binary op =>
      cases op with
      | add => exact subs _
      | sub => exact bind (subs _) fun _ _ equal => pure (congrArg _ equal)
      | _ => exact throw _
  | complement => exact bind (subs _) fun _ _ equal => pure (congrArg _ equal)
  | negation =>
      exact bind (subs _) fun _ _ equal => pure (congrArg (fun value => truth (value == 0)) equal)
  | opening =>
      exact bind (subs _) fun _ _ equal => bind (close respects.finish _) fun _ _ _ => pure equal
  | logical | assign | closing | question | colon | finish => exact throw _

theorem extend_assign (respects : c.Respects first second)
    (subs : ∀ strength, c.Simulates branch Eq (sub strength) (below strength))
    (target : Option String) (left : Int64) (op : Option BinaryOp) :
    c.Simulates branch Eq (EvalM.extend first sub target left (.assign op))
      (EvalM.extend second below target left (.assign op)) := by
  cases target with
  | none => exact throw _
  | some name =>
      refine bind (subs 0) ?_
      rintro right _ rfl
      have store : ∀ value, c.Simulates branch Eq
          (EvalM.revise (first.write name value) >>= fun _ => Pure.pure value)
          (EvalM.revise (second.write name value) >>= fun _ => Pure.pure value) :=
        fun value => bind (revise fun _ _ => respects.write name value) fun _ _ _ => pure rfl
      cases op with
      | none => exact store right
      | some op =>
          refine bind (applyBinary op left right) ?_
          rintro value _ rfl
          exact store value

theorem extend_question (respects : c.Respects first second) (admitted : c.admits .question)
    (subs : ∀ branch strength, c.Simulates branch Eq (sub strength) (below strength))
    (target : Option String) (left : Int64) :
    c.Simulates branch Eq (EvalM.extend first sub target left .question)
      (EvalM.extend second below target left .question) := by
  intro s t alike
  obtain ⟨ifTrue, started, forks⟩ := respects.choice admitted alike.memory
  refine (subs ifTrue 0 s t (alike.revise started)).bind ?_
  rintro a _ s' t' rfl alike'
  refine (close respects.finish .colon s' t' alike').bind fun _ _ s' t' _ alike' => ?_
  obtain ⟨ifFalse, forked, joins⟩ := forks s'.memory t'.memory alike'.memory
  refine (subs ifFalse 0 _ _ (alike'.revise forked)).bind ?_
  rintro b _ s'' t'' rfl alike''
  exact .ok rfl (alike''.revise (joins _ _ alike''.memory))

theorem extend (respects : c.Respects first second)
    (subs : ∀ branch strength, c.Simulates branch Eq (sub strength) (below strength))
    (target : Option String) (left : Int64) {symbol : Symbol} (admitted : c.admits symbol) :
    c.Simulates branch Eq (EvalM.extend first sub target left symbol)
      (EvalM.extend second below target left symbol) := by
  cases symbol with
  | binary op =>
      refine bind (subs branch _) ?_
      rintro right _ rfl
      exact applyBinary op left right
  | logical op => exact bind (subs branch _) fun _ _ equal => pure (congrArg _ equal)
  | assign op => exact extend_assign respects (subs branch) target left op
  | question => exact extend_question respects admitted subs target left
  | literal | reference | complement | negation | opening | closing | colon | finish =>
      exact throw _

theorem climb (respects : c.Respects first second)
    (subs : ∀ branch strength, c.Simulates branch Eq (sub strength) (below strength))
    (strength : Int) (rounds : Nat) (target : Option String) (left : Int64) :
    c.Simulates branch Eq (EvalM.climb first sub strength rounds target left)
      (EvalM.climb second below strength rounds target left) := by
  induction rounds generalizing target left with
  | zero => exact pure rfl
  | succ rounds ih =>
      refine bind peek ?_
      rintro ahead _ ⟨rfl, -⟩
      split
      · refine bind (advance respects.finish) ?_
        rintro symbol _ ⟨rfl, admitted⟩
        refine bind (extend respects subs target left admitted) ?_
        rintro value _ rfl
        exact ih none value
      · exact pure rfl

theorem expression (respects : c.Respects first second) {few many : Nat}
    (levels : few = many ∨ few ≤ many ∧ c.excuses .nestedTooDeeply) (strength : Int) :
    c.Simulates branch Eq (EvalM.expression first few strength)
      (EvalM.expression second many strength) := by
  induction few generalizing branch many strength with
  | zero =>
      rcases levels with rfl | ⟨-, excused⟩
      · exact throw _
      · exact fun _ _ _ => .excused excused
  | succ few ih =>
      obtain ⟨many, rfl⟩ : ∃ more, many = more + 1 :=
        ⟨many - 1, by rcases levels with rfl | ⟨le, -⟩ <;> omega⟩
      have subs (branch : ι) (strength : Int) : c.Simulates branch Eq
          (EvalM.expression first few strength) (EvalM.expression second many strength) :=
        ih (levels.imp Nat.succ.inj fun h => ⟨Nat.le_of_succ_le_succ h.1, h.2⟩) strength
      refine bind (advance respects.finish) ?_
      rintro symbol _ ⟨rfl, admitted⟩
      refine bind (operand respects (subs branch) admitted) ?_
      rintro left _ rfl
      refine bind remaining ?_
      rintro rounds _ rfl
      exact climb respects subs strength rounds _ left

theorem whole (respects : c.Respects first second) {few many : Nat}
    (levels : few = many ∨ few ≤ many ∧ c.excuses .nestedTooDeeply) :
    c.Simulates branch Eq (EvalM.whole first few) (EvalM.whole second many) := by
  refine bind (discard (advance respects.finish)) fun _ _ _ => ?_
  refine bind (expression respects levels 0) ?_
  rintro value _ rfl
  refine bind peek ?_
  rintro ahead _ ⟨rfl, -⟩
  split
  · exact pure rfl
  · exact throw _

/-- Two evaluations of one text, from variables that are related. -/
theorem evaluateText (respects : c.Respects first second) {few many : Nat}
    (levels : few = many ∨ few ≤ many ∧ c.excuses .nestedTooDeeply) (text : String)
    (known : ∀ symbol ∈ (Symbol.readAll text).symbols, c.admits symbol) {s : σ} {t : τ}
    (start : c.related branch s t) :
    (∃ error, c.excuses error ∧ evaluateText first few text s = .error error) ∨
      (∃ error, evaluateText first few text s = .error error ∧
        evaluateText second many text t = .error error) ∨
      ∃ value s' t', evaluateText first few text s = .ok (value, s') ∧
        evaluateText second many text t = .ok (value, t') ∧ c.related branch s' t' := by
  have runs := whole respects levels _ _
    (⟨rfl, rfl, rfl, start, List.forall_mem_cons.mpr ⟨respects.finish, known⟩⟩ :
      c.Alike branch ⟨.finish, (Symbol.readAll text).symbols, (Symbol.readAll text).fault, s⟩
        ⟨.finish, (Symbol.readAll text).symbols, (Symbol.readAll text).fault, t⟩)
  simp only [Arith.evaluateText]
  generalize (EvalM.whole first few).run _ = left at runs ⊢
  generalize (EvalM.whole second many).run _ = right at runs ⊢
  cases runs with
  | excused allowed => exact .inl ⟨_, allowed, rfl⟩
  | error error => exact .inr (.inl ⟨error, rfl, rfl⟩)
  | ok equal alike =>
      subst equal
      exact .inr (.inr ⟨_, _, _, rfl, rfl, alike.memory⟩)

end Comparison

/-- How an evaluation is compared with one that has more levels of nesting. -/
def deeper : Comparison Unit Pending Pending where
  related _ := Eq
  admits _ := True
  excuses := (· = .nestedTooDeeply)

theorem deeper_respects (lookup : String → Option String) :
    deeper.Respects (.pending lookup) (.pending lookup) where
  finish := trivial
  read := by rintro name _ _ t - rfl; rfl
  write := by rintro name value _ _ t rfl; rfl
  choice := by
    rintro _ t _ - rfl
    exact .same rfl (by rintro t' _ rfl; rfl) (by rintro t' _ rfl; rfl)

theorem evaluateWithin_mono {few many : Nat} (h : few ≤ many) (lookup : String → Option String)
    {text : String} (enough : evaluateWithin few lookup text ≠ .error .nestedTooDeeply) :
    evaluateWithin many lookup text = evaluateWithin few lookup text := by
  have same := Comparison.evaluateText (deeper_respects lookup) (.inr ⟨h, rfl⟩) text
    (fun _ _ => trivial) (show deeper.related () {} {} from rfl)
  unfold evaluateWithin at enough ⊢
  rcases same with ⟨error, rfl, failed⟩ | ⟨error, failed, failed'⟩ |
    ⟨value, held, _, runs, runs', rfl⟩
  · rw [failed] at enough
    exact absurd rfl enough
  · rw [failed, failed']
  · rw [runs, runs']

end Shell.Arith
