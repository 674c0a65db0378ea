import Shell.Arith.Symbol.Read

/-! # Reading a text piece by piece

Some characters continue no symbol: a blank, a bracket, a sign. Where a text is cut in front of one
of them, reading it is reading the first piece and then the other, unless the first piece ends at a
fault. A piece is read alike wherever it stands. Everything about texts that are put together
follows from these two equations.
-/

namespace Shell.Arith

/-- A reading that goes on with another one, unless it has ended at a fault. -/
def Reading.followedBy (first second : Reading) : Reading :=
  match first.fault with
  | some _ => first
  | none => ⟨first.symbols ++ second.symbols, second.fault⟩

def Beginning.before (more : List Char) : Beginning → Beginning
  | .blank rest => .blank (rest ++ more)
  | .symbol op rest => .symbol op (rest ++ more)
  | .fault error => .fault error

def Error.moved (distance : Nat) : Error → Error
  | unknownText text offset => unknownText text (offset + distance)
  | other => other

/-- The same reading of a text that stands further on. -/
def Reading.moved (distance : Nat) (reading : Reading) : Reading :=
  { reading with fault := reading.fault.map (Error.moved distance) }

def Beginning.moved (distance : Nat) : Beginning → Beginning
  | .fault error => .fault (error.moved distance)
  | other => other

namespace Reading

@[simp] theorem followedBy_failed (error : Error) (second : Reading) :
    (failed error).followedBy second = failed error := rfl

@[simp] theorem followedBy_whole (symbols : List Symbol) (second : Reading) :
    followedBy ⟨symbols, none⟩ second = ⟨symbols ++ second.symbols, second.fault⟩ := rfl

theorem followedBy_prepend (symbol : Symbol) (first second : Reading) :
    (first.prepend symbol).followedBy second = (first.followedBy second).prepend symbol := by
  obtain ⟨symbols, fault⟩ := first
  cases fault <;> rfl

end Reading

namespace Symbol

/-- True for a character that continues no symbol. -/
def isBreak (c : Char) : Bool :=
  !Name.isPart c && c != '\x7b' && c != '\x7d' &&
    operators.all fun op => !op.text.toList.tail.contains c

/-- The text ends here, or goes on with a character that continues no symbol. -/
def Breaks (rest : List Char) : Prop :=
  ∀ c ∈ rest.head?, isBreak c = true

theorem isPart_of_isBreak {c : Char} (h : isBreak c = true) : Name.isPart c = false := by
  simp only [isBreak, Bool.and_eq_true, Bool.not_eq_true'] at h
  exact h.1.1.1

theorem isStart_of_isBreak {c : Char} (h : isBreak c = true) : Name.isStart c = false := by
  have part := isPart_of_isBreak h
  simp only [Name.isPart, Bool.or_eq_false_iff] at part
  exact part.1

theorem notMem_tail_of_isBreak {c : Char} (h : isBreak c = true) {op : Symbol}
    (known : op ∈ operators) : c ∉ op.text.toList.tail := by
  simp only [isBreak, Bool.and_eq_true, List.all_eq_true, Bool.not_eq_true',
    List.contains_eq_mem, decide_eq_false_iff_not] at h
  exact h.2 op known

theorem ne_of_isBreak {c : Char} (h : isBreak c = true) : c ≠ '\x7b' ∧ c ≠ '\x7d' := by
  simp only [isBreak, Bool.and_eq_true, bne_iff_ne] at h
  exact ⟨h.1.1.2, h.1.2⟩

/-! ## What stands at the beginning -/

theorem takeWhile_isPart {rest : List Char} (breaks : Breaks rest) (text : List Char) :
    (text ++ rest).takeWhile Name.isPart = text.takeWhile Name.isPart := by
  induction text with
  | nil =>
      cases rest with
      | nil => rfl
      | cons c more => simp [isPart_of_isBreak (breaks c rfl)]
  | cons c text ih => simp only [List.cons_append, List.takeWhile_cons, ih]

theorem dropWhile_isPart {rest : List Char} (breaks : Breaks rest) (text : List Char) :
    (text ++ rest).dropWhile Name.isPart = text.dropWhile Name.isPart ++ rest := by
  induction text with
  | nil =>
      cases rest with
      | nil => rfl
      | cons c more => simp [isPart_of_isBreak (breaks c rfl)]
  | cons c text ih =>
      simp only [List.cons_append, List.dropWhile_cons, ih]
      split <;> rfl

theorem beginNumber_append {rest : List Char} (breaks : Breaks rest) (first : Char)
    (text : List Char) :
    beginNumber first (text ++ rest) = (beginNumber first text).before rest := by
  delta beginNumber
  simp only [takeWhile_isPart breaks, dropWhile_isPart breaks]
  split <;> rfl

theorem beginName_append {rest : List Char} (breaks : Breaks rest) (first : Char)
    (text : List Char) :
    beginName first (text ++ rest) = (beginName first text).before rest := by
  simp only [beginName, takeWhile_isPart breaks, dropWhile_isPart breaks, Beginning.before]

theorem beginDollar_append {rest : List Char} (breaks : Breaks rest) (offset : Nat)
    (text : List Char) :
    beginDollar offset (text ++ rest) = (beginDollar offset text).before rest := by
  have nothing : beginDollar offset rest = .fault (.unknownText "$" offset) := by
    cases rest with
    | nil => rfl
    | cons c more =>
        have brace := ne_of_isBreak (breaks c rfl)
        simp [beginDollar, brace.1, isStart_of_isBreak (breaks c rfl)]
  cases text with
  | nil => exact nothing
  | cons c text =>
      by_cases brace : c = '\x7b'
      · subst brace
        cases text with
        | nil =>
            cases rest with
            | nil => rfl
            | cons d more => simp [beginDollar, isStart_of_isBreak (breaks d rfl), Beginning.before]
        | cons first text =>
            simp only [List.cons_append, beginDollar, takeWhile_isPart breaks,
              dropWhile_isPart breaks]
            split
            · cases text.dropWhile Name.isPart with
              | nil =>
                  cases rest with
                  | nil => rfl
                  | cons d more => simp [(ne_of_isBreak (breaks d rfl)).2, Beginning.before]
              | cons d left =>
                  by_cases closes : d = '\x7d'
                  · subst closes
                    rfl
                  · simp [closes, Beginning.before]
            · rfl
      · simp only [List.cons_append, beginDollar]
        split
        · exact beginName_append breaks c text
        · rfl

theorem after?_append {start rest : List Char} (apart : ∀ c ∈ rest.head?, c ∉ start)
    (text : List Char) :
    Text.after? start (text ++ rest) = (Text.after? start text).map (· ++ rest) := by
  induction start generalizing text with
  | nil => rfl
  | cons c start ih =>
      cases text with
      | nil =>
          cases rest with
          | nil => rfl
          | cons d more =>
              have different : c ≠ d := by
                rintro rfl
                exact apart c rfl List.mem_cons_self
              simp [Text.after?, different]
      | cons d text =>
          simp only [List.cons_append, Text.after?]
          split
          · exact ih (fun c here member => apart c here (List.mem_cons_of_mem _ member)) text
          · rfl

theorem operator?_append {rest : List Char}
    (apart : ∀ d ∈ rest.head?, ∀ op ∈ operators, d ∉ op.text.toList.tail) (c : Char)
    (text : List Char) :
    operator? (c :: text ++ rest) =
      (operator? (c :: text)).map fun found => (found.1, found.2 ++ rest) := by
  have each : ∀ op ∈ operators, Text.after? op.text.toList (c :: text ++ rest) =
      (Text.after? op.text.toList (c :: text)).map (· ++ rest) := by
    intro op known
    cases spelling : op.text.toList with
    | nil => rfl
    | cons first further =>
        have beyond : ∀ d ∈ rest.head?, d ∉ further := by
          intro d here
          have := apart d here op known
          rwa [spelling] at this
        simp only [List.cons_append, Text.after?]
        split
        · exact after?_append beyond text
        · rfl
  have all : ∀ ops : List Symbol, (∀ op ∈ ops, op ∈ operators) →
      ops.findSome? (fun op => (Text.after? op.text.toList (c :: text ++ rest)).map (op, ·)) =
        (ops.findSome? fun op => (Text.after? op.text.toList (c :: text)).map (op, ·)).map
          fun found => (found.1, found.2 ++ rest) := by
    intro ops known
    induction ops with
    | nil => rfl
    | cons op ops ih =>
        rw [List.forall_mem_cons] at known
        rw [List.findSome?_cons, List.findSome?_cons, each op known.1, ih known.2]
        cases Text.after? op.text.toList (c :: text) <;> rfl
  exact all operators fun _ known => known

/-- What stands at the beginning of a text does not depend on what follows a break. -/
theorem beginning_append {rest : List Char} (breaks : Breaks rest) (offset : Nat) (c : Char)
    (text : List Char) :
    beginning offset c (text ++ rest) = (beginning offset c text).before rest := by
  unfold beginning
  split
  · rfl
  split
  · exact beginNumber_append breaks c text
  split
  · exact beginName_append breaks c text
  split
  · exact beginDollar_append breaks offset text
  · rw [← List.cons_append,
      operator?_append fun d here op known => notMem_tail_of_isBreak (breaks d here) known]
    cases operator? (c :: text) <;> rfl

/-! ## Whole texts -/

theorem readFrom_blank {offset : Nat} {c : Char} {rest left : List Char}
    (h : beginning offset c rest = .blank left) :
    readFrom offset (c :: rest) = readFrom (offset + 1) left := by
  rw [readFrom]
  split <;> simp_all

theorem readFrom_symbol {offset : Nat} {c : Char} {symbol : Symbol} {rest left : List Char}
    (h : beginning offset c rest = .symbol symbol left) :
    readFrom offset (c :: rest) =
      (readFrom (offset + 1 + rest.length - left.length) left).prepend symbol := by
  rw [readFrom]
  split <;> simp_all

theorem readFrom_fault {offset : Nat} {c : Char} {error : Error} {rest : List Char}
    (h : beginning offset c rest = .fault error) :
    readFrom offset (c :: rest) = .failed error := by
  rw [readFrom]
  split <;> simp_all

/-- A text that is cut at a break is read piece by piece. -/
theorem readFrom_append {rest : List Char} (breaks : Breaks rest) (offset : Nat)
    (text : List Char) :
    readFrom offset (text ++ rest) =
      (readFrom offset text).followedBy (readFrom (offset + text.length) rest) := by
  induction offset, text using readFrom.induct with
  | case1 offset => simp [readFrom]
  | case2 offset c text left begins ih =>
      have begins' := beginning_append breaks offset c text
      rw [begins] at begins'
      have same := rest_of_beginning_blank begins
      rw [List.cons_append, readFrom_blank begins', readFrom_blank begins, ih, same]
      simp only [List.length_cons, Nat.add_assoc, Nat.add_comm 1]
  | case3 offset c text symbol left begins ih =>
      have begins' := beginning_append breaks offset c text
      rw [begins] at begins'
      have shorter := length_of_beginning begins
      rw [List.cons_append, readFrom_symbol begins', readFrom_symbol begins,
        Reading.followedBy_prepend]
      have start : offset + 1 + (text ++ rest).length - (left ++ rest).length =
          offset + 1 + text.length - left.length := by
        simp only [List.length_append]
        omega
      have finish : offset + 1 + text.length - left.length + left.length =
          offset + (c :: text).length := by
        simp only [List.length_cons]
        omega
      rw [start, ih, finish]
  | case4 offset c text error begins =>
      have begins' := beginning_append breaks offset c text
      rw [begins] at begins'
      rw [List.cons_append, readFrom_fault begins', readFrom_fault begins,
        Reading.followedBy_failed]

/-! ## Texts that stand further on -/

theorem beginning_moved (offset distance : Nat) (c : Char) (rest : List Char) :
    beginning (offset + distance) c rest = (beginning offset c rest).moved distance := by
  unfold beginning beginNumber beginDollar beginName
  split
  · rfl
  split
  · simp only
    split <;> rfl
  split
  · rfl
  split
  · split
    · rfl
    · split
      · split
        · simp only
          split <;> rfl
        · rfl
      · rfl
    · split <;> rfl
  · split <;> rfl

/-- Where a text stands shows only in the error that its reading ends with. -/
theorem readFrom_moved (offset distance : Nat) (text : List Char) :
    readFrom (offset + distance) text = (readFrom offset text).moved distance := by
  induction offset, text using readFrom.induct with
  | case1 offset => simp [readFrom, Reading.moved]
  | case2 offset c rest left begins ih =>
      have begins' := beginning_moved offset distance c rest
      rw [begins] at begins'
      rw [readFrom_blank begins', readFrom_blank begins, ← ih, Nat.add_right_comm]
  | case3 offset c rest symbol left begins ih =>
      have begins' := beginning_moved offset distance c rest
      rw [begins] at begins'
      have shorter := length_of_beginning begins
      have start : offset + distance + 1 + rest.length - left.length =
          offset + 1 + rest.length - left.length + distance := by omega
      rw [readFrom_symbol begins', readFrom_symbol begins, start, ih]
      rfl
  | case4 offset c rest error begins =>
      have begins' := beginning_moved offset distance c rest
      rw [begins] at begins'
      rw [readFrom_fault begins', readFrom_fault begins]
      rfl

end Symbol

end Shell.Arith
