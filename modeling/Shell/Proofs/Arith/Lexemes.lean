import Shell.Proofs.Arith.Grammar
import Shell.Proofs.Arith.Integer

/-! # How a text is divided into symbols

Symbols with blanks between them are read as they are, however each is spelled. Without blanks the
longest operator is taken, so two operators are read as one after the other unless a longer one
than the first begins both.
-/

namespace Shell.Arith.Symbol

/-! ## Numbers -/

theorem isSpace_of_isPart {c : Char} (part : Name.isPart c = true) : Text.isSpace c = false := by
  have bounds : ∀ a b : Char, a ≤ b ↔ a.val.toNat ≤ b.val.toNat :=
    fun a b => UInt32.le_iff_toNat_le
  have same : c = '_' ↔ c.val.toNat = 95 := by
    rw [Char.ext_iff, ← UInt32.toNat_inj]
    rfl
  simp only [Name.isPart, Name.isStart, Bool.or_eq_true, beq_iff_eq, Bool.and_eq_true,
    decide_eq_true_eq, bounds, same] at part
  simp only [Text.isSpace, Bool.or_eq_false_iff, Bool.and_eq_false_iff, decide_eq_false_iff_not,
    beq_eq_false_iff_ne, ne_eq, UInt32.le_iff_toNat_le, ← UInt32.toNat_inj]
  simp at part ⊢
  omega

theorem isDigit_of_unsigned {text : List Char} {n : Nat} (numeral : Numeral.Unsigned text n) :
    ∃ first rest, text = first :: rest ∧ isDigit first = true ∧
      ∀ c ∈ rest, Name.isPart c = true := by
  have decimal : ∀ d < 10, isDigit (Nat.digitChar d) = true ∧
      isDigit (Nat.digitChar d).toUpper = true := by decide
  have part : ∀ d < 16, Name.isPart (Nat.digitChar d) = true ∧
      Name.isPart (Nat.digitChar d).toUpper = true := by decide
  cases numeral with
  | @hexadecimal x text n letter digits =>
      refine ⟨'0', x :: text, rfl, rfl, List.forall_mem_cons.mpr ⟨?_, digits.all _ part⟩⟩
      rcases letter with rfl | rfl <;> rfl
  | @octal text n digits =>
      exact ⟨'0', text, rfl, rfl, digits.all _ fun d small => part d (by omega)⟩
  | zero => exact ⟨'0', [], rfl, rfl, nofun⟩
  | @decimal c text n _ digits =>
      obtain ⟨first, rest⟩ := List.forall_mem_cons.mp (digits.all (isDigit · = true) decimal)
      exact ⟨c, text, rfl, first, fun c member => isPart_of_isDigit (rest c member)⟩

theorem written_literal_iff {value : Int64} {text : List Char} :
    Written (.literal value) text ↔ ∃ n : Nat, Numeral.Unsigned text n ∧ value.toInt = n := by
  constructor
  · intro written
    cases written with
    | @numeral _ first rest digit parts reads =>
        have solid : ∀ c ∈ first :: rest, Text.isSpace c = false :=
          List.forall_mem_cons.mpr ⟨isSpace_of_isPart (isPart_of_isDigit digit),
            fun c member => isSpace_of_isPart (parts c member)⟩
        rw [Numeral.read?_eq_some_iff_signed, Text.trim_eq_self solid] at reads
        generalize same : value.toInt = n at reads
        cases reads with
        | plain numeral => exact ⟨_, numeral, rfl⟩
        | plus | minus => cases digit
    | operator known => simp [operators] at known
  · rintro ⟨n, numeral, same⟩
    have reads : Numeral.read? text = some value := by
      rw [Numeral.read?_eq_some_iff_signed, Text.trim_eq_self numeral.isSpace, same]
      exact .plain numeral
    obtain ⟨first, rest, rfl, digit, parts⟩ := isDigit_of_unsigned numeral
    exact .numeral digit parts reads

/-! ## The longest operator -/

def width (op : Symbol) : Nat :=
  op.text.toList.length

/-- An operator begins a text, and no longer one does. -/
structure IsLongest (op : Symbol) (text : List Char) : Prop where
  known : op ∈ operators
  begins : op.text.toList <+: text
  longest : ∀ other ∈ operators, other.text.toList <+: text → other.width ≤ op.width

theorem operators_descend : operators.Pairwise fun op later => later.width ≤ op.width := by
  decide

theorem eq_of_text_eq {op other : Symbol} (known : op ∈ operators) (known' : other ∈ operators)
    (same : op.text.toList = other.text.toList) : op = other := by
  have found := operator?_text known
  rw [same, operator?_text known'] at found
  exact (Prod.mk.inj (Option.some.inj found)).1.symm

theorem IsLongest.eq {op other : Symbol} {text : List Char} (here : IsLongest op text)
    (here' : IsLongest other text) : op = other := by
  have same : op.width = other.width :=
    Nat.le_antisymm (here'.longest op here.known here.begins)
      (here.longest other here'.known here'.begins)
  exact eq_of_text_eq here.known here'.known
    ((List.prefix_of_prefix_length_le here.begins here'.begins same.le).eq_of_length same)

theorem isLongest_of_operator? {text left : List Char} {op : Symbol}
    (found : operator? text = some (op, left)) : IsLongest op text := by
  obtain ⟨known, whole⟩ := eq_append_of_operator? found
  obtain ⟨earlier, first, later, divided, begins, none⟩ := List.findSome?_eq_some_iff.mp found
  obtain ⟨_, -, same⟩ := Option.map_eq_some_iff.mp begins
  obtain rfl : first = op := congrArg Prod.fst same
  refine ⟨known, ⟨left, whole.symm⟩, fun other known' begins' => ?_⟩
  -- The operators before it do not begin the text, and those after it are no longer.
  rw [divided] at known'
  rcases List.mem_append.mp known' with before | rest
  · obtain ⟨rest, rfl⟩ := begins'
    have absent := none other before
    rw [Option.map_eq_none_iff] at absent
    rw [Text.after?_eq_some_iff.mpr rfl] at absent
    cases absent
  · rcases List.mem_cons.mp rest with rfl | after
    · exact Nat.le_refl _
    · have descend := operators_descend
      rw [divided] at descend
      exact (List.pairwise_cons.mp (List.pairwise_append.mp descend).2.1).1 other after

theorem exists_operator? {op : Symbol} (known : op ∈ operators) {text : List Char}
    (begins : op.text.toList <+: text) :
    ∃ other left, operator? text = some (other, left) := by
  cases found : operator? text with
  | none =>
      obtain ⟨left, rfl⟩ := begins
      have absent := List.findSome?_eq_none_iff.mp found op known
      rw [Option.map_eq_none_iff, Text.after?_eq_some_iff.mpr rfl] at absent
      cases absent
  | some result => exact ⟨result.1, result.2, rfl⟩

theorem IsLongest.operator? {text : List Char} {op : Symbol} (here : IsLongest op text) :
    ∃ left, text = op.text.toList ++ left ∧ operator? text = some (op, left) := by
  obtain ⟨other, left, found⟩ := exists_operator? here.known here.begins
  obtain rfl := here.eq (isLongest_of_operator? found)
  exact ⟨left, (eq_append_of_operator? found).2, found⟩

/-- A text that makes no operator longer when it stands after one. -/
def EndsOperators (rest : List Char) : Prop :=
  ∀ c ∈ rest.head?, ∀ op ∈ operators, c ∉ op.text.toList.tail

theorem readFrom_operator {text left rest : List Char} {op : Symbol} (ends : EndsOperators rest)
    (found : operator? text = some (op, left)) (offset : Nat) :
    readFrom offset (text ++ rest) = (readFrom (offset + op.width) (left ++ rest)).prepend op := by
  obtain ⟨known, whole⟩ := eq_append_of_operator? found
  obtain ⟨c, tail, spelling, solid, number, name, decoration⟩ := begins_operator known
  rw [spelling, List.cons_append] at whole
  subst whole
  have longer := operator?_append ends c (tail ++ left)
  rw [found, List.cons_append] at longer
  have begins : beginning offset c (tail ++ left ++ rest) = .symbol op (left ++ rest) := by
    rw [beginning, if_neg (by simp [solid]), if_neg (by simp [number]), if_neg (by simp [name]),
      if_neg decoration, longer]
    rfl
  rw [List.cons_append, readFrom_symbol begins, width, spelling]
  congr 2
  simp only [List.length_append, List.length_cons]
  omega

section Adjacent

variable {first second : Symbol} (known : first ∈ operators) {rest : List Char}
  (ends : EndsOperators rest) (offset : Nat)
include known ends

theorem readFrom_adjacent (known' : second ∈ operators)
    (longest : ∀ op ∈ operators, first.width < op.width →
      ¬op.text.toList <+: first.text.toList ++ second.text.toList) :
    readFrom offset (first.text.toList ++ second.text.toList ++ rest) =
      ((readFrom (offset + first.width + second.width) rest).prepend second).prepend first := by
  have here : IsLongest first (first.text.toList ++ second.text.toList) :=
    ⟨known, List.prefix_append _ _,
      fun op known' begins => Nat.not_lt.mp fun longer => longest op known' longer begins⟩
  obtain ⟨left, split, found⟩ := here.operator?
  obtain rfl := List.append_cancel_left split
  rw [readFrom_operator ends found, readFrom_operator ends (operator?_text known'), List.nil_append]

theorem readFrom_merged {both : List Char} (begins : first.text.toList <+: both) :
    ∃ op left, IsLongest op both ∧ both = op.text.toList ++ left ∧
      readFrom offset (both ++ rest) =
        (readFrom (offset + op.width) (left ++ rest)).prepend op := by
  obtain ⟨op, left, found⟩ := exists_operator? known begins
  exact ⟨op, left, isLongest_of_operator? found, (eq_append_of_operator? found).2,
    readFrom_operator ends found offset⟩

end Adjacent

/-! ## Variables -/

theorem readFrom_reference {name : String} {text back : List Char}
    (written : Written (.reference name) text) (ends : EndsName back) (offset : Nat) :
    readFrom offset (text ++ back) =
      (readFrom (offset + text.length) back).prepend (.reference name) := by
  obtain ⟨c, tail, rfl, begins⟩ := beginning_reference written ends offset
  rw [List.cons_append, readFrom_symbol begins]
  congr 2
  simp only [List.length_append, List.length_cons]
  omega

/-- Where the second piece of a text stands shows only in the error that it ends with. -/
theorem followedBy_moved_eq_iff {first second : Reading} {distance : Nat} {symbols : List Symbol} :
    first.followedBy (second.moved distance) = ⟨symbols, none⟩ ↔
      first.followedBy second = ⟨symbols, none⟩ := by
  obtain ⟨before, fault⟩ := first
  cases fault with
  | some error => rfl
  | none => simp [Reading.moved]

/-- At the beginning and after a blank, a text is read as if nothing stood in front of it. -/
theorem readFrom_after {front : List Char} (apart : ∀ c ∈ front.getLast?, isBlank c = true)
    (text : List Char) :
    readFrom 0 (front ++ text) =
      (readFrom 0 front).followedBy ((readFrom 0 text).moved front.length) := by
  rw [← readFrom_moved, Nat.zero_add]
  rcases List.eq_nil_or_concat front with rfl | ⟨front, c, rfl⟩
  · rw [readFrom, Reading.followedBy_whole]
    rfl
  · have blank : isBlank c = true := apart c (by simp)
    have alone := readFrom_append_blank blank 0 front []
    have whole := readFrom_append_blank blank 0 front text
    rw [List.concat_eq_append, List.append_assoc, alone, List.singleton_append, whole, readFrom]
    obtain ⟨symbols, fault⟩ := readFrom 0 front
    cases fault with
    | some error => rfl
    | none => simp

theorem readFrom_front {name : String} {front text back : List Char}
    (written : Written (.reference name) text) (apart : ∀ c ∈ front.getLast?, isBlank c = true)
    (ends : EndsName back) {symbols : List Symbol} :
    readFrom 0 (front ++ (text ++ back)) = ⟨symbols, none⟩ ↔
      (readFrom 0 front).followedBy ((readFrom 0 back).prepend (.reference name)) =
        ⟨symbols, none⟩ := by
  have moved := readFrom_moved 0 text.length back
  rw [readFrom_after apart, followedBy_moved_eq_iff, readFrom_reference written ends, moved]
  exact @followedBy_moved_eq_iff _ ((readFrom 0 back).prepend (.reference name)) _ _

/-- Whether a text has a value does not depend on how a variable in it is spelled, nor which. -/
theorem evaluate_exchange {name : String} {front text text' back : List Char}
    (written : Written (.reference name) text) (written' : Written (.reference name) text')
    (apart : ∀ c ∈ front.getLast?, isBlank c = true) (ends : EndsName back) {scope : Scope}
    {result : Result} :
    evaluate scope (String.ofList (front ++ (text ++ back))) = .ok result ↔
      evaluate scope (String.ofList (front ++ (text' ++ back))) = .ok result := by
  simp only [evaluate, evaluateWithin_eq_ok_iff, readAll, String.toList_ofList,
    readFrom_front written apart ends, readFrom_front written' apart ends]

theorem perform_eq_of_evaluate {first second : String} {scope : Scope}
    (same : ∀ result, evaluate scope first = .ok result ↔ evaluate scope second = .ok result) :
    (perform first scope).2 = (perform second scope).2 := by
  cases found : evaluate scope first with
  | ok result => simp only [perform, found, (same result).mp found]
  | error error =>
      cases found' : evaluate scope second with
      | ok result => simp [(same result).mpr found'] at found
      | error error' => simp only [perform, found, found']

/-- Reading gives back symbols that were written with blanks between them: numbers as numerals in
    any base, variables in any of three ways, and operators. So how a variable is spelled makes no
    difference to an evaluation and to what it assigns; nor does it where something else follows
    that does not continue the name. Two operators without a blank are read as these two, unless a
    longer one than the first begins both of them together. Then the longest that does is read
    first. -/
theorem symbols_recovered :
    (∀ (symbols : List Symbol) (text : String), Spells symbols text.toList →
      readAll text = ⟨symbols, none⟩) ∧
    (∀ (value : Int64) (text : List Char), Written (.literal value) text ↔
      ∃ n : Nat, Numeral.Unsigned text n ∧ value.toInt = n) ∧
    (∀ (symbols : List Symbol) (first second : String) (scope : Scope),
      Spells symbols first.toList → Spells symbols second.toList →
      evaluate scope first = evaluate scope second ∧
        perform first scope = perform second scope) ∧
    (∀ (name : String) (front text text' back : List Char) (scope : Scope),
      Written (.reference name) text → Written (.reference name) text' →
      (∀ c ∈ front.getLast?, isBlank c = true) → EndsName back →
      (∀ result, evaluate scope (String.ofList (front ++ (text ++ back))) = .ok result ↔
        evaluate scope (String.ofList (front ++ (text' ++ back))) = .ok result) ∧
      (perform (String.ofList (front ++ (text ++ back))) scope).2 =
        (perform (String.ofList (front ++ (text' ++ back))) scope).2) ∧
    ∀ first ∈ operators, ∀ second ∈ operators, ∀ (rest : List Char) (offset : Nat),
      EndsOperators rest →
      let both := first.text.toList ++ second.text.toList
      ((∀ op ∈ operators, first.width < op.width → ¬op.text.toList <+: both) →
        readFrom offset (both ++ rest) =
          ((readFrom (offset + first.width + second.width) rest).prepend second).prepend first) ∧
      ∀ longer ∈ operators, first.width < longer.width → longer.text.toList <+: both →
        ∃ op left, IsLongest op both ∧ first.width < op.width ∧ both = op.text.toList ++ left ∧
          readFrom offset (both ++ rest) =
            (readFrom (offset + op.width) (left ++ rest)).prepend op := by
  refine ⟨fun symbols text spelled => readAll_spells spelled, fun value text => written_literal_iff,
    ?_, ?_, ?_⟩
  · intro symbols first second scope spelled spelled'
    have same : evaluate scope first = evaluate scope second := by
      simp only [evaluate, evaluateWithin, evaluateText, readAll_spells spelled,
        readAll_spells spelled']
    exact ⟨same, by rw [perform, same, perform]⟩
  · intro name front text text' back scope written written' apart ends
    exact ⟨fun result => evaluate_exchange written written' apart ends,
      perform_eq_of_evaluate fun result => evaluate_exchange written written' apart ends⟩
  · intro first known second known' rest offset ends both
    refine ⟨readFrom_adjacent known ends offset known', fun longer member wider begins => ?_⟩
    obtain ⟨op, left, here, split, reads⟩ :=
      readFrom_merged known ends offset (List.prefix_append _ second.text.toList)
    exact ⟨op, left, here, Nat.lt_of_lt_of_le wider (here.longest longer member begins), split,
      reads⟩

/-- A variable in braces beside the same one without, a number in two bases, and operators that are
    part of a longer one or are not. -/
theorem symbols_recovered_shifts :
    readAll "$\x7bx\x7d\t<<=\r0x1F" =
      ⟨[.reference "x", .assign (some .shiftLeft), .literal 31], none⟩ ∧
    (∀ scope, evaluate scope "$\x7bx\x7d\t<<=\r0x1F" = evaluate scope "x <<=\n037") ∧
    evaluate Scope.empty "2 * ( $x=7)" = .ok ⟨14, [("x", 7)]⟩ ∧
    readFrom 0 ['&', '~', '1'] = ⟨[.binary .bitAnd, .complement, .literal 1], none⟩ ∧
    ∃ op left, IsLongest op ['<', '<', '='] ∧ 2 < op.width ∧
      ['<', '<', '='] = op.text.toList ++ left ∧
      readFrom 5 ['<', '<', '=', ' '] = (readFrom (5 + op.width) (left ++ [' '])).prepend op := by
  obtain ⟨recovers, -, alike, exchanges, adjacent⟩ := symbols_recovered
  have blank : ∀ {c : Char} {rest : List Char}, isBlank c = true → Ends (c :: rest) := by
    rintro c rest solid _ ⟨⟩
    exact solid
  have shift : Symbol.assign (some .shiftLeft) ∈ operators := by decide
  have valid : Name.isValid "x".toList = true := by decide
  have braces : Spells [.reference "x", .assign (some .shiftLeft), .literal 31]
      "$\x7bx\x7d\t<<=\r0x1F".toList := by
    have split : "$\x7bx\x7d\t<<=\r0x1F".toList = '$' :: '\x7b' :: ("x".toList ++ ['\x7d']) ++
        '\t' :: ((assign (some .shiftLeft)).text.toList ++
          '\r' :: (['0', 'x', '1', 'F'] ++ [])) := by decide +kernel
    rw [split]
    exact .symbol (.braced valid) (blank rfl) (.blank rfl (.symbol (.operator shift) (blank rfl)
      (.blank rfl (.symbol (.numeral rfl (List.all_eq_true.mp rfl) (by decide)) nofun .done))))
  have bare : Spells [.reference "x", .assign (some .shiftLeft), .literal 31]
      "x <<=\n037".toList := by
    have split : "x <<=\n037".toList = "x".toList ++
        ' ' :: ((assign (some .shiftLeft)).text.toList ++ '\n' :: (['0', '3', '7'] ++ [])) := by
      decide +kernel
    rw [split]
    exact .symbol (.bare valid) (blank rfl) (.blank rfl (.symbol (.operator shift) (blank rfl)
      (.blank rfl (.symbol (.numeral rfl (List.all_eq_true.mp rfl) (by decide)) nofun .done))))
  refine ⟨recovers _ _ braces, fun scope => (alike _ _ _ scope braces bare).1, ?_, ?_, ?_⟩
  · have same := (exchanges "x" ['2', ' ', '*', ' ', '(', ' '] _ _ ['=', '7', ')'] Scope.empty
      (.dollar valid) (.bare valid) (by rintro c ⟨⟩; rfl) (by rintro c ⟨⟩; rfl)).1 ⟨14, [("x", 7)]⟩
    have dollar : String.ofList (['2', ' ', '*', ' ', '(', ' '] ++ ('$' :: "x".toList ++
        ['=', '7', ')'])) = "2 * ( $x=7)" := by decide +kernel
    rw [dollar] at same
    exact same.mpr (by decide +kernel)
  · have apart := (adjacent (.binary .bitAnd) (by decide) .complement (by decide) ['1'] 0
      (by rintro c ⟨⟩; decide)).1 (by decide)
    have both : (Symbol.binary .bitAnd).text.toList ++ Symbol.complement.text.toList =
        ['&', '~'] := by decide
    have one : readFrom 2 ['1'] = ⟨[.literal 1], none⟩ :=
      readFrom_written (.numeral rfl (List.all_eq_true.mp rfl) (by decide)) 2
    have offset : 0 + width (.binary .bitAnd) + width .complement = 2 := by decide
    rw [both, offset, one] at apart
    exact apart
  · have merged := (adjacent (.binary .shiftLeft) (by decide) (.assign none) (by decide) [' '] 5
      (by rintro c ⟨⟩; decide)).2 (.assign (some .shiftLeft)) shift (by decide) (by decide)
    have both : (Symbol.binary .shiftLeft).text.toList ++ (Symbol.assign none).text.toList =
        ['<', '<', '='] := by decide
    have narrow : width (.binary .shiftLeft) = 2 := by decide
    rw [both, narrow] at merged
    exact merged

end Shell.Arith.Symbol
