import Shell.Arith.Symbol
import Shell.Name
import Shell.Text.Space

/-! # Reading the symbols of an expression

Text is read from the left, each symbol as long as it can be, up to the end or to the first text that
begins no symbol. A variable may be written `x`, `$x` or `${x}`.
-/

namespace Shell.Arith

/-- The symbols of a text, and the error that ends them if they do not reach to its end. -/
structure Reading where
  symbols : List Symbol
  fault : Option Error
deriving Repr, DecidableEq, Inhabited

namespace Reading

def prepend (symbol : Symbol) (reading : Reading) : Reading :=
  { reading with symbols := symbol :: reading.symbols }

/-- A reading that ends before its first symbol. -/
def failed (error : Error) : Reading :=
  ⟨[], some error⟩

end Reading

/-- What stands at the beginning of a text. -/
inductive Beginning where
  /-- A blank, which only separates symbols. -/
  | blank (rest : List Char)
  /-- A symbol, and what follows it. -/
  | symbol (symbol : Symbol) (rest : List Char)
  /-- No symbol. -/
  | fault (error : Error)
deriving Repr, DecidableEq, Inhabited

namespace Symbol

/-- True for the characters that only separate symbols. -/
def isBlank (c : Char) : Bool :=
  c == ' ' || c == '\t' || c == '\r' || c == '\n'

/-- True for a decimal digit. -/
def isDigit (c : Char) : Bool :=
  '0' ≤ c && c ≤ '9'

/-- The longest operator that a text begins with. -/
def operator? (text : List Char) : Option (Symbol × List Char) :=
  operators.findSome? fun symbol =>
    (Text.after? symbol.text.toList text).map fun rest => (symbol, rest)

/-- A number, whose spelling goes on as long as letters, digits and underscores follow. -/
def beginNumber (first : Char) (rest : List Char) : Beginning :=
  let spelling := first :: rest.takeWhile Name.isPart
  match Numeral.read? spelling with
  | some value => .symbol (literal value) (rest.dropWhile Name.isPart)
  | none => .fault (.invalidNumber (String.ofList spelling))

/-- A variable without decoration. -/
def beginName (first : Char) (rest : List Char) : Beginning :=
  .symbol (reference (String.ofList (first :: rest.takeWhile Name.isPart)))
    (rest.dropWhile Name.isPart)

/-- What follows a dollar sign: a name, alone or in braces. -/
def beginDollar (offset : Nat) : List Char → Beginning
  | [] => .fault (.unknownText "$" offset)
  | '\x7b' :: rest =>
    match rest with
    | first :: more =>
      if Name.isStart first then
        let name := first :: more.takeWhile Name.isPart
        match more.dropWhile Name.isPart with
        | '\x7d' :: left => .symbol (reference (String.ofList name)) left
        | _ => .fault (.unknownText (String.ofList ('$' :: '\x7b' :: name)) offset)
      else .fault (.unknownText "$" offset)
    | [] => .fault (.unknownText "$" offset)
  | first :: rest =>
    if Name.isStart first then beginName first rest else .fault (.unknownText "$" offset)

/-- What stands at the beginning of a text that is not empty, which begins at a byte offset. -/
def beginning (offset : Nat) (c : Char) (rest : List Char) : Beginning :=
  if isBlank c then .blank rest
  else if isDigit c then beginNumber c rest
  else if Name.isStart c then beginName c rest
  else if c = '$' then beginDollar offset rest
  else
    match operator? (c :: rest) with
    | some (op, left) => .symbol op left
    | none => .fault (.unknownText (String.singleton c) offset)

/-- No operator is written with nothing. -/
theorem text_ne_nil_of_mem {op : Symbol} (h : op ∈ operators) : op.text.toList ≠ [] := by
  revert op
  decide

/-- What remains after an operator is shorter. -/
theorem length_of_operator? {text : List Char} {op : Symbol} {left : List Char}
    (h : operator? text = some (op, left)) : left.length < text.length := by
  obtain ⟨s, hs, hr⟩ := List.exists_of_findSome?_eq_some h
  obtain ⟨r, hr, he⟩ := Option.map_eq_some_iff.1 hr
  have := congrArg List.length (Text.after?_eq_some_iff.1 hr)
  have := List.length_pos_iff.2 (text_ne_nil_of_mem hs)
  simp only [Prod.mk.injEq] at he
  grind

/-- Dropping the rest of a word does not lengthen a text. -/
theorem length_dropWhile_le (text : List Char) :
    (text.dropWhile Name.isPart).length ≤ text.length :=
  (List.dropWhile_sublist Name.isPart).length_le

/-- What remains after the beginning of a text is shorter than the text. -/
theorem length_of_beginning {offset : Nat} {c : Char} {rest : List Char} {op : Symbol}
    {left : List Char} (h : beginning offset c rest = .symbol op left) :
    left.length ≤ rest.length := by
  unfold beginning at h
  split at h
  · simp at h
  split at h
  · unfold beginNumber at h
    have := length_dropWhile_le rest
    grind
  split at h
  · unfold beginName at h
    have := length_dropWhile_le rest
    grind
  split at h
  · unfold beginDollar at h
    split at h
    · simp at h
    · split at h
      · rename_i first more
        have := length_dropWhile_le more
        grind
      · simp at h
    · rename_i first more _
      have := length_dropWhile_le more
      unfold beginName at h
      grind
  · split at h
    · rename_i op' left' ho
      have := length_of_operator? ho
      simp only [List.length_cons] at this
      grind
    · simp at h

/-- Only a blank is skipped. -/
theorem rest_of_beginning_blank {offset : Nat} {c : Char} {rest left : List Char}
    (h : beginning offset c rest = .blank left) : left = rest := by
  unfold beginning beginNumber beginName beginDollar beginName at h
  grind

/-- Reads the symbols of a text that begins at a byte offset. What is passed over is ASCII. -/
def readFrom (offset : Nat) : List Char → Reading
  | [] => ⟨[], none⟩
  | c :: rest =>
    match _h : beginning offset c rest with
    | .blank left => readFrom (offset + 1) left
    | .symbol symbol left => (readFrom (offset + 1 + rest.length - left.length) left).prepend symbol
    | .fault error => .failed error
termination_by text => text.length
decreasing_by
  · have := rest_of_beginning_blank ‹_›
    grind
  · have := length_of_beginning ‹_›
    simp only [List.length_cons]; omega

def readAll (text : String) : Reading :=
  readFrom 0 text.toList

end Symbol

end Shell.Arith
