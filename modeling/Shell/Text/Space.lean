/-! # White space and beginnings

The Unicode property `White_Space`, text without the white space around it, and text without a given beginning.
-/

namespace Shell.Text

/-- True for the characters with the property. -/
def isSpace (c : Char) : Bool :=
  (0x09 ≤ c.val && c.val ≤ 0x0d) || c.val == 0x20 || c.val == 0x85 || c.val == 0xa0
    || c.val == 0x1680 || (0x2000 ≤ c.val && c.val ≤ 0x200a) || c.val == 0x2028
    || c.val == 0x2029 || c.val == 0x202f || c.val == 0x205f || c.val == 0x3000

/-- The text between the first and the last character that is not white space. -/
def trim (text : List Char) : List Char :=
  ((text.dropWhile isSpace).reverse.dropWhile isSpace).reverse

end Shell.Text

namespace Shell.Text

/-- What follows `start` in a text, if the text starts with it. -/
def after? : (start text : List Char) → Option (List Char)
  | [], text => some text
  | _ :: _, [] => none
  | c :: start, d :: text => if c = d then after? start text else none

/-- What follows and the start make up the text. -/
theorem after?_eq_some_iff {start text left : List Char} :
    after? start text = some left ↔ text = start ++ left := by
  fun_induction after? start text with
  | case1 text => simp
  | case2 => simp
  | case3 start d text ih => simp [ih]
  | case4 c start d text hne => simp [Ne.symm hne]

end Shell.Text
