import Verdict.Operand
import Verdict.Rule.Condition

/-!
# The text of a condition

A condition over bound operands is written as a rule.  A list of conditions and a strict operator
stand in parentheses, so that nothing depends on precedence; the empty lists, for which rules have
no form, are written as the constants they come to.
-/

namespace Verdict.Condition

variable {σ : Type}

mutual

/-- The text of a condition. -/
def write : Condition (Operand σ) → List Char
  | .all [] => ['t', 'r', 'u', 'e']
  | .any [] => ['f', 'a', 'l', 's', 'e']
  | .all (x :: xs) => '(' :: x.write ++ writeItems ['&', '&'] xs
  | .any (x :: xs) => '(' :: x.write ++ writeItems ['|', '|'] xs
  | .and x y => '(' :: x.write ++ [' ', 'a', 'n', 'd', ' '] ++ y.write ++ [')']
  | .or x y => '(' :: x.write ++ [' ', 'o', 'r', ' '] ++ y.write ++ [')']
  | .not x => '!' :: '(' :: x.write ++ [')']
  | .compare op a b => a.write ++ ' ' :: op.sign ++ ' ' :: b.write
  | .operand a => a.write

/-- The items behind the first one, each with the sign in front of it, and the closing
parenthesis. -/
def writeItems (sign : List Char) : List (Condition (Operand σ)) → List Char
  | [] => [')']
  | x :: xs => ' ' :: sign ++ ' ' :: x.write ++ writeItems sign xs

end

/-- The text of a condition. -/
def text (c : Condition (Operand σ)) : String :=
  String.ofList c.write

end Verdict.Condition
