import Verdict.Evaluation.Meaning
import Verdict.Rule.Condition

/-!
# Deciding a condition

The operators of equality compare the literals that their operands stand for, those of order compare
numbers, with zero for whatever is no number.  An operand by itself holds if it is true.
-/

namespace Verdict

variable {σ : Type}

/-- Compares two operands by the literals they stand for. -/
def compareObjects (test : Literal → Literal → Bool) (a b : Meaning σ) : Evaluation σ Bool := do
  let l ← a.object
  let m ← b.object
  return test l m

/-- Compares two operands as numbers. -/
def compareNumbers (test : Float → Float → Bool) (a b : Meaning σ) : Evaluation σ Bool := do
  let x ← a.number 0.0
  let y ← b.number 0.0
  return test x y

/-- Compares two operands. -/
def Comparison.evaluate : Comparison → Meaning σ → Meaning σ → Evaluation σ Bool
  | .equal => compareObjects fun l m => l == m
  | .notEqual => compareObjects fun l m => l != m
  | .greater => compareNumbers fun x y => y < x
  | .greaterEqual => compareNumbers fun x y => y ≤ x
  | .less => compareNumbers fun x y => x < y
  | .lessEqual => compareNumbers fun x y => x ≤ y

namespace Condition

mutual

/-- Does the condition hold? -/
def evaluate (env : Environment σ) : Condition (Operand σ) → Evaluation σ Bool
  | .all items => allHold env items
  | .any items => someHolds env items
  | .and x y => do
    let x ← x.evaluate env
    let y ← y.evaluate env
    return x && y
  | .or x y => do
    let x ← x.evaluate env
    let y ← y.evaluate env
    return x || y
  | .not x => do
    let x ← x.evaluate env
    return !x
  | .compare op a b => op.evaluate (a.meaning env) (b.meaning env)
  | .operand a => (a.meaning env).boolean false

/-- Do all conditions hold?  Those behind the first one that does not are left out. -/
def allHold (env : Environment σ) : List (Condition (Operand σ)) → Evaluation σ Bool
  | [] => return true
  | x :: items => do
    if ← x.evaluate env then allHold env items else return false

/-- Does some condition hold?  Those behind the first one that does are left out. -/
def someHolds (env : Environment σ) : List (Condition (Operand σ)) → Evaluation σ Bool
  | [] => return false
  | x :: items => do
    if ← x.evaluate env then return true else someHolds env items

end

end Condition

end Verdict
