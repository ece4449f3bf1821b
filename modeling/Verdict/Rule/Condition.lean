/-!
# Conditions

A condition is the tree of a rule over operands of some type: terms as they are read, or operands
whose calls are bound.  Lists of conditions are decided from left to right, and only as far as
needed; `and` and `or` always decide both sides.
-/

namespace Verdict

/-- An operator between two operands. -/
inductive Comparison where
  | equal
  | notEqual
  | greater
  | greaterEqual
  | less
  | lessEqual
  deriving DecidableEq, Repr

/-- The sign of an operator. -/
def Comparison.sign : Comparison → List Char
  | .equal => ['=', '=']
  | .notEqual => ['!', '=']
  | .greater => ['>']
  | .greaterEqual => ['>', '=']
  | .less => ['<']
  | .lessEqual => ['<', '=']

/-- A condition over operands of type `α`. -/
inductive Condition (α : Type) where
  /-- Every item holds. -/
  | all (items : List (Condition α))
  /-- Some item holds. -/
  | any (items : List (Condition α))
  /-- Both sides hold. -/
  | and (left right : Condition α)
  /-- One of the sides holds. -/
  | or (left right : Condition α)
  | not (inner : Condition α)
  /-- Two operands compare as the operator says. -/
  | compare (op : Comparison) (left right : α)
  /-- An operand is true. -/
  | operand (value : α)

namespace Condition

variable {α : Type}

theorem induction {p : Condition α → Prop} (all : ∀ items, (∀ x ∈ items, p x) → p (.all items))
    (any : ∀ items, (∀ x ∈ items, p x) → p (.any items)) (and : ∀ x y, p x → p y → p (.and x y))
    (or : ∀ x y, p x → p y → p (.or x y)) (not : ∀ x, p x → p (.not x))
    (compare : ∀ op a b, p (.compare op a b)) (operand : ∀ a, p (.operand a)) : ∀ c, p c
  | .all items => all items fun x _ => induction all any and or not compare operand x
  | .any items => any items fun x _ => induction all any and or not compare operand x
  | .and x y => and x y (induction all any and or not compare operand x)
    (induction all any and or not compare operand y)
  | .or x y => or x y (induction all any and or not compare operand x)
    (induction all any and or not compare operand y)
  | .not x => not x (induction all any and or not compare operand x)
  | .compare op a b => compare op a b
  | .operand a => operand a

mutual

/-- Equality of conditions, given one of operands. -/
protected def beq [BEq α] : Condition α → Condition α → Bool
  | .all xs, .all ys => beqItems xs ys
  | .any xs, .any ys => beqItems xs ys
  | .and x y, .and z w => x.beq z && y.beq w
  | .or x y, .or z w => x.beq z && y.beq w
  | .not x, .not y => x.beq y
  | .compare op a b, .compare op' c d => op == op' && a == c && b == d
  | .operand a, .operand b => a == b
  | _, _ => false

/-- Equality of conditions, one by one. -/
def beqItems [BEq α] : List (Condition α) → List (Condition α) → Bool
  | [], [] => true
  | x :: xs, y :: ys => x.beq y && beqItems xs ys
  | _, _ => false

end

instance [BEq α] : BEq (Condition α) := ⟨Condition.beq⟩

end Condition

end Verdict
