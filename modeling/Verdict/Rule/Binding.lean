import Verdict.Rule.Parser
import Verdict.Rule.Printer
import Verdict.Function.Builtin

/-!
# Rules

A rule is read from text and its calls are bound to the functions of a registry, from left to right
and arguments before the call they belong to; the first call that cannot be made is the error.
-/

namespace Verdict

variable {σ : Type}

mutual

/-- The operand of a term. -/
def Term.bind (r : Registry σ) : Term → Except Function.Error (Operand σ)
  | .literal l => .ok (.literal l)
  | .path s => .ok (.path s)
  | .call name arguments => do
    let arguments ← Term.bindAll r arguments
    r.bind name arguments

/-- The operands of terms, from left to right. -/
def Term.bindAll (r : Registry σ) : List Term → Except Function.Error (List (Operand σ))
  | [] => .ok []
  | t :: terms => do
    let operand ← t.bind r
    let operands ← Term.bindAll r terms
    return operand :: operands

end

mutual

/-- The condition with its terms bound, from left to right. -/
def Condition.bind (r : Registry σ) : Condition Term → Except Function.Error (Condition (Operand σ))
  | .all items => do return .all (← Condition.bindAll r items)
  | .any items => do return .any (← Condition.bindAll r items)
  | .and x y => do
    let x ← x.bind r
    let y ← y.bind r
    return .and x y
  | .or x y => do
    let x ← x.bind r
    let y ← y.bind r
    return .or x y
  | .not x => do return .not (← x.bind r)
  | .compare op a b => do
    let a ← a.bind r
    let b ← b.bind r
    return .compare op a b
  | .operand a => do return .operand (← a.bind r)

/-- The conditions with their terms bound, from left to right. -/
def Condition.bindAll (r : Registry σ) :
    List (Condition Term) → Except Function.Error (List (Condition (Operand σ)))
  | [] => .ok []
  | x :: items => do
    let x ← x.bind r
    let items ← Condition.bindAll r items
    return x :: items

end

/-- A condition, and the text by which it is shown. -/
structure Rule (σ : Type) where
  source : String
  root : Condition (Operand σ)

namespace Rule

/-- The condition that a text holds, with its calls bound. -/
def compile (r : Registry σ) (text : String) : Except Error (Condition (Operand σ)) := do
  let condition ← parse text
  match condition.bind r with
  | .ok root => .ok root
  | .error cause => .error (.call cause)

/-- The rule that a text holds. -/
def ofText (r : Registry σ) (text : String) : Except Error (Rule σ) := do
  let root ← compile r text
  return ⟨Text.trimmed text, root⟩

/-- The rule of a condition, shown as the condition is written. -/
def ofCondition (root : Condition (Operand σ)) : Rule σ :=
  ⟨root.text, root⟩

end Rule

end Verdict
