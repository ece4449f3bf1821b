import Verdict.Evaluation.Basic
import Mathlib.Data.List.Forall2

/-!
# What a condition means, without a session

A path text refers to one value of the document, whoever asks and whenever; `look` gives that value.
Under it an operand stands for one literal, `Operand.value`, and a condition holds or not,
`Condition.holds`.  Nothing is remembered and nothing is counted here, and no function is run: a call
comes to what `Function.result` says of its name and of the literals that its arguments stand for.
-/

namespace Verdict

variable {σ : Type}

/-! ### Calls -/

namespace Function

/-- An argument as a number, zero if it is none. -/
def numberAt (arguments : List Literal) (i : Nat) : Float :=
  (arguments[i]?.bind Literal.number?).getD 0.0

/-- An argument as a text, the empty one if it is none. -/
def textAt (arguments : List Literal) (i : Nat) : List Char :=
  ((arguments[i]?.bind Literal.string?).getD "").toList

/-- An argument as a literal, null if there is none. -/
def literalAt (arguments : List Literal) (i : Nat) : Literal :=
  arguments[i]?.getD .null

/-- What a call of one of the functions that every rule can call comes to. -/
def result (name : String) (arguments : List Literal) : Literal :=
  let x := numberAt arguments 0
  let y := numberAt arguments 1
  let s := textAt arguments 0
  let t := textAt arguments 1
  match name with
  | "abs" => .number x.abs
  | "math.ceil" => .number (Decimal.ceiling x)
  | "math.floor" => .number (Decimal.floor x)
  | "math.round" => .number (Decimal.round x)
  | "math.add" => .number (x + y)
  | "math.sub" => .number (x - y)
  | "str.len" => .number (Float.ofNat s.length)
  | "str.lower" => .string (String.ofList (Text.lower s))
  | "str.upper" => .string (String.ofList (Text.upper s))
  | "str.starts_with" => .bool (t.isPrefixOf s)
  | "str.ends_with" => .bool (t.isSuffixOf s)
  | "str.contains" => .bool (Text.occursIn t s)
  | "arr.len" => .number (Float.ofNat (length (literalAt arguments 0)))
  | "arr.contains" => .bool (contains (literalAt arguments 0) (literalAt arguments 1))
  | _ => .null

end Function

/-! ### Operands -/

namespace Operand

mutual

/-- The literal that an operand stands for. -/
def value (look : String → Option Json) : Operand σ → Literal
  | .literal l => l
  | .path text => Meaning.literalOf (look text)
  | .call name arguments _ _ => Function.result name (values look arguments)

/-- The literals that operands stand for. -/
def values (look : String → Option Json) : List (Operand σ) → List Literal
  | [] => []
  | a :: operands => a.value look :: values look operands

end

/-- Each call in the operand was made by the registry of the functions that every rule can call. -/
inductive Bound : Operand σ → Prop
  | literal (l : Literal) : Bound (.literal l)
  | path (text : String) : Bound (.path text)
  | call {name : String} {arguments : List (Operand σ)} {operand : Operand σ}
      (inside : ∀ a ∈ arguments, Bound a)
      (made : Registry.default.bind name arguments = .ok operand) : Bound operand

theorem values_eq_map (look : String → Option Json) (operands : List (Operand σ)) :
    values look operands = operands.map (value look) := by
  induction operands with
  | nil => rfl
  | cons a operands ih => rw [values, ih, List.map_cons]

end Operand

/-! ### Conditions -/

/-- Do two literals compare as the operator says?  Those of order compare numbers, and what is no
number counts as zero. -/
def Comparison.holds (op : Comparison) (l m : Literal) : Bool :=
  let x := l.number?.getD 0.0
  let y := m.number?.getD 0.0
  match op with
  | .equal => l == m
  | .notEqual => l != m
  | .greater => y < x
  | .greaterEqual => y ≤ x
  | .less => x < y
  | .lessEqual => x ≤ y

namespace Condition

mutual

/-- Does the condition hold? -/
def holds (look : String → Option Json) : Condition (Operand σ) → Bool
  | .all items => (verdicts look items).all id
  | .any items => (verdicts look items).any id
  | .and x y => x.holds look && y.holds look
  | .or x y => x.holds look || y.holds look
  | .not x => !x.holds look
  | .compare op a b => op.holds (a.value look) (b.value look)
  | .operand a => (a.value look).bool?.getD false

/-- Which of the conditions hold? -/
def verdicts (look : String → Option Json) : List (Condition (Operand σ)) → List Bool
  | [] => []
  | x :: items => x.holds look :: verdicts look items

end

theorem holds_all (look : String → Option Json) (items : List (Condition (Operand σ))) :
    (all items).holds look = if false ∈ verdicts look items then false else true := by
  rw [holds]
  split <;> simpa

theorem holds_any (look : String → Option Json) (items : List (Condition (Operand σ))) :
    (any items).holds look = if true ∈ verdicts look items then true else false := by
  rw [holds]
  split <;> simpa

/-- Conditions that come to the same one by one have the same verdicts. -/
theorem verdicts_eq_of_forall₂ {look look' : String → Option Json}
    {items others : List (Condition (Operand σ))}
    (each : List.Forall₂ (fun x y => x.holds look = y.holds look') items others) :
    verdicts look items = verdicts look' others := by
  induction each with
  | nil => rfl
  | cons first _ ih => rw [verdicts, verdicts, first, ih]

/-- Each operand of the condition has the property. -/
inductive Forall {α : Type} (p : α → Prop) : Condition α → Prop
  | all {items : List (Condition α)} (inside : ∀ x ∈ items, Forall p x) : Forall p (.all items)
  | any {items : List (Condition α)} (inside : ∀ x ∈ items, Forall p x) : Forall p (.any items)
  | and {x y : Condition α} (left : Forall p x) (right : Forall p y) : Forall p (.and x y)
  | or {x y : Condition α} (left : Forall p x) (right : Forall p y) : Forall p (.or x y)
  | not {x : Condition α} (inside : Forall p x) : Forall p (.not x)
  | compare {op : Comparison} {a b : α} (left : p a) (right : p b) : Forall p (.compare op a b)
  | operand {a : α} (only : p a) : Forall p (.operand a)

end Condition

end Verdict
