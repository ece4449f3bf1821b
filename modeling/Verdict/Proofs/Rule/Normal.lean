import Verdict.Proofs.Evaluation.Lookups

/-!
# Conditions without needless lists

A list of one condition comes to that condition, and a list of none is decided in advance, so a rule
has no form for either: `Condition.normal` leaves out the one and puts a constant for the other, at
every depth.  Deciding a condition stays the same computation step by step, `evaluate_normal`, whatever
the functions and the resolver do.
-/

namespace Verdict

variable {σ : Type} {env : Environment σ}

namespace Condition

/-- The condition that a list stands for: of none a constant, of one that condition. -/
def collected (join : List (Condition (Operand σ)) → Condition (Operand σ)) (none : Bool) :
    List (Condition (Operand σ)) → Condition (Operand σ)
  | [] => .operand (.literal (.bool none))
  | [x] => x
  | items => join items

mutual

/-- The condition with no list of less than two in it. -/
def normal : Condition (Operand σ) → Condition (Operand σ)
  | .all items => collected .all true (normalAll items)
  | .any items => collected .any false (normalAll items)
  | .and x y => .and x.normal y.normal
  | .or x y => .or x.normal y.normal
  | .not x => .not x.normal
  | .compare op a b => .compare op a b
  | .operand a => .operand a

/-- The conditions with no list of less than two in them. -/
def normalAll : List (Condition (Operand σ)) → List (Condition (Operand σ))
  | [] => []
  | x :: items => x.normal :: normalAll items

end

theorem normalAll_eq_map (items : List (Condition (Operand σ))) :
    normalAll items = items.map normal := by
  induction items with
  | nil => rfl
  | cons x items ih => rw [normalAll, ih, List.map_cons]

theorem Forall.collected {p : Operand σ → Prop} (constant : ∀ b, p (.literal (.bool b)))
    {join : List (Condition (Operand σ)) → Condition (Operand σ)}
    (joins : ∀ items, (∀ x ∈ items, x.Forall p) → (join items).Forall p) (none : Bool)
    {items : List (Condition (Operand σ))} (each : ∀ x ∈ items, x.Forall p) :
    (Condition.collected join none items).Forall p := by
  match items, each with
  | [], _ => exact .operand (constant none)
  | [x], each => exact each x (by simp)
  | x :: y :: items, each => exact joins _ each

/-- Of the operands only constants are new. -/
theorem Forall.normal {p : Operand σ → Prop} (constant : ∀ b, p (.literal (.bool b)))
    {c : Condition (Operand σ)} (h : c.Forall p) : c.normal.Forall p := by
  have list {items : List (Condition (Operand σ))} (each : ∀ x ∈ items, x.normal.Forall p) :
      ∀ x ∈ normalAll items, x.Forall p := by
    simpa only [normalAll_eq_map, List.forall_mem_map] using each
  induction h with
  | all inside ih => exact .collected constant (fun _ => .all) true (list ih)
  | any inside ih => exact .collected constant (fun _ => .any) false (list ih)
  | and left right ihx ihy => exact .and ihx ihy
  | or left right ihx ihy => exact .or ihx ihy
  | not inside ih => exact .not ih
  | compare left right => exact .compare left right
  | operand only => exact .operand only

/-! ### Deciding -/

theorem evaluateUntil_single (verdict : Bool) (x : Condition (Operand σ)) :
    evaluateUntil env verdict [x] = x.evaluate env := by
  have comes_out (b : Bool) : (if b = verdict then pure verdict
      else evaluateUntil env verdict [] : Evaluation σ Bool) = pure b := by
    rw [evaluateUntil]
    cases b <;> cases verdict <;> rfl
  calc evaluateUntil env verdict [x]
    _ = x.evaluate env >>= pure := by
      rw [evaluateUntil]
      exact congrArg (x.evaluate env >>= ·) (funext comes_out)
    _ = x.evaluate env := bind_pure _

theorem evaluate_collected {join : List (Condition (Operand σ)) → Condition (Operand σ)}
    {verdict : Bool} (joins : ∀ items, (join items).evaluate env = evaluateUntil env verdict items)
    (items : List (Condition (Operand σ))) :
    (collected join (!verdict) items).evaluate env = evaluateUntil env verdict items := by
  match items with
  | [] => cases verdict <;> rfl
  | [x] => exact (evaluateUntil_single verdict x).symm
  | x :: y :: items => exact joins _

theorem evaluateUntil_normalAll {items : List (Condition (Operand σ))}
    (each : ∀ x ∈ items, x.normal.evaluate env = x.evaluate env) (verdict : Bool) :
    evaluateUntil env verdict (normalAll items) = evaluateUntil env verdict items := by
  induction items with
  | nil => rfl
  | cons x items ih =>
    rw [normalAll, evaluateUntil, evaluateUntil, each x (by simp),
      ih fun y mem => each y (List.mem_cons_of_mem x mem)]

/-- Leaving out needless lists changes nothing. -/
theorem evaluate_normal (c : Condition (Operand σ)) : c.normal.evaluate env = c.evaluate env := by
  induction c using Condition.induction with
  | all items ih =>
    rw [normal, evaluate_all, ← evaluateUntil_normalAll ih false]
    exact evaluate_collected evaluate_all _
  | any items ih =>
    rw [normal, evaluate_any, ← evaluateUntil_normalAll ih true]
    exact evaluate_collected evaluate_any _
  | and x y ihx ihy => rw [normal, evaluate, evaluate, ihx, ihy]
  | or x y ihx ihy => rw [normal, evaluate, evaluate, ihx, ihy]
  | not x ih => rw [normal, evaluate, evaluate, ih]
  | compare op a b => rfl
  | operand a => rfl

end Condition

theorem Evaluator.examine_normal (e : Evaluator σ) (root : Condition (Operand σ)) (document : Json) :
    e.examine root.normal document = e.examine root document := by
  funext world
  rw [examine, examine, root.evaluate_normal]

end Verdict
