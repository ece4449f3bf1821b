import Mathlib.Logic.Relation
import Verdict.Proofs.Rule.Normal

/-!
# The laws of conditions

A negation goes through a list, through a pair and through a test for equality, two negations are
none, a list stands for its items where it is an item of such a list itself, and a list of one item
is that item.  Those laws are not only about what comes out: lists are decided only as far as needed,
and both sides of a law stop at the same place.  So wherever laws are applied, and however often,
deciding the whole stays the same computation on sessions, `evaluate_of_laws`, whatever the functions
and the resolver do.
-/

namespace Verdict

namespace Condition

/-- The sides of a law. -/
inductive Law {α : Type} : Condition α → Condition α → Prop
  | notAll (items : List (Condition α)) : Law (.not (.all items)) (.any (items.map .not))
  | notAny (items : List (Condition α)) : Law (.not (.any items)) (.all (items.map .not))
  | notAnd (x y : Condition α) : Law (.not (.and x y)) (.or (.not x) (.not y))
  | notOr (x y : Condition α) : Law (.not (.or x y)) (.and (.not x) (.not y))
  | notNot (x : Condition α) : Law (.not (.not x)) x
  | notEqual (a b : α) : Law (.not (.compare .equal a b)) (.compare .notEqual a b)
  | notNotEqual (a b : α) : Law (.not (.compare .notEqual a b)) (.compare .equal a b)
  | nestedAll (before inner after : List (Condition α)) :
      Law (.all (before ++ .all inner :: after)) (.all (before ++ inner ++ after))
  | nestedAny (before inner after : List (Condition α)) :
      Law (.any (before ++ .any inner :: after)) (.any (before ++ inner ++ after))
  | singleAll (x : Condition α) : Law (.all [x]) x
  | singleAny (x : Condition α) : Law (.any [x]) x

/-- A law is applied once, somewhere in a condition. -/
inductive Rewrites {α : Type} : Condition α → Condition α → Prop
  | law {x y : Condition α} (here : Law x y) : Rewrites x y
  | all {x y : Condition α} (before after : List (Condition α)) (inside : Rewrites x y) :
      Rewrites (.all (before ++ x :: after)) (.all (before ++ y :: after))
  | any {x y : Condition α} (before after : List (Condition α)) (inside : Rewrites x y) :
      Rewrites (.any (before ++ x :: after)) (.any (before ++ y :: after))
  | andLeft {x y : Condition α} (right : Condition α) (inside : Rewrites x y) :
      Rewrites (.and x right) (.and y right)
  | andRight {x y : Condition α} (left : Condition α) (inside : Rewrites x y) :
      Rewrites (.and left x) (.and left y)
  | orLeft {x y : Condition α} (right : Condition α) (inside : Rewrites x y) :
      Rewrites (.or x right) (.or y right)
  | orRight {x y : Condition α} (left : Condition α) (inside : Rewrites x y) :
      Rewrites (.or left x) (.or left y)
  | not {x y : Condition α} (inside : Rewrites x y) : Rewrites (.not x) (.not y)

variable {σ : Type} {env : Environment σ}

/-! ### Lists -/

/-- Of two lists in a row the second one is decided where the first one was not settled. -/
theorem evaluateUntil_append (verdict : Bool) (xs ys : List (Condition (Operand σ))) :
    evaluateUntil env verdict (xs ++ ys) = (do
      let b ← evaluateUntil env verdict xs
      if b = verdict then return verdict else evaluateUntil env verdict ys) := by
  induction xs with
  | nil =>
    rw [List.nil_append, evaluateUntil, pure_bind, if_neg (by simp)]
  | cons x xs ih =>
    rw [List.cons_append, evaluateUntil, evaluateUntil, ih, bind_assoc]
    congr 1
    funext b
    by_cases settled : b = verdict
    · rw [if_pos settled, if_pos settled, pure_bind, if_pos rfl]
    · rw [if_neg settled, if_neg settled]

theorem evaluateUntil_congr {x y : Condition (Operand σ)} (same : x.evaluate env = y.evaluate env)
    (verdict : Bool) (before after : List (Condition (Operand σ))) :
    evaluateUntil env verdict (before ++ x :: after) =
      evaluateUntil env verdict (before ++ y :: after) := by
  simp only [evaluateUntil_append, evaluateUntil, same]

/-- A condition that is decided like a list can be replaced by the list. -/
theorem evaluateUntil_nested {x : Condition (Operand σ)} {verdict : Bool}
    {inner : List (Condition (Operand σ))} (same : x.evaluate env = evaluateUntil env verdict inner)
    (before after : List (Condition (Operand σ))) :
    evaluateUntil env verdict (before ++ x :: after) =
      evaluateUntil env verdict (before ++ inner ++ after) := by
  simp only [List.append_assoc, evaluateUntil_append, evaluateUntil, same]

/-- The negated items lead to the other verdict, as far as they are decided. -/
theorem evaluateUntil_map_not (verdict : Bool) (items : List (Condition (Operand σ))) :
    evaluateUntil env (!verdict) (items.map .not) = (do
      let b ← evaluateUntil env verdict items
      return !b) := by
  induction items with
  | nil => rw [List.map_nil, evaluateUntil, evaluateUntil, pure_bind]
  | cons x items ih =>
    rw [List.map_cons, evaluateUntil, evaluateUntil, evaluate, ih, bind_assoc, bind_assoc]
    congr 1
    funext b
    rw [pure_bind]
    by_cases settled : b = verdict
    · rw [settled, if_pos rfl, if_pos rfl, pure_bind]
    · rw [if_neg (by simpa using settled), if_neg settled]

/-! ### Negations -/

theorem evaluate_not (x : Condition (Operand σ)) :
    (not x).evaluate env = (do
      let b ← x.evaluate env
      return !b) := by
  rw [evaluate]

theorem evaluate_not_not (x : Condition (Operand σ)) : (not (not x)).evaluate env = x.evaluate env := by
  simp only [evaluate, bind_assoc, pure_bind, Bool.not_not, bind_pure]

theorem evaluate_not_and (x y : Condition (Operand σ)) :
    (not (and x y)).evaluate env = (or (not x) (not y)).evaluate env := by
  simp only [evaluate, bind_assoc, pure_bind, Bool.not_and]

theorem evaluate_not_or (x y : Condition (Operand σ)) :
    (not (or x y)).evaluate env = (and (not x) (not y)).evaluate env := by
  simp only [evaluate, bind_assoc, pure_bind, Bool.not_or]

theorem evaluate_not_equal (a b : Operand σ) :
    (not (compare .equal a b)).evaluate env = (compare .notEqual a b).evaluate env := by
  simp only [evaluate, Comparison.evaluate, compareObjects, bind_assoc, pure_bind, bne]

theorem evaluate_not_notEqual (a b : Operand σ) :
    (not (compare .notEqual a b)).evaluate env = (compare .equal a b).evaluate env := by
  simp only [evaluate, Comparison.evaluate, compareObjects, bind_assoc, pure_bind, bne, Bool.not_not]

/-! ### Applying laws -/

theorem Law.evaluate_eq {x y : Condition (Operand σ)} (h : Law x y) :
    x.evaluate env = y.evaluate env := by
  cases h with
  | notAll items =>
    rw [evaluate_not, evaluate_all, evaluate_any]
    exact (evaluateUntil_map_not false items).symm
  | notAny items =>
    rw [evaluate_not, evaluate_any, evaluate_all]
    exact (evaluateUntil_map_not true items).symm
  | notAnd x y => exact evaluate_not_and x y
  | notOr x y => exact evaluate_not_or x y
  | notNot => exact evaluate_not_not y
  | notEqual a b => exact evaluate_not_equal a b
  | notNotEqual a b => exact evaluate_not_notEqual a b
  | nestedAll before inner after =>
    rw [evaluate_all, evaluate_all]
    exact evaluateUntil_nested (evaluate_all inner) before after
  | nestedAny before inner after =>
    rw [evaluate_any, evaluate_any]
    exact evaluateUntil_nested (evaluate_any inner) before after
  | singleAll => rw [evaluate_all, evaluateUntil_single]
  | singleAny => rw [evaluate_any, evaluateUntil_single]

/-- The step: by induction on the place where the law is applied. -/
theorem Rewrites.evaluate_eq {c d : Condition (Operand σ)} (h : Rewrites c d) :
    c.evaluate env = d.evaluate env := by
  induction h with
  | law here => exact here.evaluate_eq
  | all before after _ same =>
    rw [evaluate_all, evaluate_all]
    exact evaluateUntil_congr same false before after
  | any before after _ same =>
    rw [evaluate_any, evaluate_any]
    exact evaluateUntil_congr same true before after
  | andLeft right _ same => rw [evaluate, evaluate, same]
  | andRight left _ same => rw [evaluate, evaluate, same]
  | orLeft right _ same => rw [evaluate, evaluate, same]
  | orRight left _ same => rw [evaluate, evaluate, same]
  | not _ same => rw [evaluate, evaluate, same]

/-- Conditions that laws turn into each other, at any places and in either direction, come out the
same in every session, and leave the same session behind: the journal, the counters, the cache and the
world behind the resolver. -/
theorem evaluate_of_laws {c d : Condition (Operand σ)} (h : Relation.EqvGen Rewrites c d)
    (env : Environment σ) (session : Session σ) : c.evaluate env session = d.evaluate env session := by
  suffices same : c.evaluate env = d.evaluate env by rw [same]
  induction h with
  | rel c d once => exact once.evaluate_eq
  | refl c => rfl
  | symm c d _ same => exact same.symm
  | trans c d e _ _ first second => exact first.trans second

theorem evaluate_of_laws_of_nested :
    let env : Environment Path.Memo :=
      ⟨⟨.default, .jsonPath true 4⟩, .object [("a", .bool true)]⟩
    let a : Condition (Operand Path.Memo) := .operand (.path "$.a")
    let b : Condition (Operand Path.Memo) := .compare .equal (.path "/b") (.path "$.a")
    let c : Condition (Operand Path.Memo) := .not (.and a (.not (.all [b, .all [a, b], a])))
    let d : Condition (Operand Path.Memo) := .or (.not a) (.all [b, a, b, a])
    Relation.EqvGen Rewrites c d ∧
      c.evaluate env (.start .empty) = d.evaluate env (.start .empty) := by
  intro env a b c d
  have pair : Rewrites c (.or (.not a) (.not (.not (.all [b, .all [a, b], a])))) :=
    .law (.notAnd _ _)
  have twice : Rewrites (.or (.not a) (.not (.not (.all [b, .all [a, b], a]))))
      (.or (.not a) (.all [b, .all [a, b], a])) :=
    .orRight _ (.law (.notNot _))
  have list : Rewrites (.or (.not a) (.all [b, .all [a, b], a])) d :=
    .orRight _ (.law (.nestedAll [b] [a, b] [a]))
  have related : Relation.EqvGen Rewrites c d :=
    .trans _ _ _ (.rel _ _ pair) (.trans _ _ _ (.rel _ _ twice) (.rel _ _ list))
  exact ⟨related, evaluate_of_laws related env (.start .empty)⟩

end Condition

end Verdict
