import Mathlib.Data.List.Forall2
import Mathlib.Data.Option.Basic

/-!
# Related lists and options

Two lists are related if they are as long as each other and their elements are related one by one, two
options if both are empty or both hold related values.  What is taken from one of two related lists is
then related to what is taken from the other.
-/

namespace Verdict

variable {α β γ δ : Type} {R : α → β → Prop} {S : γ → δ → Prop}

/-! ### Options -/

theorem rel_getD {o : Option α} {o' : Option β} {a : α} {b : β} (h : Option.Rel R o o')
    (default : R a b) : R (o.getD a) (o'.getD b) := by
  cases h with
  | none => exact default
  | some h => exact h

theorem rel_bind {o : Option α} {o' : Option β} {f : α → Option γ} {g : β → Option δ}
    (h : Option.Rel R o o') (each : ∀ a b, R a b → Option.Rel S (f a) (g b)) :
    Option.Rel S (o.bind f) (o'.bind g) := by
  cases h with
  | none => exact .none
  | some h => exact each _ _ h

theorem rel_toList {o : Option α} {o' : Option β} (h : Option.Rel R o o') :
    List.Forall₂ R o.toList o'.toList := by
  cases h with
  | none => exact .nil
  | some h => exact .cons h .nil

/-! ### Lists -/

section Lists

variable {xs : List α} {ys : List β}

theorem rel_of_mem {T : α → β → Prop} (h : List.Forall₂ R xs ys)
    (each : ∀ a ∈ xs, ∀ b, R a b → T a b) : List.Forall₂ T xs ys := by
  induction h with
  | nil => exact .nil
  | cons first _ ih =>
    exact .cons (each _ (by simp) _ first) (ih fun a mem => each a (List.mem_cons_of_mem _ mem))

theorem exists_rel_of_mem (h : List.Forall₂ R xs ys) {b : β} (mem : b ∈ ys) :
    ∃ a ∈ xs, R a b := by
  induction h with
  | nil => cases mem
  | cons first _ ih =>
    rcases List.mem_cons.1 mem with rfl | mem
    · exact ⟨_, by simp, first⟩
    · obtain ⟨a, mem', h⟩ := ih mem
      exact ⟨a, List.mem_cons_of_mem _ mem', h⟩

theorem rel_head? (h : List.Forall₂ R xs ys) : Option.Rel R xs.head? ys.head? := by
  cases h with
  | nil => exact .none
  | cons h _ => exact .some h

theorem rel_getElem? (h : List.Forall₂ R xs ys) (i : Nat) : Option.Rel R xs[i]? ys[i]? := by
  induction h generalizing i with
  | nil => exact .none
  | cons first _ ih =>
    cases i with
    | zero => exact .some first
    | succ i => exact ih i

theorem rel_flatMap {f : α → List γ} {g : β → List δ} (h : List.Forall₂ R xs ys)
    (each : ∀ a ∈ xs, ∀ b, R a b → List.Forall₂ S (f a) (g b)) :
    List.Forall₂ S (xs.flatMap f) (ys.flatMap g) := by
  induction h with
  | nil => exact .nil
  | cons first _ ih =>
    rw [List.flatMap_cons, List.flatMap_cons]
    exact List.rel_append (each _ (by simp) _ first)
      (ih fun a mem => each a (List.mem_cons_of_mem _ mem))

end Lists

/-- A test of two lists that looks at their elements one by one. -/
structure OneByOne (one : α → β → Bool) (all : List α → List β → Bool) : Prop where
  cons : ∀ a as b bs, all (a :: as) (b :: bs) = (one a b && all as bs)
  short : ∀ b bs, all [] (b :: bs) = false
  long : ∀ a as, all (a :: as) [] = false

theorem OneByOne.related {one : α → β → Bool} {all : List α → List β → Bool}
    (test : OneByOne one all) {xs : List α} {ys : List β} (h : all xs ys = true)
    (each : ∀ a ∈ xs, ∀ b ∈ ys, one a b = true → R a b) : List.Forall₂ R xs ys := by
  induction xs generalizing ys with
  | nil =>
    cases ys with
    | nil => exact .nil
    | cons b ys => simp [test.short] at h
  | cons a xs ih =>
    cases ys with
    | nil => simp [test.long] at h
    | cons b ys =>
      rw [test.cons, Bool.and_eq_true] at h
      exact .cons (each a (by simp) b (by simp) h.1) (ih h.2 fun a mem b mem' =>
        each a (List.mem_cons_of_mem _ mem) b (List.mem_cons_of_mem _ mem'))

end Verdict
