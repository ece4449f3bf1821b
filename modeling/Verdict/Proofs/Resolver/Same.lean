import Verdict.Proofs.Json.Same
import Verdict.Proofs.Path.Meaning
import Verdict.Proofs.Evaluation.Resolver

/-!
# Looking up in documents that are the same

A path leads from the same values to the same values, one by one and in order, and a JSON Pointer leads
to the same value or in both documents to none.  So a path text refers to the same, `same_target`.
-/

namespace Verdict

variable {v w : Json}

/-! ### Paths -/

theorem Selector.same_choice (selector : Selector) (h : v.Same w) :
    List.Forall₂ Json.Same (selector.choice v) (selector.choice w) := by
  cases selector with
  | key name => exact rel_toList (h.member? name)
  | wildcard => exact h.children
  | index i =>
    cases h with
    | array each =>
      rw [choice, choice, each.length_eq]
      split
      · exact rel_toList (rel_getElem? each _)
      · split
        · exact rel_toList (rel_getElem? each _)
        · exact .nil
    | _ => exact .nil

theorem Json.rel_throughout {f g : Json → List Json}
    (each : ∀ v w, Same v w → List.Forall₂ Same (f v) (g w)) (h : v.Same w) :
    List.Forall₂ Same (v.throughout f) (w.throughout g) := by
  induction v using Json.induction generalizing w with
  | step v ih =>
    rw [throughout_eq, throughout_eq]
    exact List.rel_append (each v w h) (rel_flatMap h.children fun v mem _ h => ih v mem h)

theorem Path.same_meaning (path : Path) (h : v.Same w) :
    List.Forall₂ Json.Same (path.meaning v) (path.meaning w) := by
  induction path generalizing v w with
  | nil => exact .cons h .nil
  | cons segment path ih =>
    have behind (selector : Selector) (v w : Json) (h : v.Same w) :
        List.Forall₂ Json.Same ((selector.choice v).flatMap (meaning path))
          ((selector.choice w).flatMap (meaning path)) :=
      rel_flatMap (selector.same_choice h) fun _ _ _ h => ih h
    cases segment with
    | child selector =>
      rw [meaning, meaning]
      exact behind selector v w h
    | descendant selector =>
      rw [meaning, meaning]
      exact Json.rel_throughout (behind selector) h

theorem Path.same_query (path : Path) (h : v.Same w) :
    Option.Rel Json.Same (path.query v) (path.query w) := by
  have reached := path.same_meaning h
  rw [← select_eq_meaning, ← select_eq_meaning] at reached
  unfold query
  split
  · exact rel_head? reached
  · exact .some (.array reached)

/-! ### Pointers -/

namespace Json

theorem Pointer.same_step (token : List Char) (h : v.Same w) :
    Option.Rel Same (step token v) (step token w) := by
  cases h with
  | array each =>
    unfold step
    cases position? token with
    | none => exact .none
    | some i => exact Same.item? (.array each) i
  | object keys each => exact Same.member? (.object keys each) _
  | _ => exact .none

theorem Pointer.same_walk (tokens : List (List Char)) (h : v.Same w) :
    Option.Rel Same (walk tokens v) (walk tokens w) := by
  induction tokens generalizing v w with
  | nil => exact .some h
  | cons token tokens ih =>
    rw [walk, walk]
    exact rel_bind (same_step token h) fun _ _ h => ih h

theorem same_pointer? (pointer : List Char) (h : v.Same w) :
    Option.Rel Same (v.pointer? pointer) (w.pointer? pointer) := by
  unfold pointer?
  cases Pointer.tokens? pointer with
  | none => exact .none
  | some tokens => exact Pointer.same_walk tokens h

end Json

/-- A path text refers to the same in documents that are the same. -/
theorem Resolver.same_target (pointers : Bool) (h : v.Same w) (text : String) :
    Option.Rel Json.Same (target pointers v text) (target pointers w text) := by
  unfold target
  split
  · cases (Path.parse text).toOption with
    | none => exact .none
    | some path => exact path.same_query h
  · split
    · exact Json.same_pointer? _ h
    · exact .none

end Verdict
