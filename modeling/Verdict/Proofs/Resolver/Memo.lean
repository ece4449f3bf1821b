import Verdict.Proofs.Evaluation.Resolver
import Verdict.Proofs.Path.Memo

/-!
# Resolvers with a memo

A resolver is asked many times, and its memo changes all the time.  The answers do not show it: each
one is the answer that `Resolver.plain` gives without a memo.  The memo itself is a bounded queue of
the path texts, whatever is looked up and inserted in whatever order; asking the resolver inserts
those texts that begin like a path.
-/

namespace Verdict

variable {σ : Type}

namespace Resolver

/-! ### Answers -/

theorem run_answerAll_cons (resolver : Resolver σ) (request : Json × String)
    (requests : List (Json × String)) (world : σ) :
    (resolver.answerAll (request :: requests)).run world =
      let first := (resolver.resolve request.1 request.2).run world
      let others := (resolver.answerAll requests).run first.2
      (first.1 :: others.1, others.2) := rfl

/-- The answer without a memo: a text that begins with a dollar sign is read as a path, if it is one;
an empty text or one that begins with a slash is a JSON Pointer, if they are allowed. -/
def plain (pointers : Bool) (document : Json) (text : String) : Option Json :=
  match text.toList with
  | '$' :: _ => (Path.queryText text document).toOption.join
  | [] => if pointers then document.pointer? [] else none
  | '/' :: pointer => if pointers then document.pointer? ('/' :: pointer) else none
  | _ => none

theorem toOption_queryText (text : String) (document : Json) :
    (Path.queryText text document).toOption.join =
      (Path.parse text).toOption.bind fun path => path.query document := by
  rw [Path.queryText]
  cases Path.parse text <;> rfl

theorem target_eq_plain (pointers : Bool) (document : Json) (text : String) :
    target pointers document text = plain pointers document text := by
  rw [target, plain, toOption_queryText, isPath, isPointer]
  rcases text.toList with _ | ⟨c, cs⟩
  · simp
  · by_cases dollar : c = '$'
    · simp [dollar]
    · by_cases slash : c = '/'
      · simp [slash]
      · simp [dollar, slash]

theorem Pure.answerAll {resolver : Resolver σ} {sound : σ → Prop}
    {look : Json → String → Option Json} (h : resolver.Pure sound look)
    (requests : List (Json × String)) {world : σ} (here : sound world) :
    ((resolver.answerAll requests).run world).1 =
      requests.map fun request => look request.1 request.2 := by
  induction requests generalizing world with
  | nil => rfl
  | cons request requests ih =>
    rw [run_answerAll_cons, List.map_cons, ← h.answers request.1 request.2 world here,
      ← ih (h.stays request.1 request.2 world here)]

/-- What is remembered of paths shows in no answer. -/
theorem answerAll_jsonPath_eq_plain (pointers : Bool) (capacity : Nat)
    (requests : List (Json × String)) :
    (((jsonPath pointers capacity).answerAll requests).run Path.Memo.empty).1 =
      requests.map fun request => plain pointers request.1 request.2 := by
  rw [(pure_jsonPath pointers capacity).answerAll requests Path.Memo.sound_empty]
  simp only [target_eq_plain]

/-! ### What is remembered -/

/-- Only a text that begins like a path gets to the memo. -/
theorem memo_run_resolve (pointers : Bool) (capacity : Nat) (document : Json) (text : String)
    (memo : Path.Memo) :
    (((jsonPath pointers capacity).resolve document text).run memo).2 =
      if isPath text then memo.insert capacity text (Path.parse text).toOption else memo := by
  rw [jsonPath, world_run_reading, memo_run_compile]

variable {capacity : Nat} {memo : Path.Memo} {texts : Finset String}

theorem remembers_answerAll (h : memo.Remembers capacity texts) (pointers : Bool)
    (requests : List (Json × String)) :
    (((jsonPath pointers capacity).answerAll requests).run memo).2.Remembers capacity
      (texts ∪ ((requests.map Prod.snd).filter isPath).toFinset) := by
  induction requests generalizing memo texts with
  | nil =>
    rw [List.map_nil, List.filter_nil, List.toFinset_nil, Finset.union_empty]
    exact h
  | cons request requests ih =>
    rw [run_answerAll_cons, List.map_cons]
    dsimp only
    rw [memo_run_resolve]
    by_cases path : isPath request.2
    · have rest := ih (h.insert request.2 (Path.parse request.2).toOption)
      rw [Finset.union_assoc, ← Finset.insert_eq, ← List.toFinset_cons] at rest
      rwa [if_pos path, List.filter_cons_of_pos path]
    · rw [if_neg path, List.filter_cons_of_neg path]
      exact ih h

open Path.Memo in
/-- Whatever is looked up and inserted in whatever order, the queue of a memo lists the texts that are
remembered, each once, the oldest one in front; there are never more than there is room for, and as
many as there can be.  In a full memo a new text takes the place of the oldest one and of no other; a
text that is remembered already, or that there is no room for, changes nothing; and the queue never
runs out before there is room.  A resolver that is asked remembers texts that begin like a path. -/
theorem memo_is_bounded_queue (capacity : Nat) (operations : List Operation) :
    let memo := empty.after capacity operations
    (memo.order.Perm (memo.entries.map Prod.fst) ∧ memo.order.Nodup ∧
      memo.order = (newcomers capacity empty operations).rtake capacity) ∧
    memo.size ≤ capacity ∧
    memo.size = min capacity (operations.filterMap Operation.inserted?).toFinset.card ∧
    (∀ text path, 0 < capacity → text ∉ memo.order → memo.size = capacity →
      ∃ oldest order, memo.order = oldest :: order ∧
        (memo.insert capacity text path).order = order ++ [text] ∧
        ∀ t, (memo.insert capacity text path).find? t =
          if t = text then some path else if t = oldest then none else memo.find? t) ∧
    (∀ text path, capacity = 0 ∨ text ∈ memo.order → memo.insert capacity text path = memo) ∧
    (0 < capacity → ¬ RunsOut capacity memo.entries memo.order) ∧
    ∀ pointers requests,
      (((jsonPath pointers capacity).answerAll requests).run empty).2.size =
        min capacity ((requests.map Prod.snd).filter isPath).toFinset.card := by
  intro memo
  have h : memo.Remembers capacity (operations.filterMap Operation.inserted?).toFinset := by
    simpa using (remembers_empty capacity).after operations
  refine ⟨⟨h.perm, h.nodup, (remembers_empty capacity).order_after operations⟩, h.bounded,
    h.size_eq_min, fun text path some new full => ?_,
    fun text path => insert_of_not_new h.toInStep, h.toInStep.not_runsOut,
    fun pointers requests => ?_⟩
  · obtain ⟨oldest, order, front, replaced⟩ := insert_of_full h.toInStep some new path full
    refine ⟨oldest, order, front, by rw [replaced], fun t => ?_⟩
    rw [replaced, find?]
    by_cases same : t = text
    · rw [if_pos same, same, List.lookup_cons_self]
    · rw [if_neg same, lookup_cons_of_ne same, lookup_forget, find?]
  · simpa using (remembers_answerAll (remembers_empty capacity) pointers requests).size_eq_min

open Path.Memo in
theorem memo_is_bounded_queue_of_two :
    let memo := empty.after 2 [.insert "$.a" none, .insert "$.b" (some []), .find "$.b",
      .insert "$.a" none, .insert "$.c" none]
    (0 < 2 ∧ "$.a" ∉ memo.order ∧ memo.size = 2 ∧ "$.c" ∈ memo.order) ∧
      (memo.insert 2 "$.a" none).order = ["$.c", "$.a"] ∧
      (memo.insert 2 "$.a" none).find? "$.b" = none ∧
      memo.insert 2 "$.c" none = memo ∧
      ¬ RunsOut 2 memo.entries memo.order := by
  intro memo
  have order : memo.order = ["$.b", "$.c"] := by decide
  have new : "$.a" ∉ memo.order := by decide
  have full : memo.size = 2 := by decide
  have old : "$.c" ∈ memo.order := by decide
  obtain ⟨-, -, -, replaces, keeps, never, -⟩ := memo_is_bounded_queue 2
    [.insert "$.a" none, .insert "$.b" (some []), .find "$.b", .insert "$.a" none,
      .insert "$.c" none]
  obtain ⟨oldest, rest, front, queue, found⟩ := replaces "$.a" none (by decide) new full
  obtain ⟨rfl, rfl⟩ := List.cons.inj (front.symm.trans order)
  exact ⟨⟨by decide, new, full, old⟩, queue, found "$.b", keeps "$.c" none (.inr old),
    never (by decide)⟩

end Resolver

end Verdict
