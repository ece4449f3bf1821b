import Verdict.Path.Selection

/-!
# What a path means

The meaning of a path is defined by recursion, over its segments and for a deep segment over the
value as well; there is no list of values reached so far and no stack in it.  `Path.select` computes
it.  Each visit of a walk leaves unchanged what the walk comes to in the end, `Walk.outcome`, and
makes the values on the stack smaller by one, so that the stack is empty after as many visits as
there are values.
-/

namespace Verdict

/-! ### The meaning of a path -/

namespace Selector

/-- The children that a selector stands for: the member of a key, the element at a position, which
counts from the end if it is negative, or all children. -/
def choice (selector : Selector) (v : Json) : List Json :=
  match selector, v with
  | .key name, v => (v.member? name).toList
  | .index i, .array items =>
    if 0 ≤ i ∧ i < items.length then items[i.toNat]?.toList
    else if -items.length ≤ i ∧ i < 0 then items[(items.length + i).toNat]?.toList
    else []
  | .index _, _ => []
  | .wildcard, v => v.children

end Selector

namespace Json

mutual

/-- What `f` gives at a value and then at all values inside it, child by child. -/
def throughout (f : Json → List Json) : Json → List Json
  | .array items => f (.array items) ++ throughoutItems f items
  | .object members => f (.object members) ++ throughoutMembers f members
  | v => f v

/-- What `f` gives throughout the elements of an array. -/
def throughoutItems (f : Json → List Json) : List Json → List Json
  | [] => []
  | v :: items => v.throughout f ++ throughoutItems f items

/-- What `f` gives throughout the member values of an object. -/
def throughoutMembers (f : Json → List Json) : List (String × Json) → List Json
  | [] => []
  | (_, v) :: members => v.throughout f ++ throughoutMembers f members

end

end Json

namespace Path

/-- The values that a path means, seen from a value. -/
def meaning : Path → Json → List Json
  | [], v => [v]
  | .child selector :: path, v => (selector.choice v).flatMap (meaning path)
  | .descendant selector :: path, v =>
    v.throughout fun w => (selector.choice w).flatMap (meaning path)

end Path

/-! ### Selectors -/

/-- A position stands for an element from the start or from the end, or lies outside the array. -/
theorem Selector.pick_index (i : Int) (items : List Json) :
    (Selector.index i).pick (.array items) = (Selector.index i).choice (.array items) := by
  rw [pick, choice, place?]
  rcases Int.lt_or_le i 0 with before | after
  · by_cases inside : i.natAbs ≤ items.length
    · have place : items.length - i.natAbs = (items.length + i).toNat := by omega
      rw [if_neg (by omega), if_pos inside, if_neg (by omega), if_pos (by omega), place]
      rfl
    · rw [if_neg (by omega), if_neg inside, if_neg (by omega), if_neg (by omega)]
      rfl
  · by_cases inside : i < items.length
    · rw [if_pos after, if_pos ⟨after, inside⟩]
      rfl
    · have none : items[i.toNat]? = none := List.getElem?_eq_none (by omega)
      rw [if_pos after, if_neg (by omega), if_neg (by omega), Option.bind_some, none]
      rfl

theorem Selector.pick_eq_choice (selector : Selector) (v : Json) :
    selector.pick v = selector.choice v := by
  cases selector with
  | key name => cases v <;> rfl
  | wildcard => cases v <;> rfl
  | index i =>
    cases v with
    | array items => exact pick_index i items
    | _ => rfl

/-! ### Values inside a value -/

namespace Json

variable (f : Json → List Json)

theorem throughoutItems_eq_flatMap (items : List Json) :
    throughoutItems f items = items.flatMap (throughout f) := by
  induction items with
  | nil => rfl
  | cons v items ih => rw [throughoutItems, ih, List.flatMap_cons]

theorem throughoutMembers_eq_flatMap (members : List (String × Json)) :
    throughoutMembers f members = (members.map Prod.snd).flatMap (throughout f) := by
  induction members with
  | nil => rfl
  | cons m members ih => rw [throughoutMembers, ih, List.map_cons, List.flatMap_cons]

/-- At a value, and then throughout each of its children. -/
theorem throughout_eq (v : Json) :
    v.throughout f = f v ++ v.children.flatMap (throughout f) := by
  cases v with
  | array items => rw [throughout, throughoutItems_eq_flatMap, children]
  | object members => rw [throughout, throughoutMembers_eq_flatMap, children]
  | _ => simp [throughout, children]

theorem sizeItems_eq_zero_iff {vs : List Json} : sizeItems vs = 0 ↔ vs = [] := by
  cases vs with
  | nil => simp [sizeItems]
  | cons v vs => simp [sizeItems, size_eq_children]

end Json

/-! ### Walks -/

namespace Walk

variable {selector : Selector} {w w' : Walk}

theorem push_reverse (vs stack : List Json) : push vs.reverse stack = vs ++ stack := by
  rw [push, List.foldl_reverse]
  induction vs with
  | nil => rfl
  | cons v vs ih => rw [List.foldr_cons, ih, List.cons_append]

/-- A visit takes the value on top off the stack, and puts its children there. -/
theorem visit_eq_some_iff :
    w.visit selector = some w' ↔
      ∃ v stack, w.stack = v :: stack ∧
        w' = ⟨v.children ++ stack, w.picked ++ selector.pick v⟩ := by
  unfold visit
  cases w.stack with
  | nil => simp
  | cons v stack =>
    simp only [push_reverse]
    constructor
    · intro h
      exact ⟨v, stack, rfl, (Option.some.inj h).symm⟩
    · rintro ⟨v, stack, same, rfl⟩
      obtain ⟨rfl, rfl⟩ := List.cons.inj same
      rfl

theorem visit_eq_none_iff : w.visit selector = none ↔ w.stack = [] := by
  unfold visit
  cases w.stack <;> simp

/-- What is picked by a walk in the end: what was picked so far, and what is picked throughout the
values on the stack. -/
def outcome (selector : Selector) (w : Walk) : List Json :=
  w.picked.toList ++ w.stack.flatMap (Json.throughout selector.pick)

theorem outcome_visit (h : w.visit selector = some w') :
    w'.outcome selector = w.outcome selector := by
  obtain ⟨v, stack, top, rfl⟩ := visit_eq_some_iff.1 h
  -- what is picked throughout the top splits into what is picked now and what its children promise
  rw [outcome, outcome, top, List.flatMap_cons, Json.throughout_eq, List.flatMap_append]
  simp

/-- A visit leaves one value less to be visited. -/
theorem sizeItems_visit (h : w.visit selector = some w') :
    Json.sizeItems w.stack = Json.sizeItems w'.stack + 1 := by
  obtain ⟨v, stack, top, rfl⟩ := visit_eq_some_iff.1 h
  rw [top, Json.sizeItems, Json.size_eq_children, Json.sizeItems_append]
  omega

theorem outcome_run (selector : Selector) (n : Nat) (w : Walk) :
    (w.run selector n).outcome selector = w.outcome selector := by
  induction n generalizing w with
  | zero => rfl
  | succ n ih =>
    rw [run]
    cases h : w.visit selector with
    | none => rfl
    | some w' => exact (ih w').trans (outcome_visit h)

theorem sizeItems_run (n : Nat) (w : Walk) :
    Json.sizeItems (w.run selector n).stack = Json.sizeItems w.stack - n := by
  induction n generalizing w with
  | zero => rfl
  | succ n ih =>
    rw [run]
    cases h : w.visit selector with
    -- an empty stack stays empty, and so the subtraction stops at zero together with the walk
    | none =>
      have empty := Json.sizeItems_eq_zero_iff.2 (visit_eq_none_iff.1 h)
      dsimp only
      omega
    | some w' =>
      have visited := sizeItems_visit h
      have rest := ih w'
      dsimp only
      omega

/-- The stack of a walk is empty after as many visits as there are values, and not before. -/
theorem stack_run_start (selector : Selector) (v : Json) (n : Nat) :
    ((start v).run selector n).stack = [] ↔ v.size ≤ n := by
  rw [← Json.sizeItems_eq_zero_iff, sizeItems_run]
  simp only [start, Json.sizeItems]
  omega

/-- A walk picks throughout the value. -/
theorem picked_run_start (selector : Selector) {v : Json} {n : Nat} (enough : v.size ≤ n) :
    ((start v).run selector n).picked.toList = v.throughout selector.pick := by
  -- nothing is left on the stack, so all that the walk comes to has been picked
  have kept := outcome_run selector n (start v)
  rw [outcome, (stack_run_start selector v n).2 enough] at kept
  simpa [outcome, start] using kept

end Walk

theorem Segment.reach_descendant (selector : Selector) (v : Json) :
    (Segment.descendant selector).reach v = v.throughout selector.pick :=
  Walk.picked_run_start selector (Nat.le_refl _)

/-! ### Paths -/

mutual

theorem Json.flatMap_throughout (f g : Json → List Json) :
    (v : Json) → (v.throughout f).flatMap g = v.throughout fun w => (f w).flatMap g
  | .array items => by
    rw [throughout, throughout, List.flatMap_append, flatMap_throughoutItems f g items]
  | .object members => by
    rw [throughout, throughout, List.flatMap_append, flatMap_throughoutMembers f g members]
  | .null => rfl
  | .bool _ => rfl
  | .number _ => rfl
  | .string _ => rfl

theorem Json.flatMap_throughoutItems (f g : Json → List Json) :
    (items : List Json) → (throughoutItems f items).flatMap g =
      throughoutItems (fun w => (f w).flatMap g) items
  | [] => rfl
  | v :: items => by
    rw [throughoutItems, throughoutItems, List.flatMap_append, flatMap_throughout f g v,
      flatMap_throughoutItems f g items]

theorem Json.flatMap_throughoutMembers (f g : Json → List Json) :
    (members : List (String × Json)) → (throughoutMembers f members).flatMap g =
      throughoutMembers (fun w => (f w).flatMap g) members
  | [] => rfl
  | (_, v) :: members => by
    rw [throughoutMembers, throughoutMembers, List.flatMap_append, flatMap_throughout f g v,
      flatMap_throughoutMembers f g members]

end

namespace Path

theorem selectFrom_nil (path : Path) : path.selectFrom [] = [] := by
  cases path <;> rfl

/-- To stop when there are no values left is to lose nothing. -/
theorem selectFrom_cons (segment : Segment) (path : Path) (vs : List Json) :
    selectFrom (segment :: path) vs = selectFrom path (vs.flatMap segment.reach) := by
  rw [selectFrom]
  cases h : vs.flatMap segment.reach with
  | nil => exact (selectFrom_nil path).symm
  | cons v reached => rfl

theorem selectFrom_eq_foldl (path : Path) (vs : List Json) :
    path.selectFrom vs = path.foldl (fun reached segment => reached.flatMap segment.reach) vs := by
  induction path generalizing vs with
  | nil => rfl
  | cons segment path ih => rw [selectFrom_cons, ih, List.foldl_cons]

theorem selectFrom_append (p q : Path) (vs : List Json) :
    selectFrom (p ++ q) vs = selectFrom q (selectFrom p vs) := by
  simp only [selectFrom_eq_foldl, List.foldl_append]

theorem meaning_cons (segment : Segment) (path : Path) (v : Json) :
    meaning (segment :: path) v = (segment.reach v).flatMap (meaning path) := by
  cases segment with
  | child selector => rw [meaning, Segment.reach, Selector.pick_eq_choice]
  | descendant selector =>
    rw [meaning, Segment.reach_descendant, Json.flatMap_throughout]
    simp only [Selector.pick_eq_choice]

theorem selectFrom_eq_flatMap (path : Path) (vs : List Json) :
    path.selectFrom vs = vs.flatMap path.meaning := by
  induction path generalizing vs with
  | nil => simp [selectFrom, meaning]
  | cons segment path ih =>
    rw [selectFrom_cons, ih, List.flatMap_assoc, funext (meaning_cons segment path)]

theorem select_eq_meaning (path : Path) (root : Json) : path.select root = path.meaning root := by
  rw [select, selectFrom_eq_flatMap, List.flatMap_singleton]

/-- A deep segment means the same at a value and then, child by child, inside it. -/
theorem meaning_descendant (selector : Selector) (path : Path) (v : Json) :
    meaning (.descendant selector :: path) v =
      (selector.choice v).flatMap (meaning path) ++
        v.children.flatMap (meaning (.descendant selector :: path)) := by
  rw [meaning, Json.throughout_eq]
  rfl

/-- `select` computes the meaning of a path, which goes inside the value segment by segment, and so
one path behind another selects from what the first one selects.  The stack of a walk is empty after
as many visits as there are values, and not before; more visits pick nothing more.  To stop when no
values are left changes nothing. -/
theorem select_computes_meaning :
    (∀ (path : Path) root, path.select root = path.meaning root) ∧
    (∀ selector path v, meaning (.descendant selector :: path) v =
      (selector.choice v).flatMap (meaning path) ++
        v.children.flatMap (meaning (.descendant selector :: path))) ∧
    (∀ (p q : Path) root, (p ++ q).select root = (p.select root).flatMap q.select) ∧
    (∀ selector v n, ((Walk.start v).run selector n).stack = [] ↔ v.size ≤ n) ∧
    (∀ selector v n, ((Walk.start v).run selector (v.size + n)).picked.toList =
      (Segment.descendant selector).reach v) ∧
    (∀ (path : Path) vs, path.selectFrom vs =
      path.foldl (fun reached segment => reached.flatMap segment.reach) vs) := by
  refine ⟨select_eq_meaning, meaning_descendant, fun p q root => ?_, Walk.stack_run_start,
    fun selector v n => ?_, selectFrom_eq_foldl⟩
  · rw [select, selectFrom_append, selectFrom_eq_flatMap q, funext (select_eq_meaning q), select]
  · rw [Walk.picked_run_start selector (Nat.le_add_right _ _), Segment.reach_descendant]

end Path

end Verdict
