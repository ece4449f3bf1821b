import Verdict.Path.Memo
import Mathlib.Data.Finset.Card
import Mathlib.Data.List.DropRight

/-!
# The memo is a bounded queue

Entries and queue are changed one after the other, but they stay in step: the queue lists the texts of
the entries, each once, `InStep`.  That is all it takes to say what an insertion does: while there is
room the text is added, and in a full memo the text in front of the queue goes first.  `Remembers`
adds which texts came, and a memo that remembers fewer texts than it has room for remembers all of
them.
-/

namespace Verdict.Path.Memo

variable {capacity : Nat} {memo : Memo} {text oldest : String} {path : Option Path}
  {entries : List (String × Option Path)} {order : List String}

/-! ### Entries and queue -/

/-- The queue lists the texts of the entries, each once. -/
structure InStep (memo : Memo) : Prop where
  perm : memo.order.Perm (memo.entries.map Prod.fst)
  nodup : memo.order.Nodup

theorem inStep_empty : empty.InStep :=
  ⟨.refl _, .nil⟩

namespace InStep

theorem size_eq (h : memo.InStep) : memo.size = memo.order.length := by
  rw [size, h.perm.length_eq, List.length_map]

theorem isSome_find?_iff (h : memo.InStep) : (memo.find? text).isSome ↔ text ∈ memo.order := by
  rw [h.perm.mem_iff, find?, List.lookup_isSome_iff, List.mem_map]
  simp only [beq_iff_eq, eq_comm (a := text)]

end InStep

theorem lookup_cons_of_ne {t : String} (other : t ≠ text) :
    ((text, path) :: entries).lookup t = entries.lookup t := by
  rw [List.lookup_cons, beq_false_of_ne other]

theorem lookup_forget (oldest t : String) (entries : List (String × Option Path)) :
    (forget oldest entries).lookup t = if t = oldest then none else entries.lookup t := by
  induction entries with
  | nil => simp [forget]
  | cons entry entries ih =>
    obtain ⟨key, path⟩ := entry
    rw [forget] at ih
    rw [forget, List.filter_cons]
    by_cases gone : key = oldest
    · subst gone
      rw [if_neg (by simp), ih]
      split
      · rfl
      · rename_i other
        rw [lookup_cons_of_ne other]
    · rw [if_pos (by simpa using gone)]
      by_cases same : t = key
      · subst same
        rw [if_neg gone, List.lookup_cons_self, List.lookup_cons_self]
      · rw [lookup_cons_of_ne same, lookup_cons_of_ne same, ih]

/-- The text in front of the queue can be forgotten. -/
theorem InStep.forget (h : InStep ⟨entries, oldest :: order⟩) :
    InStep ⟨forget oldest entries, order⟩ := by
  obtain ⟨perm, nodup⟩ := h
  obtain ⟨once, nodup⟩ := List.nodup_cons.1 nodup
  refine ⟨?_, nodup⟩
  -- the queue loses its front, the entries all that have this text: both are the same filter
  have rest : (oldest :: order).filter (· != oldest) = order := by
    rw [List.filter_cons, if_neg (by simp), List.filter_eq_self]
    intro t mem
    simpa using fun same : t = oldest => once (same ▸ mem)
  have kept := perm.filter (· != oldest)
  rw [rest, List.filter_map] at kept
  exact kept

/-- A text that is not remembered can be added. -/
theorem InStep.add (h : InStep ⟨entries, order⟩) (new : text ∉ order) (path : Option Path) :
    InStep ⟨(text, path) :: entries, order ++ [text]⟩ := by
  refine ⟨List.perm_append_singleton text order |>.trans (h.perm.cons text), ?_⟩
  rw [List.nodup_append_comm]
  exact List.nodup_cons.2 ⟨new, h.nodup⟩

/-! ### Insertion -/

/-- No text goes while there is room. -/
theorem makeRoom_of_lt (room : entries.length < capacity) :
    makeRoom capacity entries order = ⟨entries, order⟩ := by
  cases order with
  | nil => rfl
  | cons oldest order => rw [makeRoom, if_neg (by omega)]

/-- In a full memo the text in front of the queue goes, and no other. -/
theorem makeRoom_of_full (h : InStep ⟨entries, oldest :: order⟩)
    (full : entries.length = capacity) :
    makeRoom capacity entries (oldest :: order) = ⟨forget oldest entries, order⟩ := by
  have before := h.size_eq
  have after := h.forget.size_eq
  simp only [size, List.length_cons] at before after
  rw [makeRoom, if_pos (by omega), makeRoom_of_lt (by omega)]

/-- The queue comes to its end before there is room. -/
def RunsOut (capacity : Nat) (entries : List (String × Option Path)) : List String → Prop
  | [] => capacity ≤ entries.length
  | oldest :: order =>
    capacity ≤ entries.length ∧ RunsOut capacity (forget oldest entries) order

/-- A memo of which entries and queue are in step never runs out of texts before there is room. -/
theorem InStep.not_runsOut (h : InStep ⟨entries, order⟩) (some : 0 < capacity) :
    ¬ RunsOut capacity entries order := by
  induction order generalizing entries with
  | nil =>
    have none := h.size_eq
    simp only [size, List.length_nil] at none
    rw [RunsOut]
    omega
  | cons oldest order ih =>
    rintro ⟨-, rest⟩
    exact ih h.forget rest

section Insertion

variable (h : memo.InStep)
include h

theorem insert_of_not_new (remembered : capacity = 0 ∨ text ∈ memo.order) :
    memo.insert capacity text path = memo := by
  rw [insert, if_pos (remembered.imp_right h.isSome_find?_iff.2)]

variable (some : 0 < capacity) (new : text ∉ memo.order)
include some new

theorem insert_of_new :
    memo.insert capacity text path =
      ⟨(text, path) :: (makeRoom capacity memo.entries memo.order).entries,
        (makeRoom capacity memo.entries memo.order).order ++ [text]⟩ := by
  have not_remembered : ¬ (capacity = 0 ∨ (memo.find? text).isSome) := by
    rw [h.isSome_find?_iff]
    exact not_or.2 ⟨by omega, new⟩
  rw [insert, if_neg not_remembered]

/-- A new text is added while there is room. -/
theorem insert_of_room (room : memo.size < capacity) :
    memo.insert capacity text path = ⟨(text, path) :: memo.entries, memo.order ++ [text]⟩ := by
  rw [insert_of_new h some new, makeRoom_of_lt room]

/-- A new text takes the place of the oldest one in a full memo. -/
theorem insert_of_full (path : Option Path) (full : memo.size = capacity) :
    ∃ oldest order, memo.order = oldest :: order ∧
      memo.insert capacity text path =
        ⟨(text, path) :: forget oldest memo.entries, order ++ [text]⟩ := by
  have length := h.size_eq
  rw [insert_of_new h some new]
  obtain ⟨entries, _ | ⟨oldest, order⟩⟩ := memo
  · simp only [List.length_nil] at length
    omega
  · exact ⟨oldest, order, rfl, by rw [makeRoom_of_full h full]⟩

end Insertion

/-! ### Runs -/

/-- What can be done with a memo: something is looked up, or inserted. -/
inductive Operation where
  | find (text : String)
  | insert (text : String) (path : Option Path)

namespace Operation

/-- The memo behind an operation. -/
def apply (capacity : Nat) (memo : Memo) : Operation → Memo
  | find _ => memo
  | insert text path => memo.insert capacity text path

/-- The text that is inserted, if any. -/
def inserted? : Operation → Option String
  | find _ => none
  | insert text _ => some text

/-- The text that is new to the memo, if any. -/
def newcomer? (capacity : Nat) (memo : Memo) (operation : Operation) : Option String :=
  operation.inserted?.filter fun text => capacity ≠ 0 ∧ text ∉ memo.order

end Operation

/-- The memo behind a sequence of operations. -/
def after (capacity : Nat) (memo : Memo) (operations : List Operation) : Memo :=
  operations.foldl (Operation.apply capacity) memo

/-- The texts that are new to the memo when they are inserted, in order.  A text that was forgotten
is new again. -/
def newcomers (capacity : Nat) : Memo → List Operation → List String
  | _, [] => []
  | memo, operation :: operations =>
    (operation.newcomer? capacity memo).toList ++
      newcomers capacity (operation.apply capacity memo) operations

/-- A memo to which the given texts came. -/
structure Remembers (capacity : Nat) (texts : Finset String) (memo : Memo) : Prop
    extends memo.InStep where
  bounded : memo.size ≤ capacity
  came : ∀ text ∈ memo.order, text ∈ texts
  all : memo.size < capacity → ∀ text ∈ texts, text ∈ memo.order

theorem remembers_empty (capacity : Nat) : Remembers capacity ∅ empty where
  toInStep := inStep_empty
  bounded := Nat.zero_le _
  came := by simp [empty]
  all := by simp

namespace Remembers

variable {texts : Finset String}

theorem size_eq_min (h : memo.Remembers capacity texts) : memo.size = min capacity texts.card := by
  have card : memo.order.toFinset.card = memo.size := by
    rw [List.toFinset_card_of_nodup h.nodup, h.size_eq]
  have fewer : memo.order.toFinset ⊆ texts := fun text mem => h.came text (List.mem_toFinset.1 mem)
  have le := Finset.card_le_card fewer
  rcases Nat.lt_or_ge memo.size capacity with room | full
  · have same : memo.order.toFinset = texts :=
      fewer.antisymm fun text mem => List.mem_toFinset.2 (h.all room text mem)
    rw [same] at card
    omega
  · have := h.bounded
    omega

/-- A text that is remembered may come again. -/
theorem again (h : memo.Remembers capacity texts) (mem : text ∈ memo.order) :
    memo.Remembers capacity (texts ∪ {text}) := by
  rwa [Finset.union_eq_left.2 (Finset.singleton_subset_iff.2 (h.came text mem))]

theorem insert (h : memo.Remembers capacity texts) (text : String) (path : Option Path) :
    (memo.insert capacity text path).Remembers capacity (texts ∪ {text}) := by
  have came := h.came
  by_cases remembered : capacity = 0 ∨ text ∈ memo.order
  · rw [insert_of_not_new h.toInStep remembered]
    rcases remembered with rfl | mem
    · exact { h with
        came := fun t mem => Finset.mem_union_left _ (came t mem)
        all := fun room => absurd room (Nat.not_lt_zero _) }
    · exact h.again mem
  · obtain ⟨some, new⟩ := not_or.1 remembered
    have some : 0 < capacity := Nat.pos_of_ne_zero some
    rcases Nat.lt_or_eq_of_le h.bounded with room | full
    · rw [insert_of_room h.toInStep some new room]
      refine ⟨h.add new path, room, ?_, fun _ => ?_⟩
      · simp only [List.mem_append, List.mem_singleton, Finset.mem_union, Finset.mem_singleton]
        exact fun t mem => mem.imp_left (came t)
      · simp only [List.mem_append, List.mem_singleton, Finset.mem_union, Finset.mem_singleton]
        exact fun t mem => mem.imp_left (h.all room t)
    · obtain ⟨oldest, order, front, replaced⟩ := insert_of_full h.toInStep some new path full
      have before := h.size_eq
      have rest : InStep ⟨forget oldest memo.entries, order⟩ := InStep.forget (front ▸ h.toInStep)
      have still : text ∉ order := fun mem => new (front ▸ List.mem_cons_of_mem oldest mem)
      have after := (rest.add still path).size_eq
      rw [front, List.length_cons] at before
      rw [List.length_append, List.length_singleton] at after
      rw [replaced]
      -- the memo is as full as before, so it owes nothing to the texts that are forgotten
      refine ⟨rest.add still path, by omega, ?_, by omega⟩
      simp only [List.mem_append, List.mem_singleton, Finset.mem_union, Finset.mem_singleton]
      exact fun t mem => mem.imp_left fun mem => came t (front ▸ List.mem_cons_of_mem oldest mem)

theorem after (h : memo.Remembers capacity texts) (operations : List Operation) :
    (memo.after capacity operations).Remembers capacity
      (texts ∪ (operations.filterMap Operation.inserted?).toFinset) := by
  induction operations generalizing memo texts with
  | nil => simpa [Memo.after] using h
  | cons operation operations ih =>
    cases operation with
    | find text => exact ih h
    | insert text path =>
      have rest := ih (h.insert text path)
      rwa [Finset.union_assoc, ← Finset.insert_eq, ← List.toFinset_cons] at rest

end Remembers

/-! ### The order of the queue -/

theorem rtake_rtake_append (n : Nat) (before behind : List String) :
    (before.rtake n ++ behind).rtake n = (before ++ behind).rtake n := by
  simp only [List.rtake_eq_reverse_take_reverse, List.reverse_append, List.reverse_reverse,
    List.take_append, List.take_take]
  rw [Nat.min_eq_left (Nat.sub_le _ _)]

theorem rtake_eq_self {n : Nat} {l : List String} (short : l.length ≤ n) : l.rtake n = l := by
  rw [List.rtake, Nat.sub_eq_zero_of_le short, List.drop_zero]

/-- The queue keeps the last texts of those that it had and of the one that is new. -/
theorem Remembers.order_apply {texts : Finset String} (h : memo.Remembers capacity texts)
    (operation : Operation) :
    (operation.apply capacity memo).order =
      (memo.order ++ (operation.newcomer? capacity memo).toList).rtake capacity := by
  have short : memo.order.length ≤ capacity := h.size_eq ▸ h.bounded
  cases operation with
  | find text => simpa [Operation.apply, Operation.newcomer?, Operation.inserted?] using
      (rtake_eq_self short).symm
  | insert text path =>
    rw [Operation.apply, Operation.newcomer?, Operation.inserted?, Option.filter_some]
    by_cases remembered : capacity = 0 ∨ text ∈ memo.order
    · have old : ¬ (capacity ≠ 0 ∧ text ∉ memo.order) := by tauto
      rw [insert_of_not_new h.toInStep remembered, if_neg (by simpa using old)]
      simpa using (rtake_eq_self short).symm
    · obtain ⟨some, new⟩ := not_or.1 remembered
      rw [if_pos (by simpa using ⟨some, new⟩)]
      have some : 0 < capacity := Nat.pos_of_ne_zero some
      rcases Nat.lt_or_eq_of_le h.bounded with room | full
      · have fits : (memo.order ++ [text]).length ≤ capacity := by
          rw [List.length_append, ← h.size_eq]
          exact room
        rw [insert_of_room h.toInStep some new room, Option.toList_some, rtake_eq_self fits]
      · obtain ⟨oldest, order, front, replaced⟩ := insert_of_full h.toInStep some new path full
        have length := h.size_eq
        rw [front, List.length_cons, full] at length
        rw [replaced, front, length, Option.toList_some, List.rtake_concat_succ]
        simp [List.rtake]

/-- The texts of the queue are the last ones that came, in order. -/
theorem Remembers.order_after {texts : Finset String} (h : memo.Remembers capacity texts)
    (operations : List Operation) :
    (memo.after capacity operations).order =
      (memo.order ++ newcomers capacity memo operations).rtake capacity := by
  induction operations generalizing memo texts with
  | nil =>
    have short : memo.order.length ≤ capacity := h.size_eq ▸ h.bounded
    rw [newcomers, List.append_nil, rtake_eq_self short]
    rfl
  | cons operation operations ih =>
    have next := h.after [operation]
    -- what was cut off after the first operation would be cut off in the end anyway
    rw [newcomers, ← List.append_assoc, ← rtake_rtake_append, ← h.order_apply]
    exact ih next

end Verdict.Path.Memo
