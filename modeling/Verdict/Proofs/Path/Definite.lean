import Mathlib.Algebra.Order.Group.Nat
import Mathlib.Data.List.Flatten
import Verdict.Proofs.Json.Ordered
import Verdict.Proofs.Path.Meaning

/-!
# Definite paths

A definite path leads to one value at most, whatever the document, since each of its segments does.
The other direction needs a document for each path: `Path.sample` is built from the last segment to
the first one, around null, with two copies of what is built so far wherever a segment leads on from
both.  All copies are reached in the end, so each segment that is not definite doubles the number of
values, `two_pow_le_length_select`.  Therefore the answer to a path leaves out nothing that the path
leads to.
-/

namespace Verdict

/-! ### One value at most -/

theorem Segment.length_reach_le_one {segment : Segment} (definite : segment.isDefinite = true)
    (v : Json) : (segment.reach v).length ≤ 1 := by
  have one {α : Type} (o : Option α) : o.toList.length ≤ 1 := by cases o <;> simp
  cases segment with
  | descendant selector => simp [isDefinite] at definite
  | child selector =>
    rw [reach]
    cases selector with
    | wildcard => simp [isDefinite] at definite
    | key name => cases v <;> simp only [Selector.pick, one, List.length_nil, Nat.zero_le]
    | index i => cases v <;> simp only [Selector.pick, one, List.length_nil, Nat.zero_le]

theorem Path.length_select_le_one {path : Path} (definite : path.isDefinite = true)
    (document : Json) : (path.select document).length ≤ 1 := by
  rw [select_eq_meaning]
  induction path generalizing document with
  | nil => simp [meaning]
  | cons segment path ih =>
    obtain ⟨first, others⟩ : segment.isDefinite = true ∧ isDefinite path = true := by
      simpa [isDefinite] using definite
    have one := segment.length_reach_le_one first document
    rw [meaning_cons]
    cases reached : segment.reach document with
    | nil => simp
    | cons v rest =>
      obtain rfl : rest = [] := by simpa [reached] using one
      rw [List.flatMap_singleton]
      exact ih others v

/-! ### Documents for a path -/

namespace Selector

/-- A value from which the selector picks a given one, and a wildcard two copies of it. -/
def around : Selector → Json → Json
  | .key name, v => .object [(name, v)]
  | .index i, v => .array (.replicate (i.natAbs + 1) v)
  | .wildcard, v => .array [v, v]

theorem mem_pick_around (selector : Selector) (v : Json) : v ∈ selector.pick (selector.around v) := by
  cases selector with
  | key name => simp [pick, around]
  | wildcard => simp [pick, around, Json.children]
  | index i =>
    -- from the start it is the last copy, and from the end it is the second one
    have inside : ∃ n, place? i (i.natAbs + 1) = some n ∧ n < i.natAbs + 1 := by
      by_cases after : 0 ≤ i
      · exact ⟨i.toNat, by rw [place?, if_pos after], by omega⟩
      · refine ⟨i.natAbs + 1 - i.natAbs, ?_, by omega⟩
        rw [place?, if_neg after, if_pos (Nat.le_succ _)]
    obtain ⟨n, place, before⟩ := inside
    have copy : (List.replicate (i.natAbs + 1) v)[n]? = some v := by
      rw [List.getElem?_replicate, if_pos before]
    rw [around, pick, List.length_replicate, place, Option.bind_some, copy]
    simp

theorem ordered_around (selector : Selector) {v : Json} (h : v.Ordered) :
    (selector.around v).Ordered := by
  cases selector with
  | key name => exact .object (by simp) (by simpa using h)
  | index i => exact .array fun w mem => by rwa [List.eq_of_mem_replicate mem]
  | wildcard => exact .array (by simpa using h)

end Selector

namespace Segment

/-- A value from which the segment leads to a given one, and twice to it if it is not definite. -/
def around : Segment → Json → Json
  | child selector, v => selector.around v
  | descendant selector, v => .array [selector.around v, selector.around v]

theorem ordered_around (segment : Segment) {v : Json} (h : v.Ordered) :
    (segment.around v).Ordered := by
  cases segment with
  | child selector => exact selector.ordered_around h
  | descendant selector => exact .array (by simpa using selector.ordered_around h)

theorem mem_throughout (selector : Selector) (v : Json) :
    v ∈ (selector.around v).throughout selector.pick := by
  rw [Json.throughout_eq]
  exact List.mem_append_left _ (selector.mem_pick_around v)

theorem copies_reached (segment : Segment) (v : Json) :
    (List.replicate (if segment.isDefinite then 1 else 2) v).Sublist
      (segment.reach (segment.around v)) := by
  cases segment with
  | descendant selector =>
    have once := List.singleton_sublist.2 (mem_throughout selector v)
    rw [reach_descendant, around, Json.throughout_eq]
    -- one copy is reached inside each of the two elements
    exact ((once.append once).trans (by simp [Json.children])).trans (List.sublist_append_right _ _)
  | child selector =>
    cases selector with
    | wildcard => simp [isDefinite, reach, around, Selector.pick, Selector.around, Json.children]
    | key name => exact List.singleton_sublist.2 ((Selector.key name).mem_pick_around v)
    | index i => exact List.singleton_sublist.2 ((Selector.index i).mem_pick_around v)

end Segment

namespace Path

/-- A document in which the path leads to values, and to more of them the less definite it is. -/
def sample (path : Path) : Json :=
  path.foldr Segment.around .null

theorem ordered_sample (path : Path) : path.sample.Ordered := by
  induction path with
  | nil => exact .null
  | cons segment path ih => exact segment.ordered_around ih

/-- Each segment that is not definite doubles the number of values that are reached. -/
theorem two_pow_le_length_select (path : Path) :
    2 ^ path.countP (fun segment => !segment.isDefinite) ≤ (path.select path.sample).length := by
  rw [select_eq_meaning]
  induction path with
  | nil => simp [meaning]
  | cons segment path ih =>
    have reached := ((segment.copies_reached (sample path)).flatMap (meaning path)).length_le
    rw [List.flatMap_replicate, List.length_flatten, List.map_replicate,
      List.sum_replicate_nat] at reached
    rw [meaning_cons, List.countP_cons]
    refine Nat.le_trans ?_ reached
    cases segment.isDefinite with
    | true => simpa using ih
    | false => simpa [Nat.pow_succ'] using Nat.mul_le_mul_left 2 ih

theorem two_le_length_select {path : Path} (several : path.isDefinite = false) :
    2 ≤ (path.select path.sample).length := by
  obtain ⟨segment, mem, here⟩ : ∃ segment ∈ path, segment.isDefinite = false := by
    simpa [isDefinite] using several
  have doubled : 0 < path.countP fun segment => !segment.isDefinite :=
    List.countP_pos_iff.2 ⟨segment, mem, by simp [here]⟩
  calc 2
    _ ≤ 2 ^ path.countP (fun segment => !segment.isDefinite) := Nat.le_self_pow (by omega) 2
    _ ≤ (path.select path.sample).length := path.two_pow_le_length_select

/-! ### Answers -/

theorem toList_query {path : Path} (definite : path.isDefinite = true) (document : Json) :
    (path.query document).toList = path.select document := by
  have one := length_select_le_one definite document
  rw [query, if_pos definite]
  cases reached : path.select document with
  | nil => rfl
  | cons v rest =>
    obtain rfl : rest = [] := by simpa [reached] using one
    rfl

/-- A path is definite just when it leads to one value at most in every document.  Its answer leaves
out nothing: for a definite path it is the value that the path leads to, if there is one, and for any
other path the array of all values, be it empty. -/
theorem isDefinite_iff_one_at_most (path : Path) :
    (path.isDefinite = true ↔
      ∀ document : Json, document.Ordered → (path.select document).length ≤ 1) ∧
    ∀ document : Json,
      path.isDefinite = true ∧ (path.query document).toList = path.select document ∨
      path.isDefinite = false ∧ path.query document = some (.array (path.select document)) := by
  constructor
  · constructor
    · exact fun definite document _ => length_select_le_one definite document
    · intro one
      by_contra several
      have two := two_le_length_select (Bool.eq_false_iff.2 several)
      have most := one path.sample path.ordered_sample
      omega
  · intro document
    cases definite : path.isDefinite with
    | true => exact .inl ⟨rfl, toList_query definite document⟩
    | false => exact .inr ⟨rfl, by rw [query, definite]; rfl⟩

end Path

end Verdict
