import Mathlib.Data.List.DropRight
import Mathlib.Data.List.Perm.Basic
import Verdict.Proofs.Path.Places

/-!
# The order in which a path selects

The order of a document is the order in which a walk comes to its values, each one before its children;
locations are compared as lists, `ascending_places`.  A path without deep segments selects in this
order.  A deep segment picks the children of a value before it goes on inside them, so that the order
is that of the values where it picks, `before_places`, and not that of the values that are picked,
`select_out_of_order`.  With one deep segment in a path, no place is reached twice.
-/

namespace Verdict

/-! ### Locations -/

/-- Without their last `n` steps the first location comes before the second one, or they are the same
without them and it comes before the second one with them. -/
def Location.Before (n : Nat) (l m : Location) : Prop :=
  l.rdrop n < m.rdrop n ∨ l.rdrop n = m.rdrop n ∧ l < m

namespace Location

variable {n : Nat} {l m : Location}

theorem before_zero_iff : Before 0 l m ↔ l < m := by
  rw [Before, List.rdrop_zero, List.rdrop_zero]
  exact ⟨fun h => h.elim id And.right, .inl⟩

theorem Before.ne (h : Before n l m) : l ≠ m := by
  rintro rfl
  exact h.elim (List.lt_irrefl _) fun same => List.lt_irrefl _ same.2

theorem Before.append_left (h : Before n l m) (first : n ≤ l.length) (second : n ≤ m.length)
    (k : Location) : Before n (k ++ l) (k ++ m) := by
  rw [Before, List.rdrop_append_of_le_length n first, List.rdrop_append_of_le_length n second]
  exact h.imp List.append_left_lt fun same => ⟨congrArg _ same.1, List.append_left_lt same.2⟩

/-- Different steps at the beginning decide. -/
theorem before_of_step {i j : Nat} (step : i < j) (first : n ≤ l.length) (second : n ≤ m.length) :
    Before n ([i] ++ l) ([j] ++ m) := by
  rw [Before, List.rdrop_append_of_le_length n first, List.rdrop_append_of_le_length n second]
  exact .inl (List.cons_lt_cons_iff.2 (.inl step))

end Location

/-! ### The walk through a value -/

namespace Json

theorem ascending_childPlaces (v : Json) :
    v.childPlaces.Pairwise fun c d => ∃ i j, c.location = [i] ∧ d.location = [j] ∧ i < j := by
  have positions : (v.children.zipIdx.map Prod.snd).Pairwise (· < ·) := by
    rw [List.zipIdx_map_snd]
    exact List.pairwise_lt_range' 1
  rw [childPlaces, List.pairwise_map]
  exact (List.pairwise_map.1 positions).imp fun step => ⟨_, _, rfl, rfl, step⟩

/-- A walk comes to the locations in ascending order. -/
theorem ascending_places (v : Json) :
    v.places.Pairwise fun p q => p.location < q.location := by
  induction v using Json.induction with
  | step v ih =>
    rw [places_eq, List.pairwise_cons, List.pairwise_flatMap]
    refine ⟨fun q mem => ?_, fun c child => ?_, (ascending_childPlaces v).imp ?_⟩
    · obtain ⟨c, child, mem⟩ := List.mem_flatMap.1 mem
      obtain ⟨q, -, rfl⟩ := List.mem_map.1 mem
      obtain ⟨i, here, -⟩ := mem_childPlaces_iff.1 child
      rw [Place.below, here]
      exact List.nil_lt_cons _ _
    · obtain ⟨i, -, here⟩ := mem_childPlaces_iff.1 child
      rw [List.pairwise_map]
      exact (ih c.value (List.mem_of_getElem? here)).imp List.append_left_lt
    · rintro c d ⟨i, j, first, second, step⟩ p mem q mem'
      obtain ⟨p, -, rfl⟩ := List.mem_map.1 mem
      obtain ⟨q, -, rfl⟩ := List.mem_map.1 mem'
      rw [Place.below, Place.below, first, second]
      exact List.cons_lt_cons_iff.2 (.inl step)

/-- How many values a walk comes to before it comes to a location. -/
def rank (v : Json) (location : Location) : Nat :=
  (v.places.map Place.location).idxOf location

theorem rank_lt_rank {v : Json} {p q : Place} (hp : p ∈ v.places) (hq : q ∈ v.places)
    (before : p.location < q.location) : v.rank p.location < v.rank q.location := by
  have ascending : (v.places.map Place.location).Pairwise (· < ·) :=
    List.pairwise_map.2 (ascending_places v)
  have hp' := List.idxOf_lt_length_iff.2 (List.mem_map_of_mem (f := Place.location) hp)
  have hq' := List.idxOf_lt_length_iff.2 (List.mem_map_of_mem (f := Place.location) hq)
  by_contra after
  rcases Nat.lt_or_eq_of_le (Nat.le_of_not_lt after) with after | same
  · have wrong := List.pairwise_iff_getElem.1 ascending _ _ hq' hp' after
    rw [List.getElem_idxOf, List.getElem_idxOf] at wrong
    exact List.lt_irrefl _ (List.lt_trans before wrong)
  · refine List.lt_irrefl p.location ?_
    rwa [(List.idxOf_inj (List.mem_map_of_mem hq)).1 same] at before

end Json

/-! ### Paths with one deep segment at most -/

/-- Does the segment look inside the values reached so far? -/
def Segment.isDeep : Segment → Bool
  | child _ => false
  | descendant _ => true

namespace Path

/-- How many segments of the path are deep. -/
def scans (path : Path) : Nat :=
  path.countP Segment.isDeep

/-- How many steps the path takes from the values on where its first deep segment picks. -/
def stepsFromScan : Path → Nat
  | [] => 0
  | .child _ :: path => stepsFromScan path
  | .descendant _ :: path => path.length + 1

theorem scans_child (selector : Selector) (path : Path) :
    scans (.child selector :: path) = path.scans :=
  List.countP_cons_of_neg (by simp [Segment.isDeep])

theorem scans_descendant (selector : Selector) (path : Path) :
    scans (.descendant selector :: path) = path.scans + 1 :=
  List.countP_cons_of_pos rfl

theorem stepsFromScan_le_length (path : Path) : path.stepsFromScan ≤ path.length := by
  induction path with
  | nil => exact Nat.le_refl _
  | cons segment path ih =>
    cases segment with
    | child selector => exact Nat.le_succ_of_le ih
    | descendant selector => exact Nat.le_refl _

section Lengths

variable {selector : Selector} {path : Path} {v : Json} {p : Place}

theorem mem_places_child (mem : p ∈ places (.child selector :: path) v) :
    ∃ c ∈ v.childPlaces, ∃ q ∈ path.places c.value, p = c.below q ∧
      p.location.length = q.location.length + 1 := by
  obtain ⟨c, child, mem⟩ := List.mem_flatMap.1 mem
  obtain ⟨q, inner, rfl⟩ := List.mem_map.1 mem
  have child := (selector.places_sublist v).subset child
  obtain ⟨i, here, -⟩ := Json.mem_childPlaces_iff.1 child
  refine ⟨c, child, q, inner, rfl, ?_⟩
  rw [Place.below, here, List.length_append, List.length_singleton, Nat.add_comm]

/-- A path goes at least one step with each segment. -/
theorem length_le_of_mem_places (mem : p ∈ path.places v) : path.length ≤ p.location.length := by
  induction path generalizing v p with
  | nil => exact Nat.zero_le _
  | cons segment path ih =>
    cases segment with
    | child selector =>
      obtain ⟨c, -, q, inner, -, length⟩ := mem_places_child mem
      rw [length]
      exact Nat.succ_le_succ (ih inner)
    | descendant selector =>
      rw [places_descendant] at mem
      obtain ⟨outer, -, mem⟩ := List.mem_flatMap.1 mem
      obtain ⟨p, behind, rfl⟩ := List.mem_map.1 mem
      obtain ⟨c, -, q, inner, -, length⟩ := mem_places_child behind
      rw [Place.below, List.length_append, length]
      have := ih inner
      rw [List.length_cons]
      omega

/-- A path without deep segments goes one step with each segment. -/
theorem length_of_shallow (shallow : path.scans = 0) (mem : p ∈ path.places v) :
    p.location.length = path.length := by
  induction path generalizing v p with
  | nil =>
    obtain rfl := List.mem_singleton.1 mem
    rfl
  | cons segment path ih =>
    cases segment with
    | child selector =>
      obtain ⟨c, -, q, inner, -, length⟩ := mem_places_child mem
      rw [length, ih ((scans_child selector path).symm.trans shallow) inner, List.length_cons]
    | descendant selector => simp [scans_descendant] at shallow

end Lengths

/-- What comes behind a step to a child stays in order. -/
theorem before_places_child {path : Path} {n : Nat}
    (inner : ∀ v, (path.places v).Pairwise fun p q => Location.Before n p.location q.location)
    (le : n ≤ path.length) (selector : Selector) (v : Json) :
    (places (.child selector :: path) v).Pairwise fun p q =>
      Location.Before n p.location q.location := by
  have long {w : Json} {p : Place} (mem : p ∈ path.places w) : n ≤ p.location.length :=
    Nat.le_trans le (length_le_of_mem_places mem)
  rw [places, List.pairwise_flatMap]
  constructor
  · intro c child
    rw [List.pairwise_map]
    exact (inner c.value).imp_of_mem fun first second before =>
      before.append_left (long first) (long second) c.location
  · refine ((Json.ascending_childPlaces v).sublist (selector.places_sublist v)).imp ?_
    rintro c d ⟨i, j, here, there, step⟩ p mem q mem'
    obtain ⟨p, first, rfl⟩ := List.mem_map.1 mem
    obtain ⟨q, second, rfl⟩ := List.mem_map.1 mem'
    rw [Place.below, Place.below, here, there]
    exact Location.before_of_step step (long first) (long second)

/-- A path without deep segments leads to places in ascending order. -/
theorem ascending_of_shallow {path : Path} (shallow : path.scans = 0) (v : Json) :
    (path.places v).Pairwise fun p q => Location.Before 0 p.location q.location := by
  induction path generalizing v with
  | nil => exact List.pairwise_singleton _ _
  | cons segment path ih =>
    cases segment with
    | child selector =>
      exact before_places_child (ih ((scans_child selector path).symm.trans shallow))
        (Nat.zero_le _) selector v
    | descendant selector => simp [scans_descendant] at shallow

/-- The places are in the order of the values where the deep segment picks, and in that of the document
among those that come from one of these values. -/
theorem before_places {path : Path} (once : path.scans ≤ 1) (v : Json) :
    (path.places v).Pairwise fun p q =>
      Location.Before path.stepsFromScan p.location q.location := by
  induction path generalizing v with
  | nil => exact List.pairwise_singleton _ _
  | cons segment path ih =>
    cases segment with
    | child selector =>
      exact before_places_child (ih ((scans_child selector path).symm.trans_le once))
        (stepsFromScan_le_length path) selector v
    | descendant selector =>
      -- behind the only deep segment all steps are single ones, so that dropping them leaves the
      -- location where it picks
      have shallow : scans (.child selector :: path) = 0 := by
        rw [scans_descendant] at once
        rw [scans_child]
        omega
      have rdrop {p q : Place} (mem : q ∈ places (.child selector :: path) p.value) :
          (p.below q).location.rdrop (path.length + 1) = p.location := by
        rw [← List.length_cons, ← length_of_shallow shallow mem]
        exact List.rdrop_append_length
      rw [places_descendant, List.pairwise_flatMap]
      constructor
      · intro p _
        rw [List.pairwise_map]
        refine (ascending_of_shallow shallow p.value).imp_of_mem fun first second before => ?_
        exact .inr ⟨(rdrop first).trans (rdrop second).symm,
          List.append_left_lt (Location.before_zero_iff.1 before)⟩
      · refine (Json.ascending_places v).imp fun before => ?_
        intro p mem q mem'
        obtain ⟨p, first, rfl⟩ := List.mem_map.1 mem
        obtain ⟨q, second, rfl⟩ := List.mem_map.1 mem'
        refine .inl ?_
        rw [stepsFromScan, rdrop first, rdrop second]
        exact before

/-! ### No place twice -/

theorem nodup_places {path : Path} (once : path.scans ≤ 1) (v : Json) :
    ((path.places v).map Place.location).Nodup :=
  List.pairwise_map.2 ((before_places once v).imp Location.Before.ne)

theorem places_wildcard (v : Json) : places [.child .wildcard] v = v.childPlaces := by
  simp [places, Segment.places, Selector.places, Place.below]

/-- A deep wildcard leads to all that is inside. -/
theorem mem_places_wildcard_iff {v : Json} {p : Place} :
    p ∈ places [.descendant .wildcard] v ↔
      p.location ≠ [] ∧ v.reach? p.location = some p.value := by
  rw [places_descendant, List.mem_flatMap]
  simp only [places_wildcard, List.mem_map]
  constructor
  · rintro ⟨q, outer, c, child, rfl⟩
    obtain ⟨i, here, -⟩ := Json.mem_childPlaces_iff.1 child
    refine ⟨by simp [Place.below, here], ?_⟩
    exact Json.reach?_below (Json.mem_places_iff.1 outer) (Json.reach?_of_mem_childPlaces child)
  · rintro ⟨inside, found⟩
    obtain ⟨l, i, split⟩ := (List.eq_nil_or_concat' p.location).resolve_left inside
    rw [split, Json.reach?_append] at found
    obtain ⟨w, outer, found⟩ := Option.bind_eq_some_iff.1 found
    obtain ⟨c, child, same⟩ := Option.bind_eq_some_iff.1 found
    obtain rfl : c = p.value := Option.some.inj same
    refine ⟨⟨l, w⟩, Json.mem_places_iff.2 outer, ⟨[i], p.value⟩, ?_, ?_⟩
    · exact Json.mem_childPlaces_iff.2 ⟨i, rfl, child⟩
    · rw [Place.below, ← split]

/-- A path with one deep segment at most leads to no place twice: its places, which hold the values that
it selects, have different locations.  A deep wildcard by itself leads to all places but that of the
document. -/
theorem nodup_of_one_scan {path : Path} (once : path.scans ≤ 1) (document : Json) :
    (path.places document).map Place.value = path.select document ∧
    (∀ p ∈ path.places document, document.reach? p.location = some p.value) ∧
    ((path.places document).map Place.location).Nodup ∧
    ∀ p, p ∈ places [.descendant .wildcard] document ↔
      p.location ≠ [] ∧ document.reach? p.location = some p.value :=
  ⟨map_value_places path document, fun _ => reach?_of_mem_places, nodup_places once document,
    fun _ => mem_places_wildcard_iff⟩

theorem nodup_of_one_scan_below_wildcard :
    let path : Path := [.child .wildcard, .descendant (.key "a")]
    let document : Json := .array [.object [("a", .object [("a", .null)])], .object [("a", .null)]]
    path.scans ≤ 1 ∧ (path.places document).map Place.location = [[0, 0], [0, 0, 0], [1, 0]] ∧
      ((path.places document).map Place.location).Nodup := by
  intro path document
  have once : path.scans ≤ 1 := by decide
  exact ⟨once, by decide, (nodup_of_one_scan once document).2.2.1⟩

example : ¬ ((places [.descendant .wildcard, .descendant .wildcard]
    (.array [.array [.array [.null]]])).map Place.location).Nodup := by
  decide

/-! ### Order of the document -/

/-- A path without deep segments selects in the order of the document.  With one deep segment, the
values where it picks are in this order, and so is what is reached from each of them. -/
theorem order_of_one_scan {path : Path} (once : path.scans ≤ 1) (document : Json) :
    (path.places document).map Place.value = path.select document ∧
    (∀ p ∈ path.places document, document.reach? p.location = some p.value) ∧
    (path.scans = 0 →
      ((path.places document).map fun p => document.rank p.location).Pairwise (· < ·)) ∧
    (path.places document).Pairwise fun p q =>
      Location.Before path.stepsFromScan p.location q.location := by
  refine ⟨map_value_places path document, fun _ => reach?_of_mem_places, fun shallow => ?_,
    before_places once document⟩
  have inside {p : Place} (mem : p ∈ path.places document) : p ∈ document.places :=
    Json.mem_places_iff.2 (reach?_of_mem_places mem)
  rw [List.pairwise_map]
  exact (ascending_of_shallow shallow document).imp_of_mem fun first second before =>
    Json.rank_lt_rank (inside first) (inside second) (Location.before_zero_iff.1 before)

theorem order_of_one_scan_of_members :
    let document : Json :=
      .object [("a", .object [("b", .bool true)]), ("b", .object [("b", .bool false)])]
    let shallow : Path := [.child .wildcard, .child (.key "b")]
    let deep : Path := [.descendant (.key "b")]
    (shallow.scans = 0 ∧ (shallow.places document).map Place.location = [[0, 0], [1, 0]] ∧
      ((shallow.places document).map fun p => document.rank p.location).Pairwise (· < ·)) ∧
    (deep.scans ≤ 1 ∧ (deep.places document).map Place.location = [[1], [0, 0], [1, 0]] ∧
      (deep.places document).Pairwise fun p q => Location.Before 1 p.location q.location) := by
  intro document shallow deep
  have none : shallow.scans = 0 := by decide
  have once : deep.scans ≤ 1 := by decide
  refine ⟨⟨none, by decide, ?_⟩, ⟨once, by decide, ?_⟩⟩
  · exact (order_of_one_scan (Nat.le_succ_of_le none.le) document).2.2.1 none
  · exact (order_of_one_scan once document).2.2.2

/-- What is selected is not always in the order of the document: where a deep segment picks a value, it
picks the others beside it before those inside. -/
theorem select_out_of_order :
    ¬ ∀ (path : Path) (document : Json), document.Ordered →
      ((path.places document).map fun p => document.rank p.location).Pairwise (· ≤ ·) := by
  intro claim
  have ordered : Json.Ordered (.object [("a", .object [("b", .bool true)]), ("c", .bool false)]) := by
    refine .object (by decide) (List.forall_mem_cons.2 ⟨.object (by decide) ?_, ?_⟩)
    · exact List.forall_mem_singleton.2 (.bool true)
    · exact List.forall_mem_singleton.2 (.bool false)
  have wrong := claim [.descendant .wildcard] _ ordered
  revert wrong
  decide

end Path

end Verdict
