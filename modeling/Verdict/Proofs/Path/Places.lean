import Verdict.Proofs.Json.Same
import Verdict.Proofs.Path.Meaning

/-!
# Where values stand

Equal values can stand at different places of a document.  `Path.places` goes the way that a path
goes, and keeps with each value its location, the positions of the children that lead there.  The
values are those that the path selects, in the same order, `map_value_places`; and each of them is the
value at its location, `reach?_of_mem_places`.
-/

namespace Verdict

/-- The way from a value to one inside it: the position of the next value among the children, step by
step. -/
abbrev Location : Type := List Nat

/-- A value inside another one, and where it stands there. -/
structure Place where
  location : Location
  value : Json

/-- A place inside the value of a place, as it is seen from outside. -/
def Place.below (p q : Place) : Place :=
  ⟨p.location ++ q.location, q.value⟩

/-! ### Places in a value -/

namespace Json

/-- The value at a location, if there is one. -/
def reach? : Location → Json → Option Json
  | [], v => some v
  | i :: location, v => v.children[i]?.bind (reach? location)

/-- The children of a value. -/
def childPlaces (v : Json) : List Place :=
  v.children.zipIdx.map fun c => ⟨[c.2], c.1⟩

mutual

/-- A value and all values inside it, each one before its children. -/
def places : Json → List Place
  | .array items => ⟨[], .array items⟩ :: placesItems 0 items
  | .object members => ⟨[], .object members⟩ :: placesMembers 0 members
  | v => [⟨[], v⟩]

/-- The places in the elements of an array, from the position `i` on. -/
def placesItems (i : Nat) : List Json → List Place
  | [] => []
  | v :: items => v.places.map (Place.below ⟨[i], v⟩) ++ placesItems (i + 1) items

/-- The places in the member values of an object, from the position `i` on. -/
def placesMembers (i : Nat) : List (String × Json) → List Place
  | [] => []
  | (_, v) :: members => v.places.map (Place.below ⟨[i], v⟩) ++ placesMembers (i + 1) members

end

end Json

/-! ### Places that a path leads to -/

/-- The children that a selector picks. -/
def Selector.places : Selector → Json → List Place
  | .key name, .object members =>
    ((members.zipIdx.find? fun m => name == m.1.1).map fun m => ⟨[m.2], m.1.2⟩).toList
  | .index i, .array items =>
    ((place? i items.length).bind fun n => items[n]?.map fun v => ⟨[n], v⟩).toList
  | .wildcard, v => v.childPlaces
  | _, _ => []

/-- The places that a segment leads to. -/
def Segment.places : Segment → Json → List Place
  | child selector, v => selector.places v
  | descendant selector, v => v.places.flatMap fun p => (selector.places p.value).map p.below

/-- The places that a path leads to. -/
def Path.places : Path → Json → List Place
  | [], v => [⟨[], v⟩]
  | segment :: path, v => (segment.places v).flatMap fun p => (places path p.value).map p.below

/-! ### Values of places -/

namespace Json

theorem placesItems_eq_flatMap (i : Nat) (items : List Json) :
    placesItems i items =
      (items.zipIdx i).flatMap fun c => c.1.places.map (Place.below ⟨[c.2], c.1⟩) := by
  induction items generalizing i with
  | nil => rfl
  | cons v items ih => rw [placesItems, ih, List.zipIdx_cons, List.flatMap_cons]

theorem placesMembers_eq_placesItems (i : Nat) (members : List (String × Json)) :
    placesMembers i members = placesItems i (members.map Prod.snd) := by
  induction members generalizing i with
  | nil => rfl
  | cons m members ih => rw [placesMembers, ih, List.map_cons, placesItems]

/-- First the value itself, and then child by child what is inside. -/
theorem places_eq (v : Json) :
    v.places = ⟨[], v⟩ :: v.childPlaces.flatMap fun c => c.value.places.map c.below := by
  rw [childPlaces, List.flatMap_map]
  cases v with
  | array items => rw [places, placesItems_eq_flatMap, children]
  | object members => rw [places, placesMembers_eq_placesItems, placesItems_eq_flatMap, children]
  | _ => rfl

theorem map_value_childPlaces (v : Json) : v.childPlaces.map Place.value = v.children := by
  rw [childPlaces, List.map_map]
  exact List.zipIdx_map_fst 0 v.children

/-- What a function gives throughout a value is what it gives at each place. -/
theorem throughout_eq_flatMap_places (f : Json → List Json) (v : Json) :
    v.throughout f = v.places.flatMap fun p => f p.value := by
  induction v using Json.induction with
  | step v ih =>
    rw [throughout_eq, places_eq, List.flatMap_cons, List.flatMap_assoc, ← map_value_childPlaces,
      List.flatMap_map]
    refine congrArg (f v ++ ·) (List.flatMap_congr fun c mem => ?_)
    have child : c.value ∈ v.children := by
      rw [← map_value_childPlaces]
      exact List.mem_map_of_mem mem
    rw [ih c.value child, List.flatMap_map]
    rfl

end Json

namespace Selector

theorem map_find?_zipIdx (name : String) (members : List (String × Json)) (i : Nat) :
    ((members.zipIdx i).find? fun m => name == m.1.1).map (fun m => m.1.2) =
      members.lookup name := by
  induction members generalizing i with
  | nil => rfl
  | cons m members ih =>
    rw [List.zipIdx_cons, List.find?_cons, List.lookup_cons]
    cases name == m.1 with
    | true => rfl
    | false => exact ih (i + 1)

theorem map_value_places (selector : Selector) (v : Json) :
    (selector.places v).map Place.value = selector.pick v := by
  cases selector with
  | wildcard => exact v.map_value_childPlaces
  | key name =>
    cases v with
    | object members =>
      rw [places, pick, ← Option.toList_map, Option.map_map, ← map_find?_zipIdx name members 0]
      rfl
    | _ => rfl
  | index i =>
    cases v with
    | array items =>
      rw [places, pick, ← Option.toList_map, Option.map_bind]
      simp only [Function.comp_def, Option.map_map, Option.map_id']
    | _ => rfl

/-- A selector picks children, one after the other. -/
theorem places_sublist (selector : Selector) (v : Json) :
    (selector.places v).Sublist v.childPlaces := by
  have one {c : Json × Nat} (mem : c ∈ v.children.zipIdx) :
      [(⟨[c.2], c.1⟩ : Place)].Sublist v.childPlaces :=
    List.singleton_sublist.2 (List.mem_map_of_mem mem)
  cases selector with
  | wildcard => exact List.Sublist.refl _
  | key name =>
    cases v with
    | object members =>
      rw [places]
      cases found : members.zipIdx.find? fun m => name == m.1.1 with
      | none => exact List.nil_sublist _
      | some m =>
        have mem := List.mem_zipIdx_iff_getElem?.1 (List.mem_of_find?_eq_some found)
        refine one (c := (m.1.2, m.2)) (List.mem_zipIdx_iff_getElem?.2 ?_)
        rw [Json.children, List.getElem?_map, mem]
        rfl
    | _ => exact List.nil_sublist _
  | index i =>
    cases v with
    | array items =>
      rw [places]
      cases place? i items.length with
      | none => exact List.nil_sublist _
      | some n =>
        cases here : items[n]? with
        | none => simp [here]
        | some w =>
          simpa [here] using one (c := (w, n)) (List.mem_zipIdx_iff_getElem?.2 here)
    | _ => exact List.nil_sublist _

end Selector

theorem Segment.map_value_places (segment : Segment) (v : Json) :
    (segment.places v).map Place.value = segment.reach v := by
  cases segment with
  | child selector => exact selector.map_value_places v
  | descendant selector =>
    rw [places, reach_descendant, Json.throughout_eq_flatMap_places, List.map_flatMap]
    refine List.flatMap_congr fun p _ => ?_
    rw [List.map_map, ← selector.map_value_places]
    rfl

namespace Path

/-- The values at the places that a path leads to are those that it selects. -/
theorem map_value_places (path : Path) (v : Json) :
    (path.places v).map Place.value = path.select v := by
  rw [select_eq_meaning]
  induction path generalizing v with
  | nil => rfl
  | cons segment path ih =>
    rw [places, meaning_cons, ← segment.map_value_places, List.map_flatMap, List.flatMap_map]
    refine List.flatMap_congr fun p _ => ?_
    rw [List.map_map, ← ih]
    rfl

/-- A deep segment leads on like one that is not deep from each place in the value. -/
theorem places_descendant (selector : Selector) (path : Path) (v : Json) :
    places (.descendant selector :: path) v =
      v.places.flatMap fun p => (places (.child selector :: path) p.value).map p.below := by
  rw [places, Segment.places, List.flatMap_assoc]
  refine List.flatMap_congr fun p _ => ?_
  rw [places, List.map_flatMap, List.flatMap_map]
  refine List.flatMap_congr fun c _ => ?_
  rw [List.map_map]
  refine List.map_congr_left fun q _ => ?_
  simp [Place.below]

end Path

/-! ### Values at locations -/

namespace Json

variable {v : Json} {p : Place}

theorem reach?_append (l m : Location) (v : Json) :
    v.reach? (l ++ m) = (v.reach? l).bind (reach? m) := by
  induction l generalizing v with
  | nil => rfl
  | cons i l ih =>
    rw [List.cons_append, reach?, reach?, Option.bind_assoc]
    exact congrArg _ (funext ih)

theorem reach?_below {p q : Place} (outer : v.reach? p.location = some p.value)
    (inner : p.value.reach? q.location = some q.value) :
    v.reach? (p.below q).location = some (p.below q).value := by
  rw [Place.below, reach?_append, outer]
  exact inner

/-- The children stand at the positions from zero on. -/
theorem mem_childPlaces_iff :
    p ∈ v.childPlaces ↔ ∃ i, p.location = [i] ∧ v.children[i]? = some p.value := by
  rw [childPlaces, List.mem_map]
  constructor
  · rintro ⟨c, mem, rfl⟩
    exact ⟨c.2, rfl, List.mem_zipIdx_iff_getElem?.1 mem⟩
  · rintro ⟨i, here, child⟩
    refine ⟨(p.value, i), List.mem_zipIdx_iff_getElem?.2 child, ?_⟩
    rw [← here]

theorem reach?_of_mem_childPlaces (mem : p ∈ v.childPlaces) :
    v.reach? p.location = some p.value := by
  obtain ⟨i, here, child⟩ := mem_childPlaces_iff.1 mem
  rw [here, reach?, child]
  rfl

theorem reach?_of_mem_places (mem : p ∈ v.places) : v.reach? p.location = some p.value := by
  induction v using Json.induction generalizing p with
  | step v ih =>
    rw [places_eq, List.mem_cons, List.mem_flatMap] at mem
    rcases mem with rfl | ⟨c, child, mem⟩
    · rfl
    · obtain ⟨q, inner, rfl⟩ := List.mem_map.1 mem
      obtain ⟨i, -, here⟩ := mem_childPlaces_iff.1 child
      exact reach?_below (reach?_of_mem_childPlaces child) (ih c.value (List.mem_of_getElem? here) inner)

theorem mem_places_of_reach? {location : Location} {w : Json} (found : v.reach? location = some w) :
    (⟨location, w⟩ : Place) ∈ v.places := by
  induction location generalizing v with
  | nil =>
    rw [places_eq, Option.some.inj found]
    exact List.mem_cons_self
  | cons i location ih =>
    obtain ⟨c, here, behind⟩ := Option.bind_eq_some_iff.1 found
    rw [places_eq]
    refine List.mem_cons_of_mem _ (List.mem_flatMap.2 ⟨⟨[i], c⟩, ?_, ?_⟩)
    · exact mem_childPlaces_iff.2 ⟨i, rfl, here⟩
    · exact List.mem_map.2 ⟨⟨location, w⟩, ih behind, rfl⟩

/-- All values inside are among the places, and nothing else is. -/
theorem mem_places_iff : p ∈ v.places ↔ v.reach? p.location = some p.value :=
  ⟨reach?_of_mem_places, mem_places_of_reach?⟩

end Json

theorem Segment.reach?_of_mem_places {segment : Segment} {v : Json} {p : Place}
    (mem : p ∈ segment.places v) : v.reach? p.location = some p.value := by
  cases segment with
  | child selector =>
    exact Json.reach?_of_mem_childPlaces ((selector.places_sublist v).subset mem)
  | descendant selector =>
    obtain ⟨p, outer, mem⟩ := List.mem_flatMap.1 mem
    obtain ⟨c, inner, rfl⟩ := List.mem_map.1 mem
    exact Json.reach?_below (Json.mem_places_iff.1 outer)
      (Json.reach?_of_mem_childPlaces ((selector.places_sublist p.value).subset inner))

/-- What a path leads to is the value at its location. -/
theorem Path.reach?_of_mem_places {path : Path} {v : Json} {p : Place} (mem : p ∈ path.places v) :
    v.reach? p.location = some p.value := by
  induction path generalizing v p with
  | nil =>
    obtain rfl := List.mem_singleton.1 mem
    rfl
  | cons segment path ih =>
    obtain ⟨p, outer, mem⟩ := List.mem_flatMap.1 mem
    obtain ⟨q, inner, rfl⟩ := List.mem_map.1 mem
    exact Json.reach?_below (Segment.reach?_of_mem_places outer) (ih inner)

end Verdict
