import Verdict.Json.Equality
import Verdict.Proofs.Decimal.Same
import Verdict.Proofs.Json.Ordered
import Verdict.Proofs.Related

/-!
# Values that are the same

`Json.Same` looks at two values at once: they are built alike, with the same keys in the same order, and
their numbers are equal.  Equality of values looks up each member of one object in the other instead;
between objects whose members are in order that is no difference, `same_of_equiv`.
-/

namespace Verdict.Json

/-! ### Two values at once -/

/-- The values differ at most in how their numbers are held. -/
inductive Same : Json → Json → Prop
  | null : Same .null .null
  | bool (b : Bool) : Same (.bool b) (.bool b)
  | number {m n : Number} (equal : (m.toFloat == n.toFloat) = true) : Same (.number m) (.number n)
  | string (s : String) : Same (.string s) (.string s)
  | array {items others : List Json} (each : List.Forall₂ Same items others) :
      Same (.array items) (.array others)
  | object {members others : List (String × Json)} (keys : members.map Prod.fst = others.map Prod.fst)
      (each : List.Forall₂ Same (members.map Prod.snd) (others.map Prod.snd)) :
      Same (.object members) (.object others)

theorem size_le_sizeItems {v : Json} {items : List Json} (mem : v ∈ items) :
    v.size ≤ sizeItems items := by
  induction items with
  | nil => simp at mem
  | cons w items ih =>
    rw [sizeItems]
    rcases List.mem_cons.1 mem with rfl | mem
    · omega
    · have := ih mem
      omega

theorem induction {p : Json → Prop} (step : ∀ v, (∀ w ∈ v.children, p w) → p v) (v : Json) : p v :=
  step v fun w _ => induction step w
termination_by v.size
decreasing_by
  have below : w.size ≤ sizeItems v.children := size_le_sizeItems ‹_›
  rw [size_eq_children v]
  omega

/-! ### Members of the same keys -/

section Members

variable {R : Json → Json → Prop} {members others : List (String × Json)}

/-- In two lists of the same keys, a key is looked up alike. -/
theorem rel_lookup (keys : members.map Prod.fst = others.map Prod.fst)
    (each : List.Forall₂ R (members.map Prod.snd) (others.map Prod.snd)) (key : String) :
    Option.Rel R (members.lookup key) (others.lookup key) := by
  induction members generalizing others with
  | nil =>
    obtain rfl : others = [] := by simpa using keys.symm
    exact .none
  | cons m members ih =>
    cases others with
    | nil => simp at keys
    | cons n others =>
      obtain ⟨k, v⟩ := m
      obtain ⟨l, w⟩ := n
      obtain ⟨rfl, behind⟩ : k = l ∧ members.map Prod.fst = others.map Prod.fst := by simpa using keys
      cases each with
      | cons head rest =>
        rw [List.lookup_cons, List.lookup_cons]
        cases key == k with
        | true => exact .some head
        | false => exact ih behind rest

theorem lookup_of_equivMembers (h : equivMembers members others = true) :
    ∀ m ∈ members, ∃ w, others.lookup m.1 = some w ∧ m.2.equiv w = true := by
  induction members with
  | nil => simp
  | cons head members ih =>
    rw [equivMembers, Bool.and_eq_true] at h
    intro m mem
    rcases List.mem_cons.1 mem with rfl | mem
    · cases found : others.lookup m.1 with
      | none => simp [found] at h
      | some w => exact ⟨w, rfl, by simpa [found] using h.1⟩
    · exact ih h.2 m mem

/-- Two lists in order, as long as each other, of which one has no key that the other has not, have the
same keys. -/
theorem keys_eq {keys others : List String} (ascending : keys.Pairwise (· < ·))
    (ascending' : others.Pairwise (· < ·)) (length : keys.length = others.length)
    (subset : keys ⊆ others) : keys = others := by
  have distinct : keys.Nodup := ascending.imp fun before => Std.ne_of_lt before
  have perm : keys.Perm others :=
    (List.subperm_of_subset distinct subset).perm_of_length_le (by omega)
  exact perm.eq_of_pairwise' ascending ascending'

/-- If each member has one of its key among the others, and the keys are the same, then the values are
looked up in order. -/
theorem values_of_lookup (keys : members.map Prod.fst = others.map Prod.fst)
    (distinct : (others.map Prod.fst).Nodup)
    (found : ∀ m ∈ members, ∃ w, others.lookup m.1 = some w ∧ R m.2 w) :
    List.Forall₂ R (members.map Prod.snd) (others.map Prod.snd) := by
  induction members generalizing others with
  | nil =>
    obtain rfl : others = [] := by simpa using keys.symm
    exact .nil
  | cons m members ih =>
    cases others with
    | nil => simp at keys
    | cons n others =>
      obtain ⟨k, v⟩ := m
      obtain ⟨l, w⟩ := n
      obtain ⟨rfl, behind⟩ : k = l ∧ members.map Prod.fst = others.map Prod.fst := by simpa using keys
      obtain ⟨new, distinct⟩ := List.nodup_cons.1 distinct
      refine .cons ?_ (ih behind distinct fun m mem => ?_)
      · simpa using found (k, v) (by simp)
      · have other : (m.1 == k) = false := by
          rw [beq_eq_false_iff_ne]
          rintro rfl
          refine new ?_
          rw [← behind]
          exact List.mem_map.2 ⟨m, mem, rfl⟩
        simpa [List.lookup_cons, other] using found m (List.mem_cons_of_mem _ mem)

end Members

/-! ### Equal values -/

theorem oneByOne_equivItems : OneByOne equiv equivItems :=
  ⟨fun _ _ _ _ => rfl, fun _ _ => rfl, fun _ _ => rfl⟩

theorem same_of_equivMembers {members others : List (String × Json)}
    (ascending : (members.map Prod.fst).Pairwise (· < ·))
    (ascending' : (others.map Prod.fst).Pairwise (· < ·)) (length : members.length = others.length)
    (h : equivMembers members others = true)
    (each : ∀ m ∈ members, ∀ n ∈ others, m.2.equiv n.2 = true → Same m.2 n.2) :
    Same (.object members) (.object others) := by
  have found (m : String × Json) (mem : m ∈ members) :
      ∃ w, others.lookup m.1 = some w ∧ (m.1, w) ∈ others ∧ m.2.equiv w = true := by
    obtain ⟨w, here, equal⟩ := lookup_of_equivMembers h m mem
    obtain ⟨before, behind, rfl, -⟩ := List.lookup_eq_some_iff.1 here
    exact ⟨w, here, by simp, equal⟩
  have keys : members.map Prod.fst = others.map Prod.fst := by
    refine keys_eq ascending ascending' (by simpa using length) fun key mem => ?_
    obtain ⟨m, inside, rfl⟩ := List.mem_map.1 mem
    obtain ⟨w, -, there, -⟩ := found m inside
    exact List.mem_map.2 ⟨(m.1, w), there, rfl⟩
  have distinct : (others.map Prod.fst).Nodup := ascending'.imp fun before => Std.ne_of_lt before
  refine .object keys (values_of_lookup keys distinct fun m mem => ?_)
  obtain ⟨w, here, there, equal⟩ := found m mem
  exact ⟨w, here, each m mem (m.1, w) there equal⟩

/-- Values in order that are equal are the same. -/
theorem same_of_equiv {v w : Json} (hv : v.Ordered) (hw : w.Ordered) (h : v.equiv w = true) :
    Same v w := by
  induction v using Json.induction generalizing w with
  | step v ih =>
    cases hv with
    | null =>
      cases w with
      | null => exact .null
      | _ => simp [equiv] at h
    | bool b =>
      cases w with
      | bool b' =>
        obtain rfl : b = b' := by simpa [equiv] using h
        exact .bool b
      | _ => simp [equiv] at h
    | number m =>
      cases w with
      | number n => exact .number h
      | _ => simp [equiv] at h
    | string s =>
      cases w with
      | string t =>
        obtain rfl : s = t := by simpa [equiv] using h
        exact .string s
      | _ => simp [equiv] at h
    | array inside =>
      cases hw with
      | array inside' =>
        exact .array (oneByOne_equivItems.related h fun v mem w mem' =>
          ih v mem (inside v mem) (inside' w mem'))
      | _ => simp [equiv] at h
    | object ascending inside =>
      cases hw with
      | object ascending' inside' =>
        rw [equiv, Bool.and_eq_true, beq_iff_eq] at h
        exact same_of_equivMembers ascending ascending' h.1 h.2 fun m mem n mem' =>
          ih m.2 (List.mem_map_of_mem mem) (inside m mem) (inside' n mem')
      | _ => simp [equiv] at h

/-! ### What is seen of a value -/

section Seen

variable {v v' w w' : Json}

theorem Same.children (h : Same v w) : List.Forall₂ Same v.children w.children := by
  cases h with
  | array each => exact each
  | object keys each => exact each
  | _ => exact .nil

theorem Same.member? (h : Same v w) (key : String) :
    Option.Rel Same (v.member? key) (w.member? key) := by
  cases h with
  | object keys each => exact rel_lookup keys each key
  | _ => exact .none

theorem Same.item? (h : Same v w) (i : Nat) : Option.Rel Same (v.item? i) (w.item? i) := by
  cases h with
  | array each => exact rel_getElem? each i
  | _ => exact .none

theorem equivItems_congr {items items' others others' : List Json}
    (h : List.Forall₂ Same items items') (h' : List.Forall₂ Same others others')
    (each : ∀ v ∈ items, ∀ v' w w', Same v v' → Same w w' → v.equiv w = v'.equiv w') :
    equivItems items others = equivItems items' others' := by
  induction h generalizing others others' with
  | nil =>
    cases h' with
    | nil => rfl
    | cons => rfl
  | cons first behind ih =>
    cases h' with
    | nil => rfl
    | cons first' behind' =>
      rw [equivItems, equivItems, each _ (by simp) _ _ _ first first',
        ih behind' fun v mem => each v (List.mem_cons_of_mem _ mem)]

theorem equivMembers_congr {members members' others others' : List (String × Json)}
    (keys : members.map Prod.fst = members'.map Prod.fst)
    (h : List.Forall₂ Same (members.map Prod.snd) (members'.map Prod.snd))
    (found : ∀ key, Option.Rel Same (others.lookup key) (others'.lookup key))
    (each : ∀ v ∈ members.map Prod.snd, ∀ v' w w', Same v v' → Same w w' →
      v.equiv w = v'.equiv w') :
    equivMembers members others = equivMembers members' others' := by
  induction members generalizing members' with
  | nil =>
    obtain rfl : members' = [] := by simpa using keys.symm
    rfl
  | cons m members ih =>
    cases members' with
    | nil => simp at keys
    | cons n members' =>
      obtain ⟨k, v⟩ := m
      obtain ⟨l, w⟩ := n
      obtain ⟨rfl, behind⟩ : k = l ∧ members.map Prod.fst = members'.map Prod.fst := by
        simpa using keys
      cases h with
      | cons first values =>
        have rest := ih behind values fun v mem => each v (List.mem_cons_of_mem _ mem)
        have here := found k
        rw [equivMembers, equivMembers, rest]
        generalize others.lookup k = o at here
        generalize others'.lookup k = o' at here
        cases here with
        | none => rfl
        | some same => exact congrArg (· && _) (each v (by simp) _ _ _ first same)

/-- Equality does not tell apart what is the same. -/
theorem Same.equiv_eq (h : Same v v') (h' : Same w w') : v.equiv w = v'.equiv w' := by
  induction v using Json.induction generalizing v' w w' with
  | step v ih =>
    have each : ∀ u ∈ v.children, ∀ u' w w', Same u u' → Same w w' → u.equiv w = u'.equiv w' :=
      fun u mem _ _ _ => ih u mem
    cases h with
    | null => cases h' <;> rfl
    | bool b => cases h' <;> rfl
    | string s => cases h' <;> rfl
    | number equal =>
      cases h' with
      | number equal' => exact Decimal.Same.beq (.inr equal) (.inr equal')
      | _ => rfl
    | array items =>
      cases h' with
      | array others => exact equivItems_congr items others each
      | _ => rfl
    | object keys values =>
      cases h' with
      | object keys' values' =>
        have length := congrArg List.length keys
        have length' := congrArg List.length keys'
        rw [List.length_map, List.length_map] at length length'
        rw [equiv, equiv, length, length',
          equivMembers_congr keys values (rel_lookup keys' values') each]
      | _ => rfl

end Seen

end Verdict.Json
