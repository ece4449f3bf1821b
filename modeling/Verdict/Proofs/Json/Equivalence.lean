import Verdict.Literal
import Verdict.Proofs.Decimal.Scaled
import Verdict.Proofs.Json.Same

/-!
# Equality is an equivalence

No value holds a NaN, and no object has a key twice: `Json.Valid` says all that can be relied upon of a
value, and whatever is read is valid, `valid_of_read?`.  Between valid values equality means being the
same, `equiv_iff_same`, so that it is an equivalence.  It is wider than `identical`, which tells apart
how a number is held, and it is also the equality of the literals that values come to.
-/

namespace Verdict.Json

/-! ### Valid values -/

/-- A whole number of 64 bits, with a sign or without, or a finite number. -/
def Number.Valid : Number → Prop
  | .whole n => -2 ^ 63 ≤ n ∧ n < 2 ^ 64
  | .real x => x.isFinite = true

/-- Each number in the value is valid, and the members of each object in it are in ascending order of
their keys. -/
inductive Valid : Json → Prop
  | null : Valid .null
  | bool (b : Bool) : Valid (.bool b)
  | number {n : Number} (held : n.Valid) : Valid (.number n)
  | string (s : String) : Valid (.string s)
  | array {items : List Json} (inside : ∀ v ∈ items, Valid v) : Valid (.array items)
  | object {members : List (String × Json)} (ascending : (members.map Prod.fst).Pairwise (· < ·))
      (inside : ∀ m ∈ members, Valid m.2) : Valid (.object members)

theorem Valid.ordered {v : Json} (h : v.Valid) : v.Ordered := by
  induction h with
  | null => exact .null
  | bool b => exact .bool b
  | number held => exact .number _
  | string s => exact .string s
  | array inside ih => exact .array ih
  | object ascending inside ih => exact .object ascending ih

/-! ### Numbers -/

/-- A whole number of 64 bits is far from being too large. -/
theorem isFinite_toFloat_natAbs {n : Int} (lower : -2 ^ 63 ≤ n) (upper : n < 2 ^ 64) :
    (Decimal.toFloat ⟨n.natAbs, 0⟩).isFinite = true := by
  refine (Decimal.finiteBelow_toFloat _).2.2 ?_
  have size : n.natAbs ≤ 2 ^ 64 := by omega
  calc Decimal.value ⟨n.natAbs, 0⟩ = n.natAbs := by simp [Decimal.value]
    _ ≤ (2 : ℚ) ^ 64 := by exact_mod_cast size
    _ = 2 ^ (64 : Int) := (zpow_natCast 2 64).symm
    _ < Decimal.limit := Decimal.two_pow_lt_limit (by decide)

theorem Number.Valid.isFinite {n : Number} (h : n.Valid) : n.toFloat.isFinite = true := by
  cases n with
  | real x => exact h
  | whole n =>
    have size := isFinite_toFloat_natAbs h.1 h.2
    unfold Number.toFloat
    dsimp only
    split
    · exact Decimal.isFinite_neg size
    · exact size

theorem Number.Valid.beq_self {n : Number} (h : n.Valid) : (n.toFloat == n.toFloat) = true :=
  Decimal.beq_self_of_isFinite h.isFinite

/-! ### Reading -/

theorem valid_ofMembers {members : List (String × Json)} (each : ∀ m ∈ members, m.2.Valid) :
    (ofMembers members).Valid := by
  obtain ⟨ms, built, ascending, given⟩ := exists_ofMembers members
  rw [built]
  exact .object ascending fun m mem => each m (given m mem)

theorem valid_of_number? {numeral : Decimal.Numeral} {isWhole : Bool} {n : Number}
    (h : Reader.number? numeral isWhole = some n) : n.Valid := by
  unfold Reader.number? at h
  dsimp only at h
  split at h
  · rename_i within
    obtain rfl := Option.some.inj h
    simp only [Bool.and_eq_true, decide_eq_true_eq] at within
    constructor
    · omega
    · omega
  · split at h
    · rename_i within
      obtain rfl := Option.some.inj h
      simp only [Bool.and_eq_true, decide_eq_true_eq] at within
      constructor
      · omega
      · omega
    · obtain ⟨x, scaled, rfl⟩ := Option.map_eq_some_iff.1 h
      exact Decimal.Numeral.isFinite_of_scaled? scaled

theorem yields_number : Parser.Yields Number.Valid Reader.number := by
  refine Parser.yields_bind fun ⟨numeral, isWhole⟩ => ?_
  dsimp only
  split
  · rename_i n here
    exact Parser.yields_pure (valid_of_number? here)
  · intro s n r h
    simp [Parser.never] at h

/-- Whatever is read is valid. -/
theorem valid_of_read? {s : List Char} {v : Json} (h : read? s = some v) : v.Valid :=
  inherited_of_read?
    ⟨.null, .bool, fun _ => .number, .string, fun _ => .array, fun _ => valid_ofMembers⟩
    yields_number h

/-! ### Equal values are the same -/

theorem equivItems_self {items : List Json} (each : ∀ v ∈ items, v.equiv v = true) :
    equivItems items items = true := by
  induction items with
  | nil => rfl
  | cons v items ih =>
    obtain ⟨first, behind⟩ := List.forall_mem_cons.1 each
    rw [equivItems, first, ih behind, Bool.and_self]

theorem equivMembers_of_lookup {members others : List (String × Json)}
    (found : ∀ m ∈ members, ∃ w, others.lookup m.1 = some w ∧ m.2.equiv w = true) :
    equivMembers members others = true := by
  induction members with
  | nil => rfl
  | cons m members ih =>
    obtain ⟨⟨w, here, equal⟩, behind⟩ := List.forall_mem_cons.1 found
    rw [equivMembers, here, ih behind, Bool.and_true]
    exact equal

theorem lookup_of_mem {members : List (String × Json)}
    (ascending : (members.map Prod.fst).Pairwise (· < ·)) {m : String × Json} (mem : m ∈ members) :
    members.lookup m.1 = some m.2 := by
  induction members with
  | nil => cases mem
  | cons head members ih =>
    obtain ⟨least, rest⟩ := List.pairwise_cons.1 ascending
    rcases List.mem_cons.1 mem with rfl | mem
    · exact List.lookup_cons_self
    · have later : head.1 < m.1 := least m.1 (List.mem_map_of_mem mem)
      have other : (m.1 == head.1) = false := beq_false_of_ne (Std.ne_of_lt later).symm
      rw [List.lookup_cons, other]
      exact ih rest mem

theorem Valid.equiv_self {v : Json} (h : v.Valid) : v.equiv v = true := by
  induction h with
  | null => rfl
  | bool b => exact beq_self_eq_true b
  | number held => exact held.beq_self
  | string s => exact beq_self_eq_true s
  | array inside ih => exact equivItems_self ih
  | object ascending inside ih =>
    rw [equiv, beq_self_eq_true, Bool.true_and]
    exact equivMembers_of_lookup fun m mem => ⟨m.2, lookup_of_mem ascending mem, ih m mem⟩

theorem Valid.same_self {v : Json} (h : v.Valid) : Same v v :=
  same_of_equiv h.ordered h.ordered h.equiv_self

/-- Valid values are equal if and only if they are the same. -/
theorem equiv_iff_same {v w : Json} (hv : v.Valid) (hw : w.Valid) :
    v.equiv w = true ↔ Same v w := by
  refine ⟨same_of_equiv hv.ordered hw.ordered, fun same => ?_⟩
  calc v.equiv w = v.equiv v := (hv.same_self.equiv_eq same).symm
    _ = true := hv.equiv_self

/-! ### Identical values -/

/-- Are the numbers equal and held alike? -/
def Number.identical : Number → Number → Bool
  | .whole m, .whole n => m == n
  | .real x, .real y => x == y
  | _, _ => false

mutual

/-- Are the values equal, with their numbers held alike?  The members of objects are compared in
order. -/
def identical : Json → Json → Bool
  | .null, .null => true
  | .bool a, .bool b => a == b
  | .number m, .number n => m.identical n
  | .string s, .string t => s == t
  | .array items, .array others => identicalItems items others
  | .object members, .object others => identicalMembers members others
  | _, _ => false

/-- Are two arrays identical, element by element? -/
def identicalItems : List Json → List Json → Bool
  | [], [] => true
  | v :: items, w :: others => v.identical w && identicalItems items others
  | _, _ => false

/-- Are the members of two objects identical, one by one? -/
def identicalMembers : List (String × Json) → List (String × Json) → Bool
  | [], [] => true
  | (k, v) :: members, (l, w) :: others =>
    k == l && v.identical w && identicalMembers members others
  | _, _ => false

end

theorem oneByOne_identicalItems : OneByOne identical identicalItems :=
  ⟨fun _ _ _ _ => rfl, fun _ _ => rfl, fun _ _ => rfl⟩

theorem oneByOne_identicalMembers :
    OneByOne (fun m n => m.1 == n.1 && m.2.identical n.2) identicalMembers :=
  ⟨fun _ _ _ _ => rfl, fun _ _ => rfl, fun _ _ => rfl⟩

theorem Number.Valid.beq_of_identical {m n : Number} (h : m.Valid) (same : m.identical n = true) :
    (m.toFloat == n.toFloat) = true := by
  cases m with
  | whole i =>
    cases n with
    | whole j =>
      obtain rfl : i = j := by simpa [Number.identical] using same
      exact h.beq_self
    | real y => simp [Number.identical] at same
  | real x =>
    cases n with
    | whole j => simp [Number.identical] at same
    | real y => exact same

/-- Identical values are the same. -/
theorem Valid.same_of_identical {v w : Json} (hv : v.Valid) (h : v.identical w = true) :
    Same v w := by
  induction hv generalizing w with
  | null =>
    cases w with
    | null => exact .null
    | _ => simp [identical] at h
  | bool b =>
    cases w with
    | bool b' =>
      obtain rfl : b = b' := by simpa [identical] using h
      exact .bool b
    | _ => simp [identical] at h
  | number held =>
    cases w with
    | number n => exact .number (held.beq_of_identical h)
    | _ => simp [identical] at h
  | string s =>
    cases w with
    | string t =>
      obtain rfl : s = t := by simpa [identical] using h
      exact .string s
    | _ => simp [identical] at h
  | array inside ih =>
    cases w with
    | array others =>
      exact .array (oneByOne_identicalItems.related h fun v mem w _ => ih v mem)
    | _ => simp [identical] at h
  | @object members ascending inside ih =>
    cases w with
    | object others =>
      have each : List.Forall₂ (fun m n => m.1 = n.1 ∧ Same m.2 n.2) members others := by
        refine oneByOne_identicalMembers.related h fun m mem n _ both => ?_
        rw [Bool.and_eq_true, beq_iff_eq] at both
        exact ⟨both.1, ih m mem both.2⟩
      refine .object ?_ ?_
      · rw [← List.forall₂_eq_eq_eq, List.forall₂_map_left_iff, List.forall₂_map_right_iff]
        exact each.imp fun _ _ both => both.1
      · rw [List.forall₂_map_left_iff, List.forall₂_map_right_iff]
        exact each.imp fun _ _ both => both.2
    | _ => simp [identical] at h

/-! ### Literals -/

theorem beq_ofJson (v w : Json) : (Literal.ofJson v == Literal.ofJson w) = v.equiv w := by
  cases v <;> cases w <;> rfl

/-- On valid values equality is an equivalence.  It holds of identical values, and it is the equality of
the literals that values come to. -/
theorem equiv_is_equivalence :
    Equivalence (fun v w : {v : Json // v.Valid} => v.1.equiv w.1 = true) ∧
    (∀ v w : {v : Json // v.Valid}, v.1.identical w.1 = true → v.1.equiv w.1 = true) ∧
    ∀ v w : Json, (Literal.ofJson v == Literal.ofJson w) = v.equiv w := by
  refine ⟨⟨fun v => v.2.equiv_self, fun {v w} h => ?_, fun {u v w} h h' => ?_⟩, fun v w h => ?_,
    beq_ofJson⟩
  · have same := (equiv_iff_same v.2 w.2).1 h
    rw [← same.equiv_eq v.2.same_self]
    exact v.2.equiv_self
  · have same := (equiv_iff_same u.2 v.2).1 h
    rw [same.equiv_eq w.2.same_self]
    exact h'
  · exact (equiv_iff_same v.2 w.2).2 (v.2.same_of_identical h)

theorem equiv_is_equivalence_of_nested :
    let v : Json := .object [("n", .array [.number (.whole 1), .number (.real 2.0)])]
    let w : Json := .object [("n", .array [.number (.real 1.0), .number (.whole 2)])]
    v.identical v = true ∧ v.equiv v = true ∧ v.identical w = false ∧ v.equiv w = true ∧
      w.equiv v = true ∧ (Literal.ofJson v == Literal.ofJson w) = true := by
  intro v w
  have finite : Float.isFinite 1.0 = true ∧ Float.isFinite 2.0 = true := by decide +kernel
  have one : Number.Valid (.whole 1) := by simp [Number.Valid]
  have two : Number.Valid (.whole 2) := by simp [Number.Valid]
  have hv : v.Valid := by
    refine .object (List.pairwise_singleton _ _) (List.forall_mem_singleton.2 (.array ?_))
    simpa using ⟨.number one, .number finite.2⟩
  have hw : w.Valid := by
    refine .object (List.pairwise_singleton _ _) (List.forall_mem_singleton.2 (.array ?_))
    simpa using ⟨.number finite.1, .number two⟩
  obtain ⟨equivalence, wider, literals⟩ := equiv_is_equivalence
  have itself : v.identical v = true := by decide +kernel
  have equal : v.equiv w = true := by decide +kernel
  refine ⟨itself, wider ⟨v, hv⟩ ⟨v, hv⟩ itself, by decide +kernel, equal, ?_, ?_⟩
  · exact equivalence.symm (x := ⟨v, hv⟩) (y := ⟨w, hw⟩) equal
  · rw [literals]
    exact equal

end Verdict.Json
