import Verdict.Json.Reader
import Verdict.Proofs.Parser.Shortening

/-!
# Members in order

`Json.Ordered` is what can be relied upon of a value: no object in it has a key twice, and the members
stand in ascending order of their keys.  Objects are built so, `ordered_ofMembers`, and therefore
whatever is read is ordered, `ordered_of_read?`.
-/

namespace Verdict

namespace Json

/-- The members of each object in the value are in ascending order of their keys. -/
inductive Ordered : Json → Prop
  | null : Ordered .null
  | bool (b : Bool) : Ordered (.bool b)
  | number (n : Number) : Ordered (.number n)
  | string (s : String) : Ordered (.string s)
  | array {items : List Json} (inside : ∀ v ∈ items, Ordered v) : Ordered (.array items)
  | object {members : List (String × Json)} (ascending : (members.map Prod.fst).Pairwise (· < ·))
      (inside : ∀ m ∈ members, Ordered m.2) : Ordered (.object members)

/-! ### Objects -/

theorem mem_insertMember {key : String} {value : Json} {members : List (String × Json)}
    {m : String × Json} (mem : m ∈ insertMember key value members) :
    m = (key, value) ∨ m ∈ members := by
  induction members with
  | nil => exact .inl (by simpa [insertMember] using mem)
  | cons head members ih =>
    rw [insertMember] at mem
    split at mem
    · exact List.mem_cons.1 mem
    · split at mem
      · exact (List.mem_cons.1 mem).imp_right (List.mem_cons_of_mem head)
      · rcases List.mem_cons.1 mem with rfl | mem
        · exact .inr (by simp)
        · exact (ih mem).imp_right (List.mem_cons_of_mem head)

theorem ascending_insertMember {key : String} {value : Json} {members : List (String × Json)}
    (h : (members.map Prod.fst).Pairwise (· < ·)) :
    ((insertMember key value members).map Prod.fst).Pairwise (· < ·) := by
  induction members with
  | nil => simp [insertMember]
  | cons head members ih =>
    obtain ⟨least, rest⟩ := List.pairwise_cons.1 h
    rw [insertMember]
    split
    · rename_i before
      refine .cons (fun k mem => ?_) h
      rcases List.mem_cons.1 mem with rfl | mem
      · exact before
      · exact String.lt_trans before (least k mem)
    · rename_i before
      split
      · rename_i same
        rw [List.map_cons, same]
        exact .cons least rest
      · rename_i other
        refine .cons (fun k mem => ?_) (ih rest)
        obtain ⟨m, there, rfl⟩ := List.mem_map.1 mem
        rcases mem_insertMember there with rfl | mem
        · exact Std.lt_of_le_of_ne (String.not_lt.1 before) (Ne.symm other)
        · exact least m.1 (List.mem_map_of_mem mem)

/-- The members of an object that is built are some of the given ones, in order. -/
theorem exists_ofMembers (members : List (String × Json)) :
    ∃ ms, ofMembers members = .object ms ∧ (ms.map Prod.fst).Pairwise (· < ·) ∧
      ∀ m ∈ ms, m ∈ members := by
  suffices ∀ ms : List (String × Json), (ms.map Prod.fst).Pairwise (· < ·) →
      ((members.foldl (fun ms m => insertMember m.1 m.2 ms) ms).map Prod.fst).Pairwise (· < ·) ∧
        ∀ m ∈ members.foldl (fun ms m => insertMember m.1 m.2 ms) ms, m ∈ ms ∨ m ∈ members by
    obtain ⟨ascending, given⟩ := this [] .nil
    exact ⟨_, rfl, ascending, fun m mem => (given m mem).resolve_left (by simp)⟩
  induction members with
  | nil => exact fun ms ascending => ⟨ascending, fun m mem => .inl mem⟩
  | cons head members ih =>
    intro ms ascending
    obtain ⟨ascending', given⟩ := ih _ (ascending_insertMember ascending)
    refine ⟨ascending', fun m mem => ?_⟩
    rcases given m mem with mem | mem
    · rcases mem_insertMember mem with rfl | mem
      · exact .inr (by simp)
      · exact .inl mem
    · exact .inr (List.mem_cons_of_mem head mem)

/-- An object is ordered in whatever order its members come. -/
theorem ordered_ofMembers {members : List (String × Json)} (each : ∀ m ∈ members, m.2.Ordered) :
    (ofMembers members).Ordered := by
  obtain ⟨ms, built, ascending, given⟩ := exists_ofMembers members
  rw [built]
  exact .object ascending fun m mem => each m (given m mem)

end Json

/-! ### What parsers return -/

namespace Parser

variable {α β γ : Type} {p q : Parser α} {holds : α → Prop} {goal : β → Prop}

/-- Whatever the parser returns has the property. -/
def Yields (holds : α → Prop) (p : Parser α) : Prop :=
  ∀ s a r, p s = .ok a r → holds a

theorem yields_any (p : Parser α) : Yields (fun _ => True) p :=
  fun _ _ _ _ => trivial

theorem yields_pure {a : α} (h : holds a) : Yields holds (pure a) := by
  intro s b r hb
  obtain ⟨rfl, -⟩ : a = b ∧ s = r := by simpa [pure_apply] using hb
  exact h

theorem Yields.bind {f : α → Parser β} (h : Yields holds p)
    (next : ∀ a, holds a → Yields goal (f a)) : Yields goal (p >>= f) := by
  intro s b r hb
  obtain ⟨a, m, ha, hb⟩ := bind_eq_ok_iff.1 hb
  exact next a (h s a m ha) m b r hb

theorem yields_bind {f : α → Parser β} (next : ∀ a, Yields goal (f a)) : Yields goal (p >>= f) :=
  (yields_any p).bind fun a _ => next a

theorem Yields.map {f : α → β} (h : Yields holds p) (image : ∀ a, holds a → goal (f a)) :
    Yields goal (f <$> p) :=
  h.bind fun a ha => yields_pure (image a ha)

theorem Yields.orElse (hp : Yields holds p) (hq : Yields holds q) :
    Yields holds (Parser.orElse p q) := by
  intro s a r h
  rcases orElse_eq_ok_iff.1 h with h | ⟨-, h⟩
  · exact hp s a r h
  · exact hq s a r h

theorem Yields.many (h : Yields holds p) : Yields (fun as => ∀ a ∈ as, holds a) (Parser.many p) :=
  fun _ _ _ => forall_of_many fun t a r _ => h t a r

theorem Yields.sepBy (h : Yields holds p) (separator : Parser β) :
    Yields (fun as => ∀ a ∈ as, holds a) (Parser.sepBy p separator) := by
  refine Yields.orElse (h.bind fun a ha => ?_) (yields_pure (by simp))
  refine Yields.bind (Yields.many (yields_bind fun _ => h)) fun as has => ?_
  exact yields_pure (List.forall_mem_cons.2 ⟨ha, has⟩)

theorem Yields.spaced (h : Yields holds p) : Yields holds (Parser.spaced p) :=
  yields_bind fun _ => h.bind fun _ ha => yields_bind fun _ => yields_pure ha

end Parser

/-! ### Values that are read -/

namespace Json.Reader

open Verdict.Parser

variable {α β : Type} {holds : α → Prop} {goal : β → Prop}

/-- A property that values get from their parts as they are built, with one of the numbers. -/
structure Inherited (numbers : Number → Prop) (good : Json → Prop) : Prop where
  null : good .null
  bool : ∀ b, good (.bool b)
  number : ∀ n, numbers n → good (.number n)
  string : ∀ s, good (.string s)
  array : ∀ items, (∀ v ∈ items, good v) → good (.array items)
  object : ∀ members, (∀ m ∈ members, good m.2) → good (ofMembers members)

variable {numbers : Number → Prop} {good : Json → Prop}

theorem yields_scalar (kept : Inherited numbers good) (read : Yields numbers number) :
    Yields good scalar := by
  refine Yields.orElse (yields_bind fun _ => yields_pure kept.null) ?_
  refine Yields.orElse (yields_bind fun _ => yields_pure (kept.bool true)) ?_
  refine Yields.orElse (yields_bind fun _ => yields_pure (kept.bool false)) ?_
  exact Yields.orElse ((yields_any _).map fun s _ => kept.string s) (read.map kept.number)

theorem yields_array {item : Parser α} (h : Yields holds item) :
    Yields (fun as => ∀ a ∈ as, holds a) (array item) :=
  yields_bind fun _ => yields_bind fun _ => (h.sepBy _).bind fun _ has =>
    yields_bind fun _ => yields_bind fun _ => yields_pure has

theorem yields_object {key : Parser α} {member : α → Parser β} (h : ∀ k, Yields goal (member k)) :
    Yields (fun bs => ∀ b ∈ bs, goal b) (object key member) := by
  have one : Yields goal (do let k ← key; let _ ← Parser.spaced (char ':'); member k) :=
    yields_bind fun k => yields_bind fun _ => h k
  exact yields_bind fun _ => yields_bind fun _ => (one.sepBy _).bind fun _ hbs =>
    yields_bind fun _ => yields_bind fun _ => yields_pure hbs

theorem yields_value (kept : Inherited numbers good) (read : Yields numbers number) (depth : Nat) :
    Yields good (value depth) := by
  induction depth with
  | zero => exact yields_scalar kept read
  | succ depth ih =>
    have members : Yields (fun ms => ∀ m ∈ ms, good m.2)
        (object string fun key => do return (key, ← value depth)) :=
      yields_object fun key => ih.bind fun v hv => yields_pure hv
    exact (yields_scalar kept read).orElse (((yields_array ih).map kept.array).orElse
      (members.map kept.object))

end Json.Reader

/-- Whatever is read has the properties that values get from their parts. -/
theorem Json.inherited_of_read? {numbers : Number → Prop} {good : Json → Prop}
    (kept : Reader.Inherited numbers good) (read : Parser.Yields numbers Reader.number)
    {s : List Char} {v : Json} (h : read? s = some v) : good v := by
  unfold read? Reader.whole at h
  cases reply : Parser.run (Parser.spaced (Reader.value maxDepth)) s with
  | error cause => simp [reply, Except.toOption] at h
  | ok w =>
    obtain rfl : w = v := by simpa [reply, Except.toOption] using h
    unfold Parser.run at reply
    split at reply
    · rename_i a here
      obtain rfl := Except.ok.inj reply
      exact (Reader.yields_value kept read maxDepth).spaced s a [] here
    all_goals simp at reply

/-- Whatever is read is ordered. -/
theorem Json.ordered_of_read? {s : List Char} {v : Json} (h : read? s = some v) : v.Ordered :=
  inherited_of_read?
    ⟨.null, .bool, fun n _ => .number n, .string, fun _ => .array, fun _ => ordered_ofMembers⟩
    (Parser.yields_any _) h

end Verdict
