import Verdict.Proofs.Evaluation.Lookups
import Verdict.Proofs.Resolver.Same

/-!
# Evaluation respects equality

Equal conditions are decided alike about equal documents, with the same lookups: nothing in between
tells 5 from 5.0, a zero from a negative zero, or two whole numbers that round to the same number.  For
each layer one lemma says that what is the same is taken to what is the same, from numbers and values
through functions and operands up to conditions.
-/

namespace Verdict

variable {σ : Type} {look look' : String → Option Json}

/-! ### Literals -/

namespace Literal

/-- The literals differ at most in how numbers are held. -/
inductive Same : Literal → Literal → Prop
  | null : Same .null .null
  | bool (b : Bool) : Same (.bool b) (.bool b)
  | number {x y : Float} (same : Decimal.Same x y) : Same (.number x) (.number y)
  | string (s : String) : Same (.string s) (.string s)
  | node {v w : Json} (same : v.Same w) : Same (.node v) (.node w)

/-- The value in the literal, if there is one, has its members in order. -/
def Ordered : Literal → Prop
  | .node v => v.Ordered
  | _ => True

variable {l l' m m' : Literal}

theorem same_of_beq (hl : l.Ordered) (hm : m.Ordered) (h : (l == m) = true) : l.Same m := by
  change l.beq m = true at h
  cases l with
  | null =>
    cases m with
    | null => exact .null
    | _ => simp [Literal.beq] at h
  | bool a =>
    cases m with
    | bool b =>
      obtain rfl : a = b := by simpa [Literal.beq] using h
      exact .bool a
    | _ => simp [Literal.beq] at h
  | number x =>
    cases m with
    | number y => exact .number (.inr h)
    | _ => simp [Literal.beq] at h
  | string s =>
    cases m with
    | string t =>
      obtain rfl : s = t := by simpa [Literal.beq] using h
      exact .string s
    | _ => simp [Literal.beq] at h
  | node v =>
    cases m with
    | node w => exact .node (Json.same_of_equiv hl hm h)
    | _ => simp [Literal.beq] at h

/-- Equality does not tell apart what is the same. -/
theorem Same.beq_eq (h : l.Same l') (h' : m.Same m') : (l == m) = (l' == m') := by
  cases h with
  | null => cases h' <;> rfl
  | bool b => cases h' <;> rfl
  | string s => cases h' <;> rfl
  | number same =>
    cases h' with
    | number same' => exact same.beq same'
    | _ => rfl
  | node same =>
    cases h' with
    | node same' => exact same.equiv_eq same'
    | _ => rfl

theorem same_ofJson {v w : Json} (h : v.Same w) : (ofJson v).Same (ofJson w) := by
  cases h with
  | null => exact .null
  | bool b => exact .bool b
  | number equal => exact .number (.inr equal)
  | string s => exact .string s
  | array each => exact .node (.array each)
  | object keys each => exact .node (.object keys each)

theorem same_literalOf {o o' : Option Json} (h : Option.Rel Json.Same o o') :
    (Meaning.literalOf o).Same (Meaning.literalOf o') := by
  cases h with
  | none => exact .null
  | some h => exact same_ofJson h

theorem Same.number? (h : l.Same m) : Option.Rel Decimal.Same l.number? m.number? := by
  cases h with
  | number same => exact .some same
  | _ => exact .none

theorem Same.bool? (h : l.Same m) : l.bool? = m.bool? := by
  cases h <;> rfl

theorem Same.string? (h : l.Same m) : Option.Rel Eq l.string? m.string? := by
  cases h with
  | string s => exact .some rfl
  | _ => exact .none

theorem Same.length (h : l.Same m) : Function.length l = Function.length m := by
  cases h with
  | node same =>
    cases same with
    | array each => exact each.length_eq
    | object keys each =>
      have length := congrArg List.length keys
      rw [List.length_map, List.length_map] at length
      exact length
    | _ => rfl
  | _ => rfl

theorem Same.contains (h : l.Same l') (h' : m.Same m') :
    Function.contains l m = Function.contains l' m' := by
  cases h with
  | node same =>
    cases same with
    | array each =>
      unfold Function.contains
      dsimp only [items?, Json.items?]
      induction each with
      | nil => rfl
      | cons first _ ih =>
        rw [List.any_cons, List.any_cons, (same_ofJson first).beq_eq h', ih]
    | _ => rfl
  | _ => rfl

end Literal

/-! ### Functions -/

namespace Function

variable {arguments others : List Literal}

theorem same_numberAt (each : List.Forall₂ Literal.Same arguments others) (i : Nat) :
    Decimal.Same (numberAt arguments i) (numberAt others i) :=
  rel_getD (rel_bind (rel_getElem? each i) fun _ _ same => same.number?) (.refl _)

theorem textAt_eq (each : List.Forall₂ Literal.Same arguments others) (i : Nat) :
    textAt arguments i = textAt others i :=
  congrArg String.toList
    (rel_getD (rel_bind (rel_getElem? each i) fun _ _ same => same.string?) rfl)

theorem same_literalAt (each : List.Forall₂ Literal.Same arguments others) (i : Nat) :
    (literalAt arguments i).Same (literalAt others i) :=
  rel_getD (rel_getElem? each i) .null

/-- A function comes to the same for arguments that are the same. -/
theorem same_result (each : List.Forall₂ Literal.Same arguments others) (name : String) :
    (result name arguments).Same (result name others) := by
  have x := same_numberAt each 0
  have y := same_numberAt each 1
  have l := same_literalAt each 0
  have m := same_literalAt each 1
  unfold result
  rw [textAt_eq each 0, textAt_eq each 1, l.length, l.contains m]
  split
  · exact .number x.abs
  · exact .number (x.map_of_fixed Decimal.ceiling_signedZero)
  · exact .number (x.map_of_fixed Decimal.floor_signedZero)
  · exact .number (x.map_of_fixed Decimal.round_signedZero)
  · exact .number (x.add y)
  · exact .number (x.sub y)
  · exact .number (.refl _)
  · exact .string _
  · exact .string _
  · exact .bool _
  · exact .bool _
  · exact .bool _
  · exact .number (.refl _)
  · exact .bool _
  · exact .null

end Function

/-! ### Operands -/

namespace Operand

/-- The values in the operand have their members in order. -/
inductive Ordered : Operand σ → Prop
  | literal {l : Literal} (only : l.Ordered) : Ordered (.literal l)
  | path (text : String) : Ordered (.path text)
  | call {name : String} {arguments : List (Operand σ)} {returns : Kind}
      {implementation : Implementation σ} (inside : ∀ a ∈ arguments, Ordered a) :
      Ordered (.call name arguments returns implementation)

theorem oneByOne_beqAll :
    OneByOne Operand.beq (beqAll : List (Operand σ) → List (Operand σ) → Bool) :=
  ⟨fun _ _ _ _ => rfl, fun _ _ => rfl, fun _ _ => rfl⟩

/-- Equal operands refer to the same paths. -/
theorem paths_eq {a b : Operand σ} (h : (a == b) = true) : a.paths = b.paths := by
  change a.beq b = true at h
  induction a using Operand.induction generalizing b with
  | literal l =>
    cases b with
    | literal m => rfl
    | _ => simp [Operand.beq] at h
  | path text =>
    cases b with
    | path text' =>
      obtain rfl : text = text' := by simpa [Operand.beq] using h
      rfl
    | _ => simp [Operand.beq] at h
  | call name arguments returns implementation ih =>
    cases b with
    | call name' others returns' implementation' =>
      rw [Operand.beq, Bool.and_eq_true] at h
      have each : List.Forall₂ (fun a b => a.paths = b.paths) arguments others :=
        oneByOne_beqAll.related h.2 fun a mem b _ => ih a mem
      rw [paths, paths]
      clear h ih
      induction each with
      | nil => rfl
      | cons first _ ih => rw [pathsAll, pathsAll, first, ih]
    | _ => simp [Operand.beq] at h

/-- Equal operands stand for the same literal if their paths refer to the same. -/
theorem same_value (same : ∀ text, Option.Rel Json.Same (look text) (look' text)) {a b : Operand σ}
    (ha : a.Ordered) (hb : b.Ordered) (h : (a == b) = true) :
    (a.value look).Same (b.value look') := by
  change a.beq b = true at h
  induction ha generalizing b with
  | literal only =>
    cases hb with
    | literal only' => exact Literal.same_of_beq only only' h
    | _ => simp [Operand.beq] at h
  | path text =>
    cases hb with
    | path text' =>
      obtain rfl : text = text' := by simpa [Operand.beq] using h
      exact Literal.same_literalOf (same text)
    | _ => simp [Operand.beq] at h
  | call inside ih =>
    cases hb with
    | call inside' =>
      rw [Operand.beq, Bool.and_eq_true, beq_iff_eq] at h
      obtain ⟨rfl, h⟩ := h
      rw [value, value, values_eq_map, values_eq_map]
      refine Function.same_result ?_ _
      rw [List.forall₂_map_left_iff, List.forall₂_map_right_iff]
      exact oneByOne_beqAll.related h fun a mem b mem' => ih a mem (inside' b mem')
    | _ => simp [Operand.beq] at h

end Operand

/-! ### Conditions -/

theorem Comparison.holds_eq (op : Comparison) {l l' m m' : Literal} (h : l.Same l')
    (h' : m.Same m') : op.holds l m = op.holds l' m' := by
  have x : Decimal.Same (l.number?.getD 0.0) (l'.number?.getD 0.0) := rel_getD h.number? (.refl _)
  have y : Decimal.Same (m.number?.getD 0.0) (m'.number?.getD 0.0) := rel_getD h'.number? (.refl _)
  cases op with
  | equal => exact h.beq_eq h'
  | notEqual => exact congrArg (!·) (h.beq_eq h')
  | greater => exact decide_eq_decide.2 (y.lt x)
  | greaterEqual => exact decide_eq_decide.2 (y.le x)
  | less => exact decide_eq_decide.2 (x.lt y)
  | lessEqual => exact decide_eq_decide.2 (x.le y)

namespace Condition

theorem oneByOne_beqItems : OneByOne Condition.beq
    (beqItems : List (Condition (Operand σ)) → List (Condition (Operand σ)) → Bool) :=
  ⟨fun _ _ _ _ => rfl, fun _ _ => rfl, fun _ _ => rfl⟩

/-- The conditions come to the same, and refer to the same paths. -/
structure Agrees (look look' : String → Option Json) (c d : Condition (Operand σ)) : Prop where
  holds : c.holds look = d.holds look'
  references : c.references look = d.references look'

theorem referencesUntil_eq (verdict : Bool) {items others : List (Condition (Operand σ))}
    (each : List.Forall₂ (Agrees look look') items others) :
    referencesUntil look verdict items = referencesUntil look' verdict others := by
  induction each with
  | nil => rfl
  | cons first _ ih => rw [referencesUntil, referencesUntil, first.holds, first.references, ih]

/-- Equal conditions agree if their paths refer to the same. -/
theorem agrees_of_beq (same : ∀ text, Option.Rel Json.Same (look text) (look' text))
    {c d : Condition (Operand σ)} (hc : c.Forall Operand.Ordered) (hd : d.Forall Operand.Ordered)
    (h : (c == d) = true) : Agrees look look' c d := by
  change c.beq d = true at h
  induction hc generalizing d with
  | all inside ih =>
    cases hd with
    | all inside' =>
      have each := oneByOne_beqItems.related h fun x mem y mem' => ih x mem (inside' y mem')
      have verdicts := verdicts_eq_of_forall₂ (each.imp fun _ _ h => h.holds)
      exact ⟨by rw [holds, holds, verdicts],
        by rw [references, references, referencesUntil_eq false each]⟩
    | _ => simp [Condition.beq] at h
  | any inside ih =>
    cases hd with
    | any inside' =>
      have each := oneByOne_beqItems.related h fun x mem y mem' => ih x mem (inside' y mem')
      have verdicts := verdicts_eq_of_forall₂ (each.imp fun _ _ h => h.holds)
      exact ⟨by rw [holds, holds, verdicts],
        by rw [references, references, referencesUntil_eq true each]⟩
    | _ => simp [Condition.beq] at h
  | and left right ihx ihy =>
    cases hd with
    | and left' right' =>
      rw [Condition.beq, Bool.and_eq_true] at h
      have x := ihx left' h.1
      have y := ihy right' h.2
      exact ⟨by rw [holds, holds, x.holds, y.holds],
        by rw [references, references, x.references, y.references]⟩
    | _ => simp [Condition.beq] at h
  | or left right ihx ihy =>
    cases hd with
    | or left' right' =>
      rw [Condition.beq, Bool.and_eq_true] at h
      have x := ihx left' h.1
      have y := ihy right' h.2
      exact ⟨by rw [holds, holds, x.holds, y.holds],
        by rw [references, references, x.references, y.references]⟩
    | _ => simp [Condition.beq] at h
  | not inside ih =>
    cases hd with
    | not inside' =>
      have x := ih inside' h
      exact ⟨by rw [holds, holds, x.holds], by rw [references, references, x.references]⟩
    | _ => simp [Condition.beq] at h
  | compare left right =>
    cases hd with
    | compare left' right' =>
      rw [Condition.beq, Bool.and_eq_true, Bool.and_eq_true, beq_iff_eq] at h
      obtain ⟨⟨rfl, ha⟩, hb⟩ := h
      have a := Operand.same_value same left left' ha
      have b := Operand.same_value same right right' hb
      exact ⟨Comparison.holds_eq _ a b, by
        rw [references, references, Operand.paths_eq ha, Operand.paths_eq hb]⟩
    | _ => simp [Condition.beq] at h
  | operand only =>
    cases hd with
    | operand only' =>
      have a := Operand.same_value same only only' h
      exact ⟨by rw [holds, holds, a.bool?], by rw [references, references, Operand.paths_eq h]⟩
    | _ => simp [Condition.beq] at h

end Condition

/-- Equal conditions about equal documents are decided alike, with as many lookups, whatever was
remembered of how path texts read. -/
theorem examine_respects_equality (settings : Settings) {root root' : Condition (Operand Path.Memo)}
    (bound : root.Forall Operand.Bound) (bound' : root'.Forall Operand.Bound)
    (ordered : root.Forall Operand.Ordered) (ordered' : root'.Forall Operand.Ordered)
    (equal : (root == root') = true) {document document' : Json} (here : document.Ordered)
    (there : document'.Ordered) (equiv : document.equiv document' = true) {memo memo' : Path.Memo}
    (sound : memo.Sound) (sound' : memo'.Sound) :
    ((Evaluator.ofSettings settings).examine root document memo).1 =
      ((Evaluator.ofSettings settings).examine root' document' memo').1 := by
  have same := Json.same_of_equiv here there equiv
  have agrees := Condition.agrees_of_beq
    (Resolver.same_target settings.jsonPointerPaths same) ordered ordered' equal
  rw [Evaluator.examine_ofSettings settings bound document sound,
    Evaluator.examine_ofSettings settings bound' document' sound', agrees.holds, agrees.references]

theorem examine_respects_equality_of_zeros :
    let arguments (x : Float) : List (Operand Path.Memo) := [.path "/b", .literal (.number x)]
    let call (x : Float) : Operand Path.Memo :=
      .call "arr.contains" (arguments x) .boolean ⟨"arr.contains", Function.arrayContains⟩
    let condition (m n : Json.Number) (x : Float) : Condition (Operand Path.Memo) :=
      .all [.compare .equal (.path "$.a[*]") (.literal (.node (.array [.number m, .number n]))),
        .not (.operand (call x))]
    let root := condition (.whole 5) (.whole 0) 0.0
    let root' := condition (.real 5.0) (.real (-0.0)) (-0.0)
    let document := Json.ofMembers [("a", .array [.number (.whole 5), .number (.whole 0)]),
      ("b", .array [.number (.whole 9007199254740992)])]
    let document' := Json.ofMembers [("b", .array [.number (.whole 9007199254740993)]),
      ("a", .array [.number (.real 5.0), .number (.real (-0.0))])]
    let found := ((Evaluator.ofSettings .default).examine root document .empty).1
    let found' := ((Evaluator.ofSettings .default).examine root' document' .empty).1
    ((root.Forall Operand.Bound ∧ root'.Forall Operand.Bound) ∧
      (root.Forall Operand.Ordered ∧ root'.Forall Operand.Ordered) ∧
      (root == root') = true ∧ (document.Ordered ∧ document'.Ordered) ∧
      document.equiv document' = true) ∧
    found = found' ∧ found = ⟨true, 2, 0⟩ := by
  intro arguments call condition root root' document document' found found'
  have both {α : Type} {p : α → Prop} {a b : α} (ha : p a) (hb : p b) : ∀ x ∈ [a, b], p x :=
    List.forall_mem_cons.2 ⟨ha, List.forall_mem_singleton.2 hb⟩
  have bound (m n : Json.Number) (x : Float) : (condition m n x).Forall Operand.Bound := by
    have made : Registry.default.bind "arr.contains" (arguments x) = .ok (call x) := by rfl
    have called : (call x).Bound := .call (both (.path _) (.literal _)) made
    exact .all (both (.compare (.path _) (.literal _)) (.not (.operand called)))
  have pair (m n : Json.Number) : (Json.array [.number m, .number n]).Ordered :=
    .array (both (.number m) (.number n))
  have ordered (m n : Json.Number) (x : Float) : (condition m n x).Forall Operand.Ordered := by
    have called : (call x).Ordered := .call (both (.path _) (.literal trivial))
    exact .all (both (.compare (.path _) (.literal (pair m n))) (.not (.operand called)))
  have one (n : Json.Number) : (Json.array [.number n]).Ordered :=
    .array (List.forall_mem_singleton.2 (.number n))
  have here : document.Ordered := Json.ordered_ofMembers (both (pair _ _) (one _))
  have there : document'.Ordered := Json.ordered_ofMembers (both (one _) (pair _ _))
  have equal : (root == root') = true := by decide +kernel
  have equiv : document.equiv document' = true := by decide +kernel
  have same : found = found' := examine_respects_equality .default (bound _ _ _) (bound _ _ _)
    (ordered _ _ _) (ordered _ _ _) equal here there equiv Path.Memo.sound_empty Path.Memo.sound_empty
  exact ⟨⟨⟨bound _ _ _, bound _ _ _⟩, ⟨ordered _ _ _, ordered _ _ _⟩, equal, ⟨here, there⟩, equiv⟩,
    same, by decide +kernel⟩

end Verdict
