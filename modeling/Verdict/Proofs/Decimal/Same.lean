import Verdict.Decimal.Whole
import Verdict.Proofs.Decimal.Bits

/-!
# Numbers that are the same

Two numbers are the same if they are equal or both of them are no number at all.  All that can then
differ is the sign of zero.  No operation on numbers that rules know makes more of that than the sign
of a zero again, and no comparison sees it.
-/

namespace Verdict.Decimal

open Float.Model Float.Model.UnpackedFloat

/-- The numbers are equal, or neither is one. -/
def Same (x y : Float) : Prop :=
  x = y ∨ (x == y) = true

theorem Same.refl (x : Float) : Same x x :=
  .inl rfl

theorem same_signedZero : ∀ sign sign' : Sign, Same (signedZero sign) (signedZero sign')
  | .positive, .positive => .inl rfl
  | .positive, .negative => .inr (by decide +kernel)
  | .negative, .positive => .inr (by decide +kernel)
  | .negative, .negative => .inl rfl

/-! ### The sign of zero -/

/-- Nothing but the sign of zero is different. -/
def Close (a b : UnpackedFloat) : Prop :=
  a = b ∨ ∃ sign sign', a = .zero sign ∧ b = .zero sign'

theorem Close.refl (a : UnpackedFloat) : Close a a :=
  .inl rfl

theorem close_zero (sign sign' : Sign) : Close (.zero sign) (.zero sign') :=
  .inr ⟨sign, sign', rfl, rfl⟩

theorem Close.trans {a b c : UnpackedFloat} (h : Close a b) (h' : Close b c) : Close a c := by
  rcases h with rfl | ⟨sign, sign', rfl, rfl⟩
  · exact h'
  · rcases h' with rfl | ⟨_, sign'', -, rfl⟩
    · exact close_zero _ _
    · exact close_zero _ _

theorem Same.cases {x y : Float} (h : Same x y) :
    x = y ∨ ∃ sign sign', x = signedZero sign ∧ y = signedZero sign' := by
  rcases h with same | equal
  · exact .inl same
  · obtain ⟨-, -, same | ⟨rfl, rfl⟩ | ⟨rfl, rfl⟩⟩ := Float.beq_iff_ne_nan_and_eq.1 equal
    · exact .inl same
    · exact .inr ⟨.positive, .negative, by decide +kernel, by decide +kernel⟩
    · exact .inr ⟨.negative, .positive, by decide +kernel, by decide +kernel⟩

theorem Same.close {x y : Float} (h : Same x y) : Close x.toModel.unpack y.toModel.unpack := by
  obtain rfl | ⟨sign, sign', rfl, rfl⟩ := h.cases
  · exact .refl _
  · rw [unpack_signedZero, unpack_signedZero]
    exact close_zero sign sign'

theorem Close.same {a b : UnpackedFloat} (h : Close a b) :
    Same (Float.ofModel (Float.Model.pack a)) (Float.ofModel (Float.Model.pack b)) := by
  obtain rfl | ⟨sign, sign', rfl, rfl⟩ := h
  · exact .refl _
  · exact same_signedZero sign sign'

/-! ### Functions of one number -/

theorem Same.map {f : Float → Float} {x y : Float} (h : Same x y)
    (zeros : ∀ sign sign', Same (f (signedZero sign)) (f (signedZero sign'))) :
    Same (f x) (f y) := by
  obtain rfl | ⟨sign, sign', rfl, rfl⟩ := h.cases
  · exact .refl _
  · exact zeros sign sign'

theorem Same.map_of_fixed {f : Float → Float} {x y : Float} (h : Same x y)
    (fixed : ∀ sign, f (signedZero sign) = signedZero sign) : Same (f x) (f y) :=
  h.map fun sign sign' => by
    rw [fixed, fixed]
    exact same_signedZero sign sign'

theorem ofFloat_signedZero (sign : Sign) :
    ∃ scale < 0, Binary.ofFloat (signedZero sign) = ⟨0, scale⟩ := by
  refine ⟨-1074, by decide, ?_⟩
  cases sign
  · rfl
  · rfl

/-- A zero is whole already, unless `away` takes it for more. -/
theorem toWhole_signedZero {away : Nat → Nat → Bool} (stays : ∀ unit, 0 < unit → away 0 unit = false)
    (sign : Sign) : toWhole away (signedZero sign) = signedZero sign := by
  obtain ⟨scale, below, zero⟩ := ofFloat_signedZero sign
  have unit : 0 < Nat.pow 2 (-scale).toNat := Nat.pow_pos (by decide)
  unfold toWhole
  rw [zero]
  dsimp only
  rw [if_neg (by omega), Nat.zero_mod, Nat.zero_div, stays _ unit]
  cases sign
  · decide +kernel
  · decide +kernel

theorem floor_signedZero (sign : Sign) : floor (signedZero sign) = signedZero sign :=
  toWhole_signedZero (fun _ _ => by simp) sign

theorem ceiling_signedZero (sign : Sign) : ceiling (signedZero sign) = signedZero sign :=
  toWhole_signedZero (fun _ _ => by simp) sign

theorem round_signedZero (sign : Sign) : round (signedZero sign) = signedZero sign :=
  toWhole_signedZero (fun _ positive => by simpa using Nat.ne_of_gt positive) sign

theorem abs_signedZero (sign : Sign) : (signedZero sign).abs = signedZero .positive := by
  cases sign
  · rfl
  · rfl

theorem Same.abs {x y : Float} (h : Same x y) : Same x.abs y.abs :=
  h.map fun sign sign' => .inl (by rw [abs_signedZero, abs_signedZero])

/-! ### Sums and differences -/

section Operations

variable {a b c d : UnpackedFloat}

theorem Close.add_left (h : Close a b) (c : UnpackedFloat) :
    Close (UnpackedFloat.add Format.binary64 a c) (UnpackedFloat.add Format.binary64 b c) := by
  rcases h with rfl | ⟨sign, sign', rfl, rfl⟩
  · exact .refl _
  · cases c with
    | zero s => cases sign <;> cases sign' <;> cases s <;> exact close_zero _ _
    | _ => exact .refl _

theorem Close.add_right (c : UnpackedFloat) (h : Close a b) :
    Close (UnpackedFloat.add Format.binary64 c a) (UnpackedFloat.add Format.binary64 c b) := by
  rcases h with rfl | ⟨sign, sign', rfl, rfl⟩
  · exact .refl _
  · cases c with
    | zero s => cases sign <;> cases sign' <;> cases s <;> exact close_zero _ _
    | _ => exact .refl _

theorem Close.add (h : Close a b) (h' : Close c d) :
    Close (UnpackedFloat.add Format.binary64 a c) (UnpackedFloat.add Format.binary64 b d) :=
  (h.add_left c).trans (h'.add_right b)

theorem neg_apply (sign : Sign) (n : Int) : (-sign).apply n = -sign.apply n := by
  cases sign
  · exact (Int.neg_neg n).symm
  · rfl

/-- What is subtracted is added with the other sign. -/
theorem sub_eq_add_neg (format : Format) (a b : UnpackedFloat) :
    UnpackedFloat.sub format a b = UnpackedFloat.add format a b.neg := by
  cases a with
  | finite sign =>
    cases b with
    | finite sign' =>
      simp only [UnpackedFloat.sub, UnpackedFloat.add, UnpackedFloat.neg, neg_apply,
        Int.sub_eq_add_neg]
    | _ => rfl
  | _ => cases b <;> rfl

theorem Close.neg (h : Close a b) : Close a.neg b.neg := by
  rcases h with rfl | ⟨sign, sign', rfl, rfl⟩
  · exact .refl _
  · exact close_zero _ _

theorem Close.sub (h : Close a b) (h' : Close c d) :
    Close (UnpackedFloat.sub Format.binary64 a c) (UnpackedFloat.sub Format.binary64 b d) := by
  rw [sub_eq_add_neg, sub_eq_add_neg]
  exact h.add h'.neg

theorem Close.compare (h : Close a b) (h' : Close c d) :
    UnpackedFloat.compare a c = UnpackedFloat.compare b d := by
  have left : UnpackedFloat.compare a c = UnpackedFloat.compare b c := by
    rcases h with rfl | ⟨sign, sign', rfl, rfl⟩
    · rfl
    · cases c with
      | infinity s => cases s <;> rfl
      | finite s => cases s <;> rfl
      | _ => rfl
  have right : UnpackedFloat.compare b c = UnpackedFloat.compare b d := by
    rcases h' with rfl | ⟨sign, sign', rfl, rfl⟩
    · rfl
    · cases b with
      | infinity s => cases s <;> rfl
      | finite s => cases s <;> rfl
      | _ => rfl
  exact left.trans right

end Operations

section Numbers

variable {x y z w : Float}

theorem Same.add (h : Same x y) (h' : Same z w) : Same (x + z) (y + w) :=
  (h.close.add h'.close).same

theorem Same.sub (h : Same x y) (h' : Same z w) : Same (x - z) (y - w) :=
  (h.close.sub h'.close).same

/-! ### Comparisons -/

theorem Same.beq (h : Same x y) (h' : Same z w) : (x == z) = (y == w) := by
  change UnpackedFloat.beq x.toModel.unpack z.toModel.unpack =
    UnpackedFloat.beq y.toModel.unpack w.toModel.unpack
  rw [UnpackedFloat.beq, UnpackedFloat.beq, h.close.compare h'.close]

theorem float_lt_iff : x < y ↔ UnpackedFloat.lt x.toModel.unpack y.toModel.unpack = true :=
  decide_eq_true_iff

theorem float_le_iff : x ≤ y ↔ UnpackedFloat.le x.toModel.unpack y.toModel.unpack = true :=
  decide_eq_true_iff

theorem Same.lt (h : Same x y) (h' : Same z w) : x < z ↔ y < w := by
  rw [float_lt_iff, float_lt_iff, UnpackedFloat.lt, UnpackedFloat.lt, h.close.compare h'.close]

theorem Same.le (h : Same x y) (h' : Same z w) : x ≤ z ↔ y ≤ w := by
  rw [float_le_iff, float_le_iff, UnpackedFloat.le, UnpackedFloat.le, h.close.compare h'.close]

end Numbers

end Verdict.Decimal
