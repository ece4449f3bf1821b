import Verdict.Decimal.Shortest
import Mathlib.Data.Rat.Defs
import Mathlib.Algebra.Order.Field.Rat
import Mathlib.Algebra.Order.Field.Power
import Mathlib.Tactic.Ring
import Mathlib.Tactic.FieldSimp
import Mathlib.Tactic.NormNum
import Mathlib.Tactic.Positivity
import Mathlib.Tactic.Linarith

/-!
# Results that need no rounding

A finite number that is not zero is a significand times a power of two, `Binary`, in one form that is
canonical.  Where the exact result of an operation is a canonical number, rounding does not change it:
`round_exact`, `mul_exact` and `div_exact` say this of the model of floating-point numbers.
-/

namespace Verdict.Decimal

open Float.Model Float.Model.UnpackedFloat

/-! ### Canonical numbers -/

namespace Binary

/-- The number is finite and not zero, and its significand is as long as it can be. -/
structure Canonical (b : Binary) : Prop where
  lower : -1074 ≤ b.scale
  upper : b.scale ≤ 971
  short : b.significand < 2 ^ 53
  long : 2 ^ 52 ≤ b.significand ∨ b.scale = -1074
  pos : 0 < b.significand

/-- The number itself. -/
def value (b : Binary) : ℚ :=
  b.significand * 2 ^ b.scale

/-- The number as the model of floating-point numbers has it. -/
def unpacked (sign : Sign) (b : Binary) (pos : 0 < b.significand) : UnpackedFloat :=
  .finite sign b.significand b.scale pos

variable {b : Binary} {sign : Sign} {m n : Nat} {e : Int}

theorem log2_mul_two_pow (h : m ≠ 0) : (m * 2 ^ n).log2 = m.log2 + n := by
  have low := (Nat.le_log2 h).1 (Nat.le_refl m.log2)
  have high := (Nat.log2_lt h).1 (Nat.lt_succ_self m.log2)
  have hne : m * 2 ^ n ≠ 0 := Nat.mul_ne_zero h (Nat.pos_iff_ne_zero.1 (Nat.two_pow_pos n))
  rw [Nat.log2_eq_iff hne]
  constructor
  · rw [Nat.pow_add]
    exact Nat.mul_le_mul_right _ low
  · rw [show m.log2 + n + 1 = m.log2 + 1 + n by omega, Nat.pow_add]
    exact Nat.mul_lt_mul_of_pos_right high (Nat.two_pow_pos n)

/-- A canonical number has the exponent that its format wants. -/
theorem Canonical.targetExponent (h : b.Canonical) :
    Format.binary64.targetExponent (totalExponent b.significand b.scale) = b.scale := by
  have hne := Nat.pos_iff_ne_zero.1 h.pos
  have short := (Nat.log2_lt hne).2 h.short
  have lower := h.lower
  change max ((b.significand.log2 : Int) + 1 + b.scale - 53) (-1074) = b.scale
  rcases h.long with long | least
  · have := (Nat.le_log2 hne).2 long
    omega
  · omega

theorem shiftRight_exact (m n : Nat) :
    ((⟨m * 2 ^ n, false, false⟩ : ExtendedMantissa) >>> n) = ⟨m, false, false⟩ := by
  change Nat.repeat ExtendedMantissa.shiftRightOne n _ = _
  induction n generalizing m with
  | zero => simp [Nat.repeat]
  | succ n ih =>
    rw [Nat.repeat, show m * 2 ^ (n + 1) = m * 2 * 2 ^ n by rw [Nat.pow_succ]; ring, ih]
    simp [ExtendedMantissa.shiftRightOne]

/-- A canonical number with zeros behind its significand is rounded to itself. -/
theorem Canonical.roundWithAccuracy (h : b.Canonical) (n : Nat) :
    UnpackedFloat.roundWithAccuracy Format.binary64 sign (b.significand * 2 ^ n) (b.scale - n) .exact =
      b.unpacked sign h.pos := by
  have hne := Nat.pos_iff_ne_zero.1 h.pos
  have total : totalExponent (b.significand * 2 ^ n) (b.scale - n) =
      totalExponent b.significand b.scale := by
    unfold totalExponent
    rw [log2_mul_two_pow hne]
    push_cast
    ring
  have first : shiftToTargetExponent Format.binary64 (b.significand * 2 ^ n) (b.scale - n) .exact =
      (⟨b.significand, false, false⟩, b.scale) := by
    unfold shiftToTargetExponent shiftToExponent
    rw [total, h.targetExponent]
    dsimp only
    rw [show (b.scale - (b.scale - n)).toNat = n by omega]
    refine Prod.ext (shiftRight_exact _ _) ?_
    change b.scale - n + n = b.scale
    omega
  have second : shiftToTargetExponent Format.binary64 b.significand b.scale .exact =
      (⟨b.significand, false, false⟩, b.scale) := by
    unfold shiftToTargetExponent shiftToExponent
    rw [h.targetExponent]
    dsimp only
    rw [show (b.scale - b.scale).toNat = 0 by omega]
    refine Prod.ext rfl ?_
    change b.scale + 0 = b.scale
    omega
  unfold UnpackedFloat.roundWithAccuracy
  rw [first]
  change (let (x, y) := shiftToTargetExponent Format.binary64 b.significand b.scale .exact
    if h : x.mantissa = 0 then UnpackedFloat.zero sign
    else .finite sign x.mantissa y (Nat.pos_of_ne_zero h)) = _
  rw [second]
  exact dif_neg hne

/-- A number that is canonical in another form is rounded to the canonical one. -/
theorem Canonical.round (h : b.Canonical) (same : (m : ℚ) * 2 ^ e = b.value) (le : e ≤ b.scale) :
    UnpackedFloat.roundWithAccuracy Format.binary64 sign m e .exact = b.unpacked sign h.pos := by
  obtain ⟨n, hn⟩ := Int.eq_ofNat_of_zero_le (Int.sub_nonneg_of_le le)
  obtain rfl : e = b.scale - n := by omega
  have digits : m = b.significand * 2 ^ n := by
    have split : (2 : ℚ) ^ b.scale = 2 ^ (b.scale - n) * 2 ^ n := by
      rw [← zpow_natCast, ← zpow_add₀ (by norm_num), Int.sub_add_cancel]
    rw [value, split] at same
    have power : (2 : ℚ) ^ (b.scale - n) ≠ 0 := by positivity
    have cancelled : (m : ℚ) = b.significand * 2 ^ n := by
      apply mul_right_cancel₀ power
      rw [same]
      ring
    exact_mod_cast cancelled
  rw [digits]
  exact h.roundWithAccuracy n

variable {x y : Binary}

theorem Canonical.value_pos (h : b.Canonical) : 0 < b.value := by
  have := h.pos
  unfold value
  positivity

theorem mul_exact (h : b.Canonical) (hx : 0 < x.significand) (hy : 0 < y.significand)
    (same : x.value * y.value = b.value) (wide : b.significand ≤ x.significand * y.significand) :
    UnpackedFloat.mul Format.binary64 (x.unpacked .positive hx) (y.unpacked .positive hy) =
      b.unpacked .positive h.pos := by
  have product : ((x.significand * y.significand : Nat) : ℚ) * 2 ^ (x.scale + y.scale) = b.value := by
    rw [← same, value, value, zpow_add₀ (by norm_num)]
    push_cast
    ring
  change UnpackedFloat.roundWithAccuracy Format.binary64 .positive _ _ .exact = _
  refine h.round product ?_
  -- a larger significand leaves a smaller power of two
  by_contra hlt
  have larger : (2 : ℚ) ^ b.scale < 2 ^ (x.scale + y.scale) :=
    zpow_lt_zpow_right₀ (by norm_num) (by omega)
  have wide : (b.significand : ℚ) ≤ (x.significand * y.significand : Nat) := by exact_mod_cast wide
  have : b.value < b.value := by
    calc b.value = b.significand * 2 ^ b.scale := rfl
      _ < b.significand * 2 ^ (x.scale + y.scale) :=
        mul_lt_mul_of_pos_left larger (by exact_mod_cast h.pos)
      _ ≤ (x.significand * y.significand : Nat) * 2 ^ (x.scale + y.scale) := by gcongr
      _ = b.value := product
  exact lt_irrefl _ this

theorem zpow_le_value (hx : 0 < x.significand) :
    (2 : ℚ) ^ (totalExponent x.significand x.scale - 1) ≤ x.value := by
  have low : (2 : ℚ) ^ x.significand.log2 ≤ x.significand := by
    exact_mod_cast (Nat.le_log2 (Nat.pos_iff_ne_zero.1 hx)).1 (Nat.le_refl _)
  have split : totalExponent x.significand x.scale - 1 = (x.significand.log2 : Int) + x.scale := by
    unfold totalExponent
    ring
  rw [split, zpow_add₀ (by norm_num), zpow_natCast, value]
  gcongr

theorem value_lt_zpow (hx : 0 < x.significand) :
    x.value < (2 : ℚ) ^ totalExponent x.significand x.scale := by
  have high : (x.significand : ℚ) < 2 ^ (x.significand.log2 + 1) := by
    exact_mod_cast (Nat.log2_lt (Nat.pos_iff_ne_zero.1 hx)).1 (Nat.lt_succ_self _)
  have split : totalExponent x.significand x.scale =
      ((x.significand.log2 + 1 : Nat) : Int) + x.scale := by
    unfold totalExponent
    push_cast
    ring
  rw [split, zpow_add₀ (by norm_num), zpow_natCast, value]
  gcongr

theorem Canonical.value_lt (h : b.Canonical) : b.value < 2 ^ (53 + b.scale) := by
  have short : (b.significand : ℚ) < 2 ^ 53 := by exact_mod_cast h.short
  rw [zpow_add₀ (by norm_num), value]
  have power : (2 : ℚ) ^ (53 : Int) = 2 ^ 53 := by norm_num
  rw [power]
  gcongr

/-- The exponent at which a quotient is taken is not above that of the exact quotient. -/
theorem quotientExponent_le (h : b.Canonical) (hx : 0 < x.significand) (hy : 0 < y.significand)
    (same : x.value = b.value * y.value) :
    Format.binary64.targetExponent (totalExponent x.significand x.scale -
      totalExponent y.significand y.scale) ≤ b.scale := by
  have sizes : totalExponent x.significand x.scale - 1 <
      53 + b.scale + totalExponent y.significand y.scale := by
    have chain : (2 : ℚ) ^ (totalExponent x.significand x.scale - 1) <
        2 ^ (53 + b.scale + totalExponent y.significand y.scale) := by
      calc (2 : ℚ) ^ (totalExponent x.significand x.scale - 1) ≤ x.value := zpow_le_value hx
        _ = b.value * y.value := same
        _ < 2 ^ (53 + b.scale) * 2 ^ totalExponent y.significand y.scale :=
          mul_lt_mul'' h.value_lt (value_lt_zpow hy) h.value_pos.le (by unfold value; positivity)
        _ = 2 ^ (53 + b.scale + totalExponent y.significand y.scale) := by
          rw [← zpow_add₀ (by norm_num)]
    exact (zpow_lt_zpow_iff_right₀ (by norm_num)).1 chain
  have lower := h.lower
  change max (_ - 53) (-1074) ≤ b.scale
  omega

theorem div_exact (h : b.Canonical) (hx : 0 < x.significand) (hy : 0 < y.significand)
    (same : x.value = b.value * y.value) :
    UnpackedFloat.div Format.binary64 (x.unpacked .positive hx) (y.unpacked .positive hy) =
      b.unpacked .positive h.pos := by
  have target := quotientExponent_le h hx hy same
  obtain ⟨t, ht⟩ : ∃ t, t = min (x.scale - y.scale) (Format.binary64.targetExponent
      (totalExponent x.significand x.scale - totalExponent y.significand y.scale)) := ⟨_, rfl⟩
  obtain ⟨k, hk⟩ := Int.eq_ofNat_of_zero_le (show 0 ≤ x.scale - y.scale - t by omega)
  obtain ⟨n, hn⟩ := Int.eq_ofNat_of_zero_le (show 0 ≤ b.scale - t by omega)
  have dividend : x.significand * 2 ^ k = y.significand * (b.significand * 2 ^ n) := by
    have power : (2 : ℚ) ^ (t + y.scale) ≠ 0 := by positivity
    have scaled : (x.significand : ℚ) * 2 ^ k = y.significand * (b.significand * 2 ^ n) := by
      apply mul_right_cancel₀ power
      have left : (2 : ℚ) ^ k * 2 ^ (t + y.scale) = 2 ^ x.scale := by
        rw [← zpow_natCast, ← zpow_add₀ (by norm_num)]
        congr 1
        omega
      have right : (2 : ℚ) ^ n * 2 ^ (t + y.scale) = 2 ^ b.scale * 2 ^ y.scale := by
        rw [← zpow_natCast, ← zpow_add₀ (by norm_num), ← zpow_add₀ (by norm_num)]
        congr 1
        omega
      calc (x.significand : ℚ) * 2 ^ k * 2 ^ (t + y.scale) = x.value := by
            rw [mul_assoc, left, value]
        _ = b.value * y.value := same
        _ = y.significand * (b.significand * (2 ^ n * 2 ^ (t + y.scale))) := by
            rw [right, value, value]
            ring
        _ = _ := by ring
    exact_mod_cast scaled
  have core : divCore Format.binary64 x.significand x.scale y.significand y.scale =
      (b.significand * 2 ^ n, t, .exact) := by
    unfold divCore
    dsimp only
    rw [← ht, hk, Int.toNat_natCast, Nat.shiftLeft_eq, dividend, Nat.mul_div_cancel_left _ hy,
      Nat.mul_mod_right]
    rfl
  change (let (m, e, acc) := divCore Format.binary64 x.significand x.scale y.significand y.scale
    UnpackedFloat.roundWithAccuracy Format.binary64 .positive m e acc) = _
  rw [core, show t = b.scale - n by omega]
  exact h.roundWithAccuracy n

end Binary

end Verdict.Decimal
