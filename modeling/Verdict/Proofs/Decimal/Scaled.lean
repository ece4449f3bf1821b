import Verdict.Decimal.Scaled
import Verdict.Proofs.Decimal.Finite

/-!
# Scaled numbers are finite

A product of finite numbers may be infinite, but it is a number, so whatever is scaled without being
refused is finite.  A quotient by a number that is not below one is finite anyway,
`isFinite_div_of_one_le`; this is the step by which a number is shrunk.
-/

namespace Verdict.Decimal

open Float.Model Float.Model.UnpackedFloat

/-! ### Products -/

theorem isNaN_packed_roundWithAccuracy (sign : Sign) (m : Nat) (e : Int) (accuracy : Accuracy) :
    (packed (roundWithAccuracy Format.binary64 sign m e accuracy)).isNaN = false := by
  unfold roundWithAccuracy
  dsimp only
  split
  · exact isNaN_of_isFinite (packed_zero sign)
  · next nonzero => exact (packed_finite sign (Nat.pos_of_ne_zero nonzero) _).1

/-- What is neither a NaN nor infinite is finite. -/
theorem isFinite_of_not_isInf {x : Float} (number : x.isNaN = false) (h : x.isInf = false) :
    x.isFinite = true := by
  change x.toModel.unpack.isNaN = false at number
  change x.toModel.unpack.isInf = false at h
  change x.toModel.unpack.isFinite = true
  cases unpacked : x.toModel.unpack with
  | notANumber => simp [unpacked, UnpackedFloat.isNaN] at number
  | infinity sign => simp [unpacked, UnpackedFloat.isInf] at h
  | _ => rfl

/-- A product of finite numbers is a number. -/
theorem isNaN_mul {x y : Float} (hx : x.isFinite = true) (hy : y.isFinite = true) :
    (x * y).isNaN = false := by
  change x.toModel.unpack.isFinite = true at hx
  change y.toModel.unpack.isFinite = true at hy
  change (packed (UnpackedFloat.mul Format.binary64 x.toModel.unpack y.toModel.unpack)).isNaN = false
  cases first : x.toModel.unpack with
  | zero sign =>
    cases second : y.toModel.unpack with
    | zero sign' => exact isNaN_of_isFinite (packed_zero _)
    | finite sign' m e pos => exact isNaN_of_isFinite (packed_zero _)
    | _ => simp [second, UnpackedFloat.isFinite] at hy
  | finite sign m e pos =>
    cases second : y.toModel.unpack with
    | zero sign' => exact isNaN_of_isFinite (packed_zero _)
    | finite sign' m' e' pos' => exact isNaN_packed_roundWithAccuracy _ _ _ _
    | _ => simp [second, UnpackedFloat.isFinite] at hy
  | _ => simp [first, UnpackedFloat.isFinite] at hx

/-! ### Quotients -/

section Quotient

variable {b : Binary}

theorem Binary.Canonical.value_lt_limit (h : b.Canonical) : b.value < limit := by
  have below : b.significand < 2 ^ 53 := h.short
  have power : (2 : ℚ) ^ b.scale ≤ 2 ^ (971 : Int) := zpow_le_zpow_right₀ (by norm_num) h.upper
  calc b.value = b.significand * 2 ^ b.scale := rfl
    _ ≤ (2 ^ 53 - 1 : Nat) * 2 ^ (971 : Int) := by
      gcongr
      omega
    _ = (2 ^ 54 - 2 : Nat) * 2 ^ (970 : Int) := by
      rw [show (971 : Int) = 1 + 970 by decide, zpow_add₀ (by norm_num), ← mul_assoc]
      norm_num
    _ < (2 ^ 54 - 1 : Nat) * 2 ^ (970 : Int) := by
      refine mul_lt_mul_of_pos_right ?_ (by positivity)
      norm_num
    _ = limit := limit_eq.symm

theorem Binary.Canonical.totalExponent_le (h : b.Canonical) :
    totalExponent b.significand b.scale ≤ 1024 := by
  have log := (Nat.log2_lt (Nat.pos_iff_ne_zero.1 h.pos)).2 h.short
  have upper := h.upper
  unfold totalExponent
  omega

theorem Binary.totalExponent_pos (pos : 0 < b.significand) (one : 1 ≤ b.value) :
    0 < totalExponent b.significand b.scale := by
  have above : (2 : ℚ) ^ (0 : Int) < 2 ^ totalExponent b.significand b.scale := by
    calc (2 : ℚ) ^ (0 : Int) = 1 := zpow_zero 2
      _ ≤ b.value := one
      _ < _ := value_lt_zpow pos
  exact (zpow_lt_zpow_iff_right₀ (by norm_num)).1 above

/-- Division by a number that is not below one leaves a finite number finite. -/
theorem isFinite_div_of_one_le {x : Float} (finite : x.isFinite = true) (h : b.Canonical)
    (one : 1 ≤ b.value) : (x / b.toFloat .positive h).isFinite = true := by
  rcases exists_of_isFinite finite with ⟨sign, rfl⟩ | ⟨sign, a, canonical, rfl⟩
  · change (packed (UnpackedFloat.div Format.binary64 (signedZero sign).toModel.unpack
      (b.toFloat .positive h).toModel.unpack)).isFinite = true
    rw [unpack_signedZero, Binary.unpack_toFloat]
    exact packed_zero _
  · change (packed (UnpackedFloat.div Format.binary64 (a.toFloat sign canonical).toModel.unpack
      (b.toFloat .positive h).toModel.unpack)).isFinite = true
    rw [Binary.unpack_toFloat, Binary.unpack_toFloat]
    have large := canonical.totalExponent_le
    have small := Binary.totalExponent_pos h.pos one
    refine (Binary.finiteBelow_div sign .positive canonical.pos h.pos (.inr (by omega))).2.2 ?_
    exact (div_le_self canonical.value_pos.le one).trans_lt canonical.value_lt_limit

end Quotient

/-! ### Powers of ten -/

theorem Binary.one_le_value {b : Binary} (long : 2 ^ 52 ≤ b.significand) (scale : -52 ≤ b.scale) :
    1 ≤ b.value := by
  calc (1 : ℚ) = (2 ^ 52 : Nat) * 2 ^ (-52 : Int) := by norm_num
    _ ≤ b.significand * 2 ^ (-52 : Int) := by gcongr
    _ ≤ b.significand * 2 ^ b.scale := by
      gcongr
      norm_num

section Round

variable {m : Nat} {e : Int}

/-- What is long enough and not below one is rounded at the last of its 53 digits. -/
theorem roundedMantissa_bounds (long : 2 ^ 52 ≤ m) (one : 0 < totalExponent m e)
    (accuracy : Accuracy) :
    2 ^ 52 ≤ (ExtendedMantissa.ofMantissaAndAccuracy m accuracy >>> shift m e).roundedMantissa ∧
      (ExtendedMantissa.ofMantissaAndAccuracy m accuracy >>> shift m e).roundedMantissa ≤ 2 ^ 53 := by
  have nonzero : m ≠ 0 := by omega
  have log : 52 ≤ m.log2 := (Nat.le_log2 nonzero).2 long
  have places : shift m e + 52 = m.log2 := by
    unfold shift
    unfold totalExponent at one
    omega
  have full : 2 ^ 52 ≤ m / 2 ^ shift m e := by
    rw [Nat.le_div_iff_mul_le (Nat.two_pow_pos _), ← Nat.pow_add, Nat.add_comm, places]
    exact Nat.log2_self_le nonzero
  have short := div_two_pow_shift_lt m e
  rw [← mantissa_shifted m e accuracy] at full short
  exact ⟨full.trans (le_roundedMantissa _), (roundedMantissa_le _).trans short⟩

/-- A significand that became one digit too long when it was rounded loses this digit again. -/
theorem div_two_pow_shift_bounds {r : Nat} (low : 2 ^ 52 ≤ r) (high : r ≤ 2 ^ 53) (le : -1074 ≤ e) :
    2 ^ 52 ≤ r / 2 ^ shift r e ∧ r / 2 ^ shift r e < 2 ^ 53 := by
  rw [shift_of_le high le]
  split
  · omega
  · omega

/-- What is long enough and not below one is not rounded below one. -/
theorem exists_of_round (long : 2 ^ 52 ≤ m) (one : 0 < totalExponent m e) (accuracy : Accuracy)
    (finite : (packed (roundWithAccuracy Format.binary64 .positive m e accuracy)).isFinite = true) :
    ∃ b, ∃ h : Binary.Canonical b, 1 ≤ b.value ∧
      packed (roundWithAccuracy Format.binary64 .positive m e accuracy) = b.toFloat .positive h := by
  obtain ⟨low, high⟩ := roundedMantissa_bounds long one accuracy
  have scale : -52 ≤ e + (shift m e : Int) := by
    unfold totalExponent at one
    unfold shift
    omega
  unfold roundWithAccuracy at finite ⊢
  rw [shiftToTargetExponent_eq] at finite ⊢
  dsimp only at finite ⊢
  rw [shiftToTargetExponent_eq] at finite ⊢
  generalize (ExtendedMantissa.ofMantissaAndAccuracy m accuracy >>> shift m e).roundedMantissa = r
    at low high finite ⊢
  generalize e + (shift m e : Int) = f at scale finite ⊢
  have length := div_two_pow_shift_bounds low high (show -1074 ≤ f by omega)
  rw [← mantissa_shifted r f .exact] at length
  have positive : 0 < (ExtendedMantissa.ofMantissaAndAccuracy r .exact >>> shift r f).mantissa := by
    omega
  dsimp only at finite ⊢
  rw [dif_neg (Nat.ne_of_gt positive)] at finite ⊢
  have upper := (packed_finite _ positive _).2.1 finite
  have canonical : Binary.Canonical ⟨_, f + (shift r f : Int)⟩ :=
    ⟨show -1074 ≤ f + _ by omega, upper, length.2, .inl length.1, positive⟩
  exact ⟨_, canonical, Binary.one_le_value length.1 (show -52 ≤ f + _ by omega), rfl⟩

end Round

theorem tenPow_eq (n : Nat) :
    tenPow n = Float.ofScientific 1 ((n : Int) < 0) (n : Int).natAbs := by
  rw [decide_eq_false (by omega)]
  rfl

theorem isFinite_tenPow {n : Nat} (few : n ≤ 308) : (tenPow n).isFinite = true := by
  rw [tenPow_eq]
  refine (Binary.finiteBelow_floatOfScientific Nat.one_pos _).2.2 ?_
  have below : (10 : Nat) ^ 308 + 2 ^ 970 < 2 ^ 1024 := by decide +kernel
  calc ((1 : Nat) : ℚ) * 10 ^ (n : Int) = 10 ^ n := by rw [Nat.cast_one, one_mul, zpow_natCast]
    _ ≤ 10 ^ 308 := pow_le_pow_right₀ (by norm_num) few
    _ < limit := lt_sub_iff_add_lt.2 (by exact_mod_cast below)

/-- A power of ten that is in no table is rounded. -/
theorem tenPow_eq_packed {n : Nat} (beyond : 22 < n) (few : n ≤ 308) :
    tenPow n =
      packed (roundWithAccuracy Format.binary64 .positive (1 <<< 53 * 10 ^ n) (-53 + 0) .exact) := by
  rw [tenPow_eq]
  unfold Float.ofScientific
  rw [dif_neg (by omega)]
  dsimp only
  rw [Binary.negOfNat_ite]
  change packed (UnpackedFloat.ofScientific Format.binary64 1 n) = _
  unfold UnpackedFloat.ofScientific
  rw [dif_neg Nat.one_ne_zero]
  have large : ¬ (n : Int) > 2 ^ Format.binary64.exponentBits := by
    change ¬ (n : Int) > 2048
    omega
  have small : ¬ (n : Int) < -(2 ^ Format.binary64.exponentBits + ((1 : Nat).log2 : Int)) := by
    change ¬ (n : Int) < -(2048 + _)
    omega
  rw [if_neg large, if_neg small, if_pos (Int.natCast_nonneg n)]
  rfl

theorem exists_tenPow {n : Nat} (few : n ≤ 308) :
    ∃ b, ∃ h : Binary.Canonical b, 1 ≤ b.value ∧ tenPow n = b.toFloat .positive h := by
  by_cases table : n ≤ 22
  · have exactly := Binary.value_ten_pow table
    refine ⟨_, Binary.canonical_ten_pow table, ?_, ?_⟩
    · rw [exactly]
      exact one_le_pow₀ (by norm_num)
    · rw [tenPow_eq]
      refine Binary.floatOfScientific_exact _ Nat.one_pos ?_
      rw [exactly, Nat.cast_one, one_mul, zpow_natCast]
  · have finite := isFinite_tenPow few
    have long : 2 ^ 53 ≤ 1 <<< 53 * 10 ^ n :=
      Nat.le_mul_of_pos_right _ (Nat.pow_pos (by decide))
    have log : 53 ≤ (1 <<< 53 * 10 ^ n).log2 := (Nat.le_log2 (by omega)).2 long
    rw [tenPow_eq_packed (by omega) few] at finite ⊢
    refine exists_of_round (by omega) ?_ _ finite
    unfold totalExponent
    omega

theorem isFinite_div_tenPow {x : Float} {n : Nat} (finite : x.isFinite = true) (few : n ≤ 308) :
    (x / tenPow n).isFinite = true := by
  obtain ⟨b, h, one, power⟩ := exists_tenPow few
  rw [power]
  exact isFinite_div_of_one_le finite h one

theorem isFinite_shrink {x : Float} (finite : x.isFinite = true) (n : Nat) :
    (shrink x n).isFinite = true := by
  induction n generalizing x with
  | zero => exact finite
  | succ n ih =>
    rw [shrink]
    split
    · exact finite
    · exact ih (isFinite_div_tenPow finite (Nat.le_refl 308))

/-! ### Numerals -/

theorem gather_lt {n : Nat} (h : n < 0x10000000000000000) (digits : List Char) :
    (gather n digits).1 < 0x10000000000000000 := by
  induction digits generalizing n with
  | nil => exact h
  | cons digit digits ih =>
    rw [gather]
    split
    · next fits => exact ih fits
    · exact h

theorem isFinite_of_scaled? {d : Decimal} (fits : d.digits < 0x10000000000000000) {x : Float}
    (h : d.scaled? = some x) : x.isFinite = true := by
  have size : (toFloat ⟨d.digits, 0⟩).isFinite = true := by
    refine (finiteBelow_toFloat ⟨d.digits, 0⟩).2.2 ?_
    have digits : (d.digits : ℚ) < 2 ^ 64 := by exact_mod_cast fits
    calc (⟨d.digits, 0⟩ : Decimal).value = d.digits := by simp [Decimal.value]
      _ < 2 ^ (64 : Int) := digits
      _ < limit := two_pow_lt_limit (by decide)
  unfold Decimal.scaled? at h
  dsimp only at h
  split at h
  · split at h
    · next few =>
      split at h
      · cases h
      · next bounded =>
        obtain rfl := Option.some.inj h
        exact isFinite_of_not_isInf (isNaN_mul size (isFinite_tenPow few))
          (Bool.eq_false_iff.2 bounded)
    · split at h
      · obtain rfl := Option.some.inj h
        exact size
      · cases h
  · obtain rfl := Option.some.inj h
    exact isFinite_div_tenPow (isFinite_shrink size _) (by omega)

/-- A numeral that is scaled comes to a finite number. -/
theorem Numeral.isFinite_of_scaled? {n : Numeral} {x : Float} (h : n.scaled? = some x) :
    x.isFinite = true := by
  obtain ⟨y, scaled, rfl⟩ := Option.map_eq_some_iff.1 h
  have fits : n.gathered.digits < 0x10000000000000000 :=
    gather_lt (gather_lt (by decide) n.whole) n.fraction
  have finite := Decimal.isFinite_of_scaled? fits scaled
  split
  · exact isFinite_neg finite
  · exact finite

end Verdict.Decimal
