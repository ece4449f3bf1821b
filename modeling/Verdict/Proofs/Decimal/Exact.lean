import Verdict.Proofs.Decimal.Bits

/-!
# Decimals that are numbers

The exact value of a decimal is a rational number.  A decimal with the value of a canonical number
comes to this number, `toFloat_of_value`: neither the limits nor the fast case on the way change it.
-/

namespace Verdict.Decimal

open Float.Model Float.Model.UnpackedFloat

/-! ### Values of decimals -/

/-- The number itself. -/
def value (d : Decimal) : ℚ :=
  d.digits * 10 ^ d.exponent

theorem value_stripped (d : Decimal) (n : Nat) : (d.stripped n).value = d.value := by
  induction n generalizing d with
  | zero => rfl
  | succ n ih =>
    rw [stripped]
    split
    · rename_i h
      obtain ⟨m, hm⟩ := Nat.dvd_of_mod_eq_zero h
      rw [ih, value, value, hm, Nat.mul_div_cancel_left _ (by decide), zpow_add₀ (by norm_num)]
      push_cast
      ring
    · rfl

theorem value_canonical (d : Decimal) : d.canonical.value = d.value :=
  value_stripped d _

theorem width_le_iff {n k : Nat} : width n ≤ k ↔ n < 10 ^ k := by
  unfold width
  split
  · rename_i h
    subst h
    simp
  · rename_i h
    cases k with
    | zero =>
      have := Nat.length_toDigits_pos (b := 10) (n := n)
      simp only [Nat.pow_zero]
      omega
    | succ k => exact Nat.length_toDigits_le_iff (by decide) (Nat.succ_pos k)

theorem value_lt (d : Decimal) : d.value < 10 ^ (width d.digits + d.exponent) := by
  have digits : (d.digits : ℚ) < 10 ^ width d.digits := by
    exact_mod_cast width_le_iff.1 (Nat.le_refl _)
  rw [zpow_add₀ (by norm_num), zpow_natCast, value]
  gcongr

theorem le_value (d : Decimal) (h : d.digits ≠ 0) :
    10 ^ (width d.digits + d.exponent - 1) ≤ d.value := by
  obtain ⟨k, hk⟩ : ∃ k, width d.digits = k + 1 :=
    Nat.exists_eq_succ_of_ne_zero fun h0 => h (by
      have := width_le_iff.1 (Nat.le_of_eq h0)
      omega)
  have digits : (10 : ℚ) ^ k ≤ d.digits := by
    exact_mod_cast Nat.le_of_not_lt (mt width_le_iff.2 (by omega))
  have split : ((width d.digits : Nat) : Int) + d.exponent - 1 = (k : Int) + d.exponent := by
    rw [hk]
    push_cast
    ring
  rw [split, zpow_add₀ (by norm_num), zpow_natCast, value]
  gcongr

namespace Binary

variable {b : Binary} {d : Decimal}

/-! ### Canonical numbers are within the limits -/

theorem Canonical.le_value (h : b.Canonical) : (2 : ℚ) ^ (-1074 : Int) ≤ b.value := by
  have pos : (1 : ℚ) ≤ b.significand := by exact_mod_cast h.pos
  calc (2 : ℚ) ^ (-1074 : Int) ≤ 2 ^ b.scale := zpow_le_zpow_right₀ (by norm_num) h.lower
    _ = 1 * 2 ^ b.scale := (one_mul _).symm
    _ ≤ b.value := by
      unfold value
      gcongr

theorem Canonical.value_lt_two_pow (h : b.Canonical) : b.value < (2 : ℚ) ^ 1024 := by
  have upper := h.upper
  calc b.value < 2 ^ (53 + b.scale) := h.value_lt
    _ ≤ 2 ^ ((1024 : Nat) : Int) := zpow_le_zpow_right₀ (by norm_num) (by push_cast; omega)
    _ = 2 ^ 1024 := zpow_natCast _ _

theorem top_le (h : b.Canonical) (same : d.value = b.value) (hd : d.digits ≠ 0) :
    width d.digits + d.exponent ≤ 310 := by
  by_contra hgt
  have powers : (2 : ℚ) ^ 1024 < 10 ^ 310 := by
    have : (2 : Nat) ^ 1024 < 10 ^ 310 := by decide +kernel
    exact_mod_cast this
  have : d.value < d.value := by
    calc d.value = b.value := same
      _ < 2 ^ 1024 := h.value_lt_two_pow
      _ < 10 ^ 310 := powers
      _ = 10 ^ ((310 : Nat) : Int) := (zpow_natCast _ _).symm
      _ ≤ 10 ^ (width d.digits + d.exponent - 1) :=
        zpow_le_zpow_right₀ (by norm_num) (by push_cast; omega)
      _ ≤ d.value := Decimal.le_value d hd
  exact lt_irrefl _ this

theorem le_top (h : b.Canonical) (same : d.value = b.value) :
    -330 ≤ width d.digits + d.exponent := by
  by_contra hlt
  have powers : (10 : ℚ) ^ (-330 : Int) ≤ 2 ^ (-1074 : Int) := by
    have naturals : (2 : Nat) ^ 1074 ≤ 10 ^ 330 := by decide +kernel
    have : (2 : ℚ) ^ 1074 ≤ 10 ^ 330 := by exact_mod_cast naturals
    rw [zpow_neg, zpow_neg]
    exact inv_anti₀ (by positivity) (by exact_mod_cast this)
  have : d.value < d.value := by
    calc d.value < 10 ^ (width d.digits + d.exponent) := Decimal.value_lt d
      _ ≤ 10 ^ (-330 : Int) := zpow_le_zpow_right₀ (by norm_num) (by omega)
      _ ≤ 2 ^ (-1074 : Int) := powers
      _ ≤ b.value := h.le_value
      _ = d.value := same.symm
  exact lt_irrefl _ this

/-! ### The general case of reading -/

variable {m e : Nat} {power : Int}

theorem exponent_le (h : b.Canonical) (hm : 0 < m) (same : (m : ℚ) * 10 ^ power = b.value) :
    power ≤ 1024 := by
  by_contra hgt
  obtain ⟨n, rfl⟩ := Int.eq_ofNat_of_zero_le (show 0 ≤ power by omega)
  have pos : (1 : ℚ) ≤ m := by exact_mod_cast hm
  have chain : (2 : ℚ) ^ n < 2 ^ 1024 := by
    calc (2 : ℚ) ^ n ≤ 10 ^ n := by gcongr; norm_num
      _ = 1 * 10 ^ ((n : Nat) : Int) := by rw [one_mul, zpow_natCast]
      _ ≤ m * 10 ^ ((n : Nat) : Int) := by gcongr
      _ = b.value := same
      _ < 2 ^ 1024 := h.value_lt_two_pow
  have := (pow_lt_pow_iff_right₀ (by norm_num : (1 : ℚ) < 2)).1 chain
  omega

theorem le_exponent (h : b.Canonical) (hm : 0 < m) (same : (m : ℚ) * 10 ^ power = b.value) :
    -(1075 + m.log2) ≤ power := by
  by_contra hlt
  obtain ⟨n, hn⟩ := Int.eq_ofNat_of_zero_le (show 0 ≤ -power by omega)
  obtain rfl : power = -n := by omega
  have digits : (m : ℚ) < 2 ^ (m.log2 + 1) := by
    exact_mod_cast (Nat.log2_lt (Nat.pos_iff_ne_zero.1 hm)).1 (Nat.lt_succ_self _)
  have chain : (2 : ℚ) ^ (-1074 : Int) < 2 ^ (((m.log2 + 1 : Nat) : Int) - n) := by
    calc (2 : ℚ) ^ (-1074 : Int) ≤ b.value := h.le_value
      _ = m * (10 ^ n)⁻¹ := by rw [← same, zpow_neg, zpow_natCast]
      _ ≤ m * (2 ^ n)⁻¹ := by gcongr; norm_num
      _ < 2 ^ (m.log2 + 1) * (2 ^ n)⁻¹ := by gcongr
      _ = 2 ^ (((m.log2 + 1 : Nat) : Int) - n) := by
        rw [zpow_sub₀ (by norm_num), zpow_natCast, zpow_natCast, div_eq_mul_inv]
  have := (zpow_lt_zpow_iff_right₀ (by norm_num : (1 : ℚ) < 2)).1 chain
  push_cast at this
  omega

theorem ofScientific_exact (h : b.Canonical) (hm : 0 < m)
    (same : (m : ℚ) * 10 ^ power = b.value) :
    UnpackedFloat.ofScientific Format.binary64 m power = b.unpacked .positive h.pos := by
  have short := h.short
  have large : ¬ power > 2 ^ Format.binary64.exponentBits := by
    have := exponent_le h hm same
    change ¬ power > 2 ^ 11
    omega
  have small : ¬ power < -((2 ^ Format.binary64.exponentBits : Int) + m.log2) := by
    have := le_exponent h hm same
    change ¬ power < -((2 ^ 11 : Int) + m.log2)
    omega
  unfold UnpackedFloat.ofScientific
  rw [dif_neg (Nat.pos_iff_ne_zero.1 hm), if_neg large, if_neg small]
  split
  · rename_i nonneg
    obtain ⟨n, rfl⟩ := Int.eq_ofNat_of_zero_le nonneg
    have shifted : m <<< 53 = m * 2 ^ 53 := Nat.shiftLeft_eq m 53
    refine mul_exact (x := ⟨m <<< 53, -53⟩) (y := ⟨10 ^ n, 0⟩) h
      (by simp only [shifted]; positivity) (Nat.pow_pos (by decide)) ?_ ?_
    · have cancel : (2 : ℚ) ^ 53 * 2 ^ (-53 : Int) = 1 := by norm_num
      rw [← same, value, value]
      simp only [shifted, Nat.cast_mul, Nat.cast_pow, Nat.cast_ofNat]
      rw [zpow_natCast, mul_assoc (m : ℚ), cancel]
      simp
    · calc b.significand ≤ 1 * 2 ^ 53 * 1 := by omega
        _ ≤ m * 2 ^ 53 * 10 ^ n := by
          have : 0 < 10 ^ n := Nat.pow_pos (by decide)
          gcongr <;> omega
        _ = m <<< 53 * 10 ^ n := by rw [shifted]
  · rename_i negative
    obtain ⟨n, hn⟩ := Int.eq_ofNat_of_zero_le (show 0 ≤ -power by omega)
    obtain rfl : power = -n := by omega
    refine div_exact (x := ⟨m, 0⟩) (y := ⟨10 ^ (-(-(n : Int))).toNat, 0⟩) h hm
      (Nat.pow_pos (by decide)) ?_
    rw [← same, value, value]
    simp only [Int.neg_neg, Int.toNat_natCast]
    push_cast
    rw [zpow_neg, zpow_natCast]
    field_simp

/-! ### The fast case of reading -/

/-- A short natural number times a power of two. -/
def scaled (m : Nat) (scale : Int) : Binary :=
  ⟨m * 2 ^ (52 - m.log2), m.log2 - 52 + scale⟩

theorem significand_scaled (pos : 0 < m) (short : m < 2 ^ 53) (scale : Int) :
    2 ^ 52 ≤ (scaled m scale).significand ∧ (scaled m scale).significand < 2 ^ 53 := by
  have hne := Nat.pos_iff_ne_zero.1 pos
  have log := (Nat.log2_lt hne).2 short
  have digits : m * 2 ^ (52 - m.log2) ≠ 0 := Nat.mul_ne_zero hne (Nat.two_pow_pos _).ne'
  refine (Nat.log2_eq_iff digits).1 ?_
  rw [log2_mul_two_pow hne]
  omega

theorem canonical_scaled (pos : 0 < m) (short : m < 2 ^ 53) {k : Int} (lower : 0 ≤ k)
    (upper : k ≤ 22) : (scaled m k).Canonical := by
  have log := (Nat.log2_lt (Nat.pos_iff_ne_zero.1 pos)).2 short
  have digits := significand_scaled pos short k
  refine ⟨?_, ?_, digits.2, .inl digits.1, by omega⟩
  · change -1074 ≤ (m.log2 : Int) - 52 + k
    omega
  · change (m.log2 : Int) - 52 + k ≤ 971
    omega

theorem value_scaled (pos : 0 < m) (short : m < 2 ^ 53) (scale : Int) :
    (scaled m scale).value = m * 2 ^ scale := by
  have log := (Nat.log2_lt (Nat.pos_iff_ne_zero.1 pos)).2 short
  obtain ⟨k, hk⟩ : ∃ k, m.log2 + k = 52 := ⟨52 - m.log2, by omega⟩
  have exponents : (m.log2 : Int) - 52 + scale = -(k : Int) + scale := by omega
  unfold scaled value
  simp only [exponents]
  rw [show 52 - m.log2 = k by omega, zpow_add₀ (by norm_num), zpow_neg, zpow_natCast]
  push_cast
  field_simp

theorem toFloat_toUInt64 (pos : 0 < m) (short : m < 2 ^ 53) :
    m.toUInt64.toFloat =
      (scaled m 0).toFloat .positive (canonical_scaled pos short (by decide) (by decide)) := by
  have h := canonical_scaled pos short (k := 0) (by decide) (by decide)
  have log := (Nat.log2_lt (Nat.pos_iff_ne_zero.1 pos)).2 short
  have toNat : m.toUInt64.toNat = m := Nat.mod_eq_of_lt (by omega)
  have compared : compare (m : Int) 0 = .gt := Int.compare_eq_gt.2 (by omega)
  have target : Format.binary64.targetExponent (totalExponent m 0) = (m.log2 : Int) - 52 := by
    change max ((m.log2 : Int) + 1 + 0 - 53) (-1074) = _
    omega
  have unpacked : UnpackedFloat.ofUInt64 Format.binary64 m.toUInt64 =
      (scaled m 0).unpacked .positive h.pos := by
    unfold UnpackedFloat.ofUInt64 UnpackedFloat.ofNat UnpackedFloat.ofInt UnpackedFloat.normalize
    rw [toNat, compared]
    dsimp only
    unfold UnpackedFloat.round UnpackedFloat.decreaseExponent
    dsimp only
    rw [Int.toNat_natCast, target, Nat.shiftLeft_eq,
      show (0 - ((m.log2 : Int) - 52)).toNat = 52 - m.log2 by omega]
    refine h.round ?_ ?_
    · rw [value, scaled]
      push_cast
      congr 1
      congr 1
      omega
    · change _ ≤ (m.log2 : Int) - 52 + 0
      omega
  change Float.ofModel (Float.Model.pack (UnpackedFloat.ofUInt64 Format.binary64 m.toUInt64)) = _
  rw [unpacked]
  rfl

theorem five_pow_lt (he : e ≤ 22) : 5 ^ e < 2 ^ 53 := by
  calc 5 ^ e ≤ 5 ^ 22 := Nat.pow_le_pow_right (by decide) he
    _ < 2 ^ 53 := by decide

theorem canonical_ten_pow (he : e ≤ 22) : (scaled (5 ^ e) e).Canonical :=
  canonical_scaled (Nat.pow_pos (by decide)) (five_pow_lt he) (by omega) (by omega)

theorem value_ten_pow (he : e ≤ 22) : (scaled (5 ^ e) e).value = 10 ^ e := by
  rw [value_scaled (Nat.pow_pos (by decide)) (five_pow_lt he), zpow_natCast]
  push_cast
  rw [← mul_pow]
  norm_num

theorem word_ten_pow : ∀ e : Fin 23,
    Float.exactlyRepresentablePowersOfTen[e].toBits.toNat = (scaled (5 ^ e.val) e.val).word := by
  decide +kernel

theorem table_eq (he : e ≤ 22) (within : e < Float.exactlyRepresentablePowersOfTen.size) :
    Float.exactlyRepresentablePowersOfTen[e] =
      (scaled (5 ^ e) e).toFloat .positive (canonical_ten_pow he) := by
  apply eq_of_toNat_toBits
  rw [toNat_toBits]
  exact (word_ten_pow ⟨e, within⟩).trans (Nat.zero_add _).symm

theorem mul_toFloat {x y : Binary} (hx : x.Canonical) (hy : y.Canonical) (h : b.Canonical)
    (same : x.value * y.value = b.value) (wide : b.significand ≤ x.significand * y.significand) :
    x.toFloat .positive hx * y.toFloat .positive hy = b.toFloat .positive h := by
  change Float.ofModel (Float.Model.pack (UnpackedFloat.mul Format.binary64
    (x.toFloat .positive hx).toModel.unpack (y.toFloat .positive hy).toModel.unpack)) = _
  rw [unpack_toFloat, unpack_toFloat, mul_exact h hx.pos hy.pos same wide]
  rfl

theorem div_toFloat {x y : Binary} (hx : x.Canonical) (hy : y.Canonical) (h : b.Canonical)
    (same : x.value = b.value * y.value) :
    x.toFloat .positive hx / y.toFloat .positive hy = b.toFloat .positive h := by
  change Float.ofModel (Float.Model.pack (UnpackedFloat.div Format.binary64
    (x.toFloat .positive hx).toModel.unpack (y.toFloat .positive hy).toModel.unpack)) = _
  rw [unpack_toFloat, unpack_toFloat, div_exact h hx.pos hy.pos same]
  rfl

theorem negOfNat_ite (power : Int) :
    (if decide (power < 0) = true then Int.negOfNat power.natAbs else Int.ofNat power.natAbs) =
      power := by
  split
  · rename_i negative
    have := of_decide_eq_true negative
    rw [Int.negOfNat_eq]
    change -(power.natAbs : Int) = power
    omega
  · rename_i nonneg
    have : ¬ power < 0 := by simpa using nonneg
    change (power.natAbs : Int) = power
    omega

theorem mul_ten_pow_exact (h : b.Canonical) (hm : 0 < m) (short : m < 2 ^ 53) (few : e ≤ 22)
    (same : (m : ℚ) * 10 ^ (e : Int) = b.value) :
    (scaled m 0).toFloat .positive (canonical_scaled hm short (by decide) (by decide)) *
      (scaled (5 ^ e) e).toFloat .positive (canonical_ten_pow few) = b.toFloat .positive h := by
  refine mul_toFloat _ _ h ?_ ?_
  · rw [value_scaled hm short, value_ten_pow few, ← same, zpow_zero, mul_one, zpow_natCast]
  · have := h.short
    have left := (significand_scaled hm short 0).1
    have right := (significand_scaled (Nat.pow_pos (by decide)) (five_pow_lt few) e).1
    calc b.significand ≤ 2 ^ 52 * 2 ^ 52 := by omega
      _ ≤ _ := Nat.mul_le_mul left right

theorem div_ten_pow_exact (h : b.Canonical) (hm : 0 < m) (short : m < 2 ^ 53) (few : e ≤ 22)
    (same : (m : ℚ) * 10 ^ (-e : Int) = b.value) :
    (scaled m 0).toFloat .positive (canonical_scaled hm short (by decide) (by decide)) /
      (scaled (5 ^ e) e).toFloat .positive (canonical_ten_pow few) = b.toFloat .positive h := by
  refine div_toFloat _ _ h ?_
  rw [value_scaled hm short, value_ten_pow few, ← same, zpow_neg, zpow_natCast]
  field_simp

/-- A number is read exactly, with a table of powers of ten or without. -/
theorem floatOfScientific_exact (h : b.Canonical) (hm : 0 < m)
    (same : (m : ℚ) * 10 ^ power = b.value) :
    Float.ofScientific m (power < 0) power.natAbs = b.toFloat .positive h := by
  unfold Float.ofScientific
  split
  · rename_i small
    obtain ⟨short, few⟩ := small
    dsimp only
    rw [toFloat_toUInt64 hm short, table_eq few]
    by_cases negative : power < 0
    · rw [if_pos (decide_eq_true negative)]
      refine div_ten_pow_exact h hm short few ?_
      rw [← same, show -(power.natAbs : Int) = power by omega]
    · rw [if_neg (by simpa using negative)]
      refine mul_ten_pow_exact h hm short few ?_
      rw [← same, show (power.natAbs : Int) = power by omega]
  · dsimp only
    rw [negOfNat_ite]
    change Float.ofModel (Float.Model.pack (UnpackedFloat.ofScientific Format.binary64 m power)) = _
    rw [ofScientific_exact h hm same]
    rfl

/-- A decimal with the value of a number comes to this number. -/
theorem toFloat_of_value (h : b.Canonical) (same : d.value = b.value) :
    d.toFloat = b.toFloat .positive h := by
  have positive : 0 < d.value := by
    rw [same]
    exact h.value_pos
  have digits : d.digits ≠ 0 := by
    intro zero
    simp [Decimal.value, zero] at positive
  have canonical : d.canonical.value = b.value := by rw [value_canonical, same]
  have nonzero : 0 < d.canonical.digits := by
    apply Nat.pos_of_ne_zero
    intro zero
    rw [← value_canonical] at positive
    simp [Decimal.value, zero] at positive
  have upper := top_le h same digits
  have lower := le_top h same
  unfold Decimal.toFloat
  dsimp only
  rw [if_neg (by omega), if_neg (by omega)]
  exact floatOfScientific_exact h nonzero canonical

/-- All digits of a number have its value. -/
theorem value_exactly (b : Binary) : b.exactly.value = b.value := by
  unfold exactly
  split
  · rename_i nonneg
    obtain ⟨n, hn⟩ := Int.eq_ofNat_of_zero_le nonneg
    simp [Decimal.value, value, hn]
  · rename_i negative
    obtain ⟨n, hn⟩ := Int.eq_ofNat_of_zero_le (show 0 ≤ -b.scale by omega)
    have scale : b.scale = -n := by omega
    have ten : (10 : ℚ) = 2 * 5 := by norm_num
    simp only [Decimal.value, value, scale, Int.neg_neg, Int.toNat_natCast, Nat.pow_eq,
      zpow_neg, zpow_natCast]
    push_cast
    rw [ten, mul_pow]
    field_simp

theorem toFloat_exactly (h : b.Canonical) : b.exactly.toFloat = b.toFloat .positive h :=
  toFloat_of_value h b.value_exactly

end Binary

end Verdict.Decimal
