import Verdict.Decimal.Numeral
import Verdict.Proofs.Decimal.Exact

/-!
# Which decimals are finite numbers

A decimal always comes to a number, and this number is finite just when the decimal lies below `limit`,
`finiteBelow_toFloat`.  Rounding first shifts a significand to the length that it may have.  What is
lost is kept as a round bit, so that the exact number stays between two neighbours on a grid of half
units, `Spans`; the only significand that rounding can make longer is the one before `2 ^ 53`.
-/

namespace Verdict.Decimal

open Float.Model Float.Model.UnpackedFloat

/-- The least number that is rounded to infinity.  It is halfway from the greatest finite number to the
next power of two. -/
def limit : ℚ :=
  2 ^ 1024 - 2 ^ 970

theorem limit_eq : limit = (2 ^ 54 - 1 : Nat) * 2 ^ (970 : Int) := by
  have split : (2 : ℚ) ^ 1024 = 2 ^ 54 * 2 ^ 970 := by rw [← pow_add]
  rw [limit, split, Nat.cast_sub Nat.one_le_two_pow, sub_mul, zpow_ofNat]
  norm_num

theorem limit_pos : 0 < limit := by
  rw [limit_eq]
  positivity

theorem two_pow_lt_limit {n : Int} (h : n ≤ 1023) : (2 : ℚ) ^ n < limit := by
  calc (2 : ℚ) ^ n ≤ 2 ^ (53 + 970 : Int) := zpow_le_zpow_right₀ (by norm_num) h
    _ = (2 ^ 53 : Nat) * 2 ^ (970 : Int) := by
      rw [zpow_add₀ (by norm_num)]
      norm_num
    _ < (2 ^ 54 - 1 : Nat) * 2 ^ (970 : Int) := by
      gcongr
      norm_num
    _ = limit := limit_eq.symm

theorem limit_le_two_pow {n : Int} (h : 1024 ≤ n) : limit ≤ 2 ^ n := by
  calc limit ≤ 2 ^ 1024 := sub_le_self _ (by positivity)
    _ = 2 ^ (1024 : Int) := (zpow_ofNat _ _).symm
    _ ≤ 2 ^ n := zpow_le_zpow_right₀ (by norm_num) h

/-- The result is a number, and it is finite just when the exact value lies below the limit. -/
def FiniteBelow (value : ℚ) (x : Float) : Prop :=
  x.isNaN = false ∧ (x.isFinite = true ↔ value < limit)

/-! ### Numbers and their bits -/

/-- The floating-point number of a result in the model. -/
def packed (u : UnpackedFloat) : Float :=
  Float.ofModel (Float.Model.pack u)

theorem isFinite_unpack_iff {v : BitVec Format.binary64.numBits} :
    (unpack Format.binary64 v).isFinite = true ↔ v.toNat / 2 ^ 52 % 2 ^ 11 < 2047 := by
  refine ⟨exponent_lt_of_isFinite, fun below => ?_⟩
  unfold UnpackedFloat.unpack
  simp only [if_neg (unpackExponent_ne below)]
  split
  · split
    · rfl
    · rfl
  · rfl

theorem isNaN_of_isFinite {x : Float} (h : x.isFinite = true) : x.isNaN = false := by
  change x.toModel.unpack.isNaN = false
  change x.toModel.unpack.isFinite = true at h
  cases unpacked : x.toModel.unpack with
  | notANumber => simp [unpacked, UnpackedFloat.isFinite] at h
  | _ => rfl

theorem packed_zero (sign : Sign) : (packed (.zero sign)).isFinite = true := by
  cases sign
  · rfl
  · rfl

theorem packed_infinity (sign : Sign) :
    (packed (.infinity sign)).isNaN = false ∧ (packed (.infinity sign)).isFinite = false := by
  cases sign
  · exact ⟨rfl, rfl⟩
  · exact ⟨rfl, rfl⟩

theorem packed_finite (sign : Sign) {m : Nat} (pos : 0 < m) (e : Int) :
    (packed (.finite sign m e pos)).isNaN = false ∧
      ((packed (.finite sign m e pos)).isFinite = true ↔ e ≤ 971) := by
  have biased : (e + (Format.binary64.exponentBias : Int) +
      (Format.binary64.mantissaBitsWithoutImplicit : Int)).toNat = (e + 1075).toNat := by
    change (e + 1023 + 52).toNat = _
    omega
  by_cases large : 971 < e
  · have overflow : 2 ^ Format.binary64.exponentBits ≤ (e + 1075).toNat + 1 := by
      change 2 ^ 11 ≤ _
      omega
    have infinite : packed (.finite sign m e pos) = packed (.infinity sign) := by
      refine Float.toBits_inj.1 (UInt64.toBitVec_inj.1 ?_)
      change UnpackedFloat.pack Format.binary64 (.finite sign m e pos) =
        packedInfinity Format.binary64 sign
      simp only [UnpackedFloat.pack, biased, if_pos overflow]
    obtain ⟨number, unbounded⟩ := packed_infinity sign
    rw [infinite, number, unbounded]
    exact ⟨rfl, by simp [large]⟩
  · have within : ¬ 2 ^ Format.binary64.exponentBits ≤ (e + 1075).toNat + 1 := by
      change ¬ 2 ^ 11 ≤ _
      omega
    have finite : (packed (.finite sign m e pos)).isFinite = true := by
      refine isFinite_unpack_iff.2 ?_
      change (UnpackedFloat.pack Format.binary64 (.finite sign m e pos)).toNat / 2 ^ 52 % 2 ^ 11 < 2047
      have small : m % 2 ^ 52 < 2 ^ 52 := Nat.mod_lt _ (Nat.two_pow_pos 52)
      simp only [UnpackedFloat.pack, biased, if_neg within]
      split
      · rw [toNat_packComponents, BitVec.toNat_ofNat, BitVec.toNat_ofNat]
        change (_ + (e + 1075).toNat % 2 ^ 11 * 2 ^ 52 + m % 2 ^ 52) / 2 ^ 52 % 2 ^ 11 < 2047
        omega
      · rw [toNat_packComponents, BitVec.toNat_ofNat, BitVec.toNat_ofNat]
        change (_ + 0 * 2 ^ 52 + m % 2 ^ 52) / 2 ^ 52 % 2 ^ 11 < 2047
        omega
    exact ⟨isNaN_of_isFinite finite, by simp [finite, Int.not_lt.1 large]⟩

/-! ### Shifting -/

/-- A significand in half units: twice the significand, and one more if the round bit is set. -/
def halves (em : ExtendedMantissa) : Nat :=
  2 * em.mantissa + em.roundBit.toNat

/-- The number lies between a significand, in half units at the given exponent, and the next one. -/
def Spans (em : ExtendedMantissa) (e : Int) (x : ℚ) : Prop :=
  halves em * 2 ^ (e - 1) ≤ x ∧ x < (halves em + 1 : Nat) * 2 ^ (e - 1)

section Shift

variable {em : ExtendedMantissa} {e : Int} {x : ℚ}

theorem halves_shiftRightOne (em : ExtendedMantissa) : halves em.shiftRightOne = em.mantissa := by
  have rest := Nat.mod_two_eq_zero_or_one em.mantissa
  unfold halves ExtendedMantissa.shiftRightOne
  rcases rest with even | odd
  · simp only [even]
    change 2 * (em.mantissa / 2) + 0 = _
    omega
  · simp only [odd]
    change 2 * (em.mantissa / 2) + 1 = _
    omega

theorem halves_mul (n : Nat) (e : Int) : ((2 * n : Nat) : ℚ) * 2 ^ (e - 1) = n * 2 ^ e := by
  rw [zpow_sub_one₀ (by norm_num)]
  push_cast
  ring

theorem Spans.shiftRightOne (h : Spans em e x) : Spans em.shiftRightOne (e + 1) x := by
  have bit := Bool.toNat_le em.roundBit
  obtain ⟨low, high⟩ := h
  rw [Spans, halves_shiftRightOne, add_sub_cancel_right]
  constructor
  · calc (em.mantissa : ℚ) * 2 ^ e = (2 * em.mantissa : Nat) * 2 ^ (e - 1) := (halves_mul _ _).symm
      _ ≤ halves em * 2 ^ (e - 1) := by
        unfold halves
        gcongr
        omega
      _ ≤ x := low
  · calc x < (halves em + 1 : Nat) * 2 ^ (e - 1) := high
      _ ≤ (2 * (em.mantissa + 1) : Nat) * 2 ^ (e - 1) := by
        unfold halves
        gcongr
        omega
      _ = (em.mantissa + 1 : Nat) * 2 ^ e := halves_mul _ _

theorem Spans.shiftRight (h : Spans em e x) (n : Nat) : Spans (em >>> n) (e + n) x := by
  induction n with
  | zero =>
    rw [Nat.cast_zero, add_zero]
    exact h
  | succ n ih =>
    rw [Nat.cast_succ, ← add_assoc]
    exact ih.shiftRightOne

theorem mantissa_shiftRight (em : ExtendedMantissa) (n : Nat) :
    (em >>> n).mantissa = em.mantissa / 2 ^ n := by
  induction n with
  | zero => exact (Nat.div_one _).symm
  | succ n ih =>
    change (em >>> n).mantissa / 2 = _
    rw [ih, Nat.div_div_eq_div_mul, Nat.pow_succ]

/-- On a grid, what lies below a point of the grid is told by the point before. -/
theorem lt_mul_iff {m n : Nat} {unit : ℚ} (pos : 0 < unit) (low : m * unit ≤ x)
    (high : x < (m + 1 : Nat) * unit) : x < n * unit ↔ m < n := by
  constructor
  · intro below
    have := (mul_lt_mul_iff_left₀ pos).1 (low.trans_lt below)
    exact_mod_cast this
  · intro before
    refine high.trans_le ?_
    gcongr
    exact before

theorem Spans.lt_limit_iff (h : Spans em 971 x) : x < limit ↔ halves em < 2 ^ 54 - 1 := by
  rw [limit_eq]
  exact lt_mul_iff (by positivity) h.1 h.2

theorem Spans.lt_limit (h : Spans em e x) (short : em.mantissa < 2 ^ 53) (le : e ≤ 970) :
    x < limit := by
  have bit := Bool.toNat_le em.roundBit
  calc x < (halves em + 1 : Nat) * 2 ^ (e - 1) := h.2
    _ ≤ (2 ^ 54 : Nat) * 2 ^ (969 : Int) := by
      unfold halves
      gcongr
      · omega
      · norm_num
      · omega
    _ = 2 ^ (54 + 969 : Int) := by
      rw [zpow_add₀ (by norm_num)]
      norm_num
    _ < limit := two_pow_lt_limit (by norm_num)

theorem Spans.limit_le (h : Spans em e x) (long : 2 ^ 52 ≤ em.mantissa) (ge : 972 ≤ e) :
    limit ≤ x := by
  calc limit ≤ 2 ^ (53 + 971 : Int) := limit_le_two_pow (by norm_num)
    _ = (2 ^ 53 : Nat) * 2 ^ (971 : Int) := by
      rw [zpow_add₀ (by norm_num)]
      norm_num
    _ ≤ halves em * 2 ^ (e - 1) := by
      unfold halves
      gcongr
      · omega
      · norm_num
      · omega
    _ ≤ x := h.1

end Shift

/-! ### Rounding -/

theorem roundedMantissa_le (em : ExtendedMantissa) : em.roundedMantissa ≤ em.mantissa + 1 := by
  obtain ⟨m, bit, sticky⟩ := em
  have := Nat.mod_two_eq_zero_or_one m
  cases bit <;> cases sticky <;>
    simp only [ExtendedMantissa.roundedMantissa, ExtendedMantissa.accuracy,
      Accuracy.roundToNearestEven] <;> omega

theorem le_roundedMantissa (em : ExtendedMantissa) : em.mantissa ≤ em.roundedMantissa := by
  obtain ⟨m, bit, sticky⟩ := em
  cases bit <;> cases sticky <;>
    simp only [ExtendedMantissa.roundedMantissa, ExtendedMantissa.accuracy,
      Accuracy.roundToNearestEven] <;> omega

/-- An odd significand is rounded up from the middle on. -/
theorem roundedMantissa_of_odd {em : ExtendedMantissa} (odd : em.mantissa % 2 = 1) :
    em.roundedMantissa = em.mantissa + em.roundBit.toNat := by
  obtain ⟨m, bit, sticky⟩ := em
  dsimp only at odd
  cases bit <;> cases sticky <;>
    simp [ExtendedMantissa.roundedMantissa, ExtendedMantissa.accuracy,
      Accuracy.roundToNearestEven, odd]

/-- Of the significands that are short enough, rounding makes only the last one too long. -/
theorem roundedMantissa_lt_iff {em : ExtendedMantissa} (short : em.mantissa < 2 ^ 53) :
    em.roundedMantissa < 2 ^ 53 ↔ halves em < 2 ^ 54 - 1 := by
  have bit := Bool.toNat_le em.roundBit
  unfold halves
  by_cases last : em.mantissa = 2 ^ 53 - 1
  · have odd : em.mantissa % 2 = 1 := by omega
    have rounded := roundedMantissa_of_odd odd
    omega
  · have rounded := roundedMantissa_le em
    omega

theorem targetExponent_eq (m : Nat) (e : Int) :
    Format.binary64.targetExponent (totalExponent m e) = max ((m.log2 : Int) + e - 52) (-1074) := by
  change max ((m.log2 : Int) + 1 + e - 53) (-1074) = _
  omega

/-- How far a significand is shifted before it is rounded. -/
def shift (m : Nat) (e : Int) : Nat :=
  (max ((m.log2 : Int) + e - 52) (-1074) - e).toNat

theorem shiftToTargetExponent_eq (m : Nat) (e : Int) (accuracy : Accuracy) :
    shiftToTargetExponent Format.binary64 m e accuracy =
      (ExtendedMantissa.ofMantissaAndAccuracy m accuracy >>> shift m e, e + shift m e) := by
  unfold shiftToTargetExponent shiftToExponent
  rw [targetExponent_eq]
  rfl

theorem mantissa_ofMantissaAndAccuracy (m : Nat) (accuracy : Accuracy) :
    (ExtendedMantissa.ofMantissaAndAccuracy m accuracy).mantissa = m := by
  cases accuracy with
  | exact => rfl
  | inexact order => cases order <;> rfl

theorem mantissa_shifted (m : Nat) (e : Int) (accuracy : Accuracy) :
    (ExtendedMantissa.ofMantissaAndAccuracy m accuracy >>> shift m e).mantissa = m / 2 ^ shift m e := by
  rw [mantissa_shiftRight, mantissa_ofMantissaAndAccuracy]

theorem div_two_pow_shift_lt (m : Nat) (e : Int) : m / 2 ^ shift m e < 2 ^ 53 := by
  rw [Nat.div_lt_iff_lt_mul (Nat.two_pow_pos _), ← Nat.pow_add]
  refine Nat.lt_log2_self.trans_le (Nat.pow_le_pow_right (by decide) ?_)
  unfold shift
  omega

/-- A significand that ends up with an exponent above the greatest one has its full length. -/
theorem le_div_two_pow_shift {m : Nat} {e : Int} (low : e ≤ 971) (large : 971 < e + shift m e) :
    2 ^ 52 ≤ m / 2 ^ shift m e := by
  have length : m.log2 = 52 + shift m e := by
    unfold shift at large ⊢
    omega
  have pos : m ≠ 0 := by
    rintro rfl
    simp at length
    omega
  rw [Nat.le_div_iff_mul_le (Nat.two_pow_pos _), ← Nat.pow_add, ← length]
  exact Nat.log2_self_le pos

section Round

variable {m : Nat} {e : Int} {x : ℚ}

/-- What is shifted once more after rounding keeps its exponent, unless it became too long. -/
theorem shift_of_le {r : Nat} (le : r ≤ 2 ^ 53) (high : -1074 ≤ e) :
    shift r e = if r < 2 ^ 53 then 0 else 1 := by
  unfold shift
  split
  · rename_i short
    have log : r.log2 ≤ 52 := by
      by_cases zero : r = 0
      · simp [zero]
      · exact Nat.le_of_lt_succ ((Nat.log2_lt zero).2 short)
    omega
  · rename_i long
    obtain rfl : r = 2 ^ 53 := by omega
    rw [Nat.log2_two_pow]
    omega

variable {em : ExtendedMantissa} {accuracy : Accuracy}

/-- The exponent after rounding is one of a finite number just below the limit. -/
theorem exponent_le_iff (spans : Spans em e x) (short : em.mantissa < 2 ^ 53) (high : -1074 ≤ e)
    (long : 971 < e → 2 ^ 52 ≤ em.mantissa) :
    e + shift em.roundedMantissa e ≤ 971 ↔ x < limit := by
  have rounded := roundedMantissa_le em
  rw [shift_of_le (r := em.roundedMantissa) (by omega) high]
  rcases lt_trichotomy e 971 with below | rfl | above
  · have below := spans.lt_limit short (by omega)
    split
    · exact iff_of_true (by omega) below
    · exact iff_of_true (by omega) below
  · rw [spans.lt_limit_iff, ← roundedMantissa_lt_iff short]
    split
    · exact iff_of_true (by omega) ‹_›
    · exact iff_of_false (by omega) ‹_›
  · have beyond := spans.limit_le (long above) (by omega)
    refine iff_of_false ?_ beyond.not_gt
    omega

theorem finiteBelow_roundWithAccuracy
    (spans : Spans (ExtendedMantissa.ofMantissaAndAccuracy m accuracy) e x) (low : e ≤ 971)
    (sign : Sign) :
    FiniteBelow x (packed (roundWithAccuracy Format.binary64 sign m e accuracy)) := by
  obtain ⟨em, shifted⟩ :
      ∃ em, em = ExtendedMantissa.ofMantissaAndAccuracy m accuracy >>> shift m e := ⟨_, rfl⟩
  obtain ⟨f, exponent⟩ : ∃ f, f = e + (shift m e : Int) := ⟨_, rfl⟩
  have mantissa : em.mantissa = m / 2 ^ shift m e := by
    rw [shifted, mantissa_shifted]
  have high : -1074 ≤ f := by
    rw [exponent]
    unfold shift
    omega
  have short : em.mantissa < 2 ^ 53 := by
    rw [mantissa]
    exact div_two_pow_shift_lt m e
  have long (above : 971 < f) : 2 ^ 52 ≤ em.mantissa := by
    rw [mantissa]
    exact le_div_two_pow_shift low (exponent ▸ above)
  have finite : f + (shift em.roundedMantissa f : Int) ≤ 971 ↔ x < limit := by
    refine exponent_le_iff ?_ short high long
    rw [shifted, exponent]
    exact spans.shiftRight _
  have last := shift_of_le (r := em.roundedMantissa) (Nat.le_trans (roundedMantissa_le em) short) high
  have kept := le_roundedMantissa em
  unfold roundWithAccuracy
  rw [shiftToTargetExponent_eq, ← shifted, ← exponent]
  dsimp only
  rw [shiftToTargetExponent_eq]
  split
  · rename_i zero
    -- a number that is rounded to zero has no digit left, so its exponent is not large
    have none : em.roundedMantissa = 0 := by
      rw [mantissa_shifted, last] at zero
      split at zero
      · omega
      · omega
    have small : f ≤ 971 := by
      by_contra above
      have := long (by omega)
      omega
    rw [last, if_pos (by omega)] at finite
    exact ⟨isNaN_of_isFinite (packed_zero sign), iff_of_true (packed_zero sign) (finite.1 (by omega))⟩
  · rename_i nonzero
    obtain ⟨number, bounded⟩ := packed_finite sign (Nat.pos_of_ne_zero nonzero)
      (f + (shift em.roundedMantissa f : Int))
    exact ⟨number, bounded.trans finite⟩

end Round

/-! ### Products and quotients -/

theorem spans_exact (m : Nat) (e : Int) :
    Spans (ExtendedMantissa.ofMantissaAndAccuracy m .exact) e (m * 2 ^ e) := by
  have even : halves (ExtendedMantissa.ofMantissaAndAccuracy m .exact) = 2 * m := rfl
  rw [Spans, even, halves_mul]
  refine ⟨le_refl _, ?_⟩
  rw [← halves_mul]
  gcongr
  omega

/-- The round bit of a quotient is that of the quotient of twice the dividend. -/
theorem halves_quotient (m : Nat) {d : Nat} (pos : 0 < d) :
    halves (ExtendedMantissa.ofMantissaAndAccuracy (m / d) (accuracyOfFraction (m % d) d)) =
      2 * m / d := by
  have rest := Nat.mod_lt m pos
  have twice : 2 * m = d * (2 * (m / d)) + 2 * (m % d) := by
    conv_lhs => rw [← Nat.div_add_mod m d]
    ring
  rw [twice, Nat.mul_add_div pos]
  unfold accuracyOfFraction halves
  split
  · rename_i zero
    rw [zero]
    exact (congrArg (2 * (m / d) + ·) (Nat.zero_div d)).symm
  · rw [mantissa_ofMantissaAndAccuracy]
    congr 1
    rcases order : compare (2 * (m % d)) d with _ | _ | _
    · have := Nat.compare_eq_lt.1 order
      exact (Nat.div_eq_of_lt this).symm
    · have := Nat.compare_eq_eq.1 order
      rw [this, Nat.div_self pos]
      rfl
    · have := Nat.compare_eq_gt.1 order
      have one : 2 * (m % d) / d = 1 := Nat.div_eq_of_lt_le (by omega) (by omega)
      exact one.symm

theorem spans_quotient (m : Nat) {d : Nat} (pos : 0 < d) (e : Int) :
    Spans (ExtendedMantissa.ofMantissaAndAccuracy (m / d) (accuracyOfFraction (m % d) d)) e
      (m / d * 2 ^ e) := by
  have positive : (0 : ℚ) < d := by exact_mod_cast pos
  have value : (m : ℚ) / d * 2 ^ e = (2 * m : Nat) / d * 2 ^ (e - 1) := by
    rw [div_mul_eq_mul_div, div_mul_eq_mul_div, halves_mul]
  rw [Spans, halves_quotient m pos, value]
  constructor
  · gcongr
    exact Nat.cast_div_le
  · gcongr
    rw [div_lt_iff₀ positive]
    exact_mod_cast (Nat.lt_mul_div_succ (2 * m) pos).trans_eq (Nat.mul_comm _ _)

namespace Binary

variable {x y : Binary}

theorem finiteBelow_mul (hx : 0 < x.significand) (hy : 0 < y.significand)
    (low : x.scale + y.scale ≤ 971) :
    FiniteBelow (x.value * y.value) (packed (UnpackedFloat.mul Format.binary64
      (x.unpacked .positive hx) (y.unpacked .positive hy))) := by
  have value : x.value * y.value =
      ((x.significand * y.significand : Nat) : ℚ) * 2 ^ (x.scale + y.scale) := by
    rw [Binary.value, Binary.value, zpow_add₀ (by norm_num)]
    push_cast
    ring
  rw [value]
  exact finiteBelow_roundWithAccuracy (spans_exact _ _) low _

/-- A quotient may be taken at a large exponent, as long as it is not itself large. -/
theorem finiteBelow_div (sign sign' : Sign) (hx : 0 < x.significand) (hy : 0 < y.significand)
    (low : x.scale - y.scale ≤ 971 ∨ totalExponent x.significand x.scale -
      totalExponent y.significand y.scale ≤ 1024) :
    FiniteBelow (x.value / y.value) (packed (UnpackedFloat.div Format.binary64
      (x.unpacked sign hx) (y.unpacked sign' hy))) := by
  obtain ⟨t, exponent⟩ : ∃ t, t = min (x.scale - y.scale) (Format.binary64.targetExponent
      (totalExponent x.significand x.scale - totalExponent y.significand y.scale)) := ⟨_, rfl⟩
  have least : t ≤ 971 := by
    change t = min (x.scale - y.scale) (max (_ - 53) (-1074)) at exponent
    omega
  obtain ⟨k, shifted⟩ := Int.eq_ofNat_of_zero_le (show 0 ≤ x.scale - y.scale - t by omega)
  have value : x.value / y.value = ((x.significand * 2 ^ k : Nat) : ℚ) / y.significand * 2 ^ t := by
    have positive : (0 : ℚ) < y.significand := by exact_mod_cast hy
    have scales : x.scale = k + t + y.scale := by omega
    rw [Binary.value, Binary.value, scales, zpow_add₀ (by norm_num), zpow_add₀ (by norm_num),
      zpow_natCast]
    push_cast
    field_simp
  have core : divCore Format.binary64 x.significand x.scale y.significand y.scale =
      (x.significand * 2 ^ k / y.significand, t,
        accuracyOfFraction (x.significand * 2 ^ k % y.significand) y.significand) := by
    unfold divCore
    dsimp only
    rw [← exponent, shifted, Int.toNat_natCast, Nat.shiftLeft_eq]
  unfold UnpackedFloat.div unpacked
  dsimp only
  rw [core, value]
  exact finiteBelow_roundWithAccuracy (spans_quotient _ hy t) least _

/-! ### Reading -/

variable {m e : Nat} {power : Int}

theorem limit_le_of_large (hm : 0 < m) (large : 1024 ≤ power) : limit ≤ m * 10 ^ power := by
  have one : (1 : ℚ) ≤ m := by exact_mod_cast hm
  calc limit ≤ 2 ^ power := limit_le_two_pow large
    _ ≤ 10 ^ power := zpow_le_zpow_left₀ (by omega) (by norm_num) (by norm_num)
    _ = 1 * 10 ^ power := (one_mul _).symm
    _ ≤ m * 10 ^ power := by gcongr

theorem lt_limit_of_small (small : power < -(m.log2 : Int)) : m * 10 ^ power < limit := by
  obtain ⟨n, hn⟩ := Int.eq_ofNat_of_zero_le (show 0 ≤ -power by omega)
  obtain rfl : power = -n := by omega
  have digits : (m : ℚ) < 2 ^ (m.log2 + 1) := by exact_mod_cast Nat.lt_log2_self
  calc (m : ℚ) * 10 ^ (-n : Int) = m * (10 ^ n)⁻¹ := by rw [zpow_neg, zpow_natCast]
    _ ≤ m * (2 ^ n)⁻¹ := by gcongr; norm_num
    _ < 2 ^ (m.log2 + 1) * (2 ^ n)⁻¹ := by gcongr
    _ = 2 ^ (((m.log2 + 1 : Nat) : Int) - n) := by
      rw [zpow_sub₀ (by norm_num), zpow_natCast, zpow_natCast, div_eq_mul_inv]
    _ < limit := two_pow_lt_limit (by push_cast; omega)

theorem value_mul_ten_pow (m n : Nat) :
    (m : ℚ) * (10 : ℚ) ^ (n : Int) = Binary.value ⟨m <<< 53, -53⟩ * Binary.value ⟨10 ^ n, 0⟩ := by
  have shifted : m <<< 53 = m * 2 ^ 53 := Nat.shiftLeft_eq m 53
  have cancel : (2 : ℚ) ^ 53 * 2 ^ (-53 : Int) = 1 := by norm_num
  rw [Binary.value, Binary.value]
  simp only [shifted, Nat.cast_mul, Nat.cast_pow, Nat.cast_ofNat]
  rw [zpow_natCast, mul_assoc (m : ℚ), cancel]
  simp

theorem value_div_ten_pow (m n : Nat) :
    (m : ℚ) * (10 : ℚ) ^ (-n : Int) = Binary.value ⟨m, 0⟩ / Binary.value ⟨10 ^ n, 0⟩ := by
  rw [Binary.value, Binary.value, zpow_neg, zpow_natCast]
  push_cast
  simp [div_eq_mul_inv]

theorem finiteBelow_ofScientific (hm : 0 < m) (power : Int) :
    FiniteBelow (m * 10 ^ power) (packed (UnpackedFloat.ofScientific Format.binary64 m power)) := by
  unfold UnpackedFloat.ofScientific
  rw [dif_neg (Nat.pos_iff_ne_zero.1 hm)]
  split
  · rename_i large
    have large : 2048 < power := large
    obtain ⟨number, unbounded⟩ := packed_infinity .positive
    have beyond : limit ≤ m * 10 ^ power := limit_le_of_large hm (by omega)
    exact ⟨number, iff_of_false (by simp [unbounded]) beyond.not_gt⟩
  split
  · rename_i small
    have small : power < -(2048 + (m.log2 : Int)) := small
    have zero := packed_zero .positive
    exact ⟨isNaN_of_isFinite zero, iff_of_true zero (lt_limit_of_small (by omega))⟩
  split
  · rename_i nonneg
    obtain ⟨n, rfl⟩ := Int.eq_ofNat_of_zero_le nonneg
    have long : 0 < m <<< 53 := by
      rw [Nat.shiftLeft_eq]
      positivity
    have ten : 0 < 10 ^ n := Nat.pow_pos (by decide)
    rw [value_mul_ten_pow]
    exact finiteBelow_mul (x := ⟨m <<< 53, -53⟩) (y := ⟨10 ^ n, 0⟩) long ten
      (show (-53 : Int) + 0 ≤ 971 by decide)
  · rename_i negative
    obtain ⟨n, hn⟩ := Int.eq_ofNat_of_zero_le (show 0 ≤ -power by omega)
    obtain rfl : power = -n := by omega
    have ten : 0 < 10 ^ n := Nat.pow_pos (by decide)
    rw [value_div_ten_pow]
    simp only [Int.neg_neg, Int.toNat_natCast]
    exact finiteBelow_div (x := ⟨m, 0⟩) (y := ⟨10 ^ n, 0⟩) _ _ hm ten
      (.inl (show (0 : Int) - 0 ≤ 971 by decide))

theorem scale_scaled (hm : 0 < m) (short : m < 2 ^ 53) (scale : Int) :
    scale - 52 ≤ (scaled m scale).scale ∧ (scaled m scale).scale ≤ scale := by
  have log := (Nat.log2_lt (Nat.pos_iff_ne_zero.1 hm)).2 short
  unfold scaled
  dsimp only
  omega

theorem finiteBelow_mul_ten_pow (hm : 0 < m) (short : m < 2 ^ 53) (few : e ≤ 22) :
    FiniteBelow (m * 10 ^ (e : Int))
      ((scaled m 0).toFloat .positive (canonical_scaled hm short (by decide) (by decide)) *
        (scaled (5 ^ e) e).toFloat .positive (canonical_ten_pow few)) := by
  have left := canonical_scaled hm short (k := 0) (by decide) (by decide)
  have right := canonical_ten_pow few
  have value : (m : ℚ) * 10 ^ (e : Int) = (scaled m 0).value * (scaled (5 ^ e) e).value := by
    rw [value_scaled hm short, value_ten_pow few, zpow_zero, mul_one, zpow_natCast]
  have first := scale_scaled hm short 0
  have second := scale_scaled (Nat.pow_pos (by decide)) (five_pow_lt few) e
  have result := finiteBelow_mul left.pos right.pos (by omega)
  rw [← unpack_toFloat left, ← unpack_toFloat right, ← value] at result
  exact result

theorem finiteBelow_div_ten_pow (hm : 0 < m) (short : m < 2 ^ 53) (few : e ≤ 22) :
    FiniteBelow (m * 10 ^ (-e : Int))
      ((scaled m 0).toFloat .positive (canonical_scaled hm short (by decide) (by decide)) /
        (scaled (5 ^ e) e).toFloat .positive (canonical_ten_pow few)) := by
  have left := canonical_scaled hm short (k := 0) (by decide) (by decide)
  have right := canonical_ten_pow few
  have value : (m : ℚ) * 10 ^ (-e : Int) = (scaled m 0).value / (scaled (5 ^ e) e).value := by
    rw [value_scaled hm short, value_ten_pow few, zpow_zero, mul_one, zpow_neg, zpow_natCast,
      div_eq_mul_inv]
  have first := scale_scaled hm short 0
  have second := scale_scaled (Nat.pow_pos (by decide)) (five_pow_lt few) e
  have result := finiteBelow_div .positive .positive left.pos right.pos (.inl (by omega))
  rw [← unpack_toFloat left, ← unpack_toFloat right, ← value] at result
  exact result

/-- With a table of powers of ten or without, what is read is finite just below the limit. -/
theorem finiteBelow_floatOfScientific (hm : 0 < m) (power : Int) :
    FiniteBelow (m * 10 ^ power) (Float.ofScientific m (power < 0) power.natAbs) := by
  unfold Float.ofScientific
  split
  · rename_i small
    obtain ⟨short, few⟩ := small
    dsimp only
    rw [toFloat_toUInt64 hm short, table_eq few]
    by_cases negative : power < 0
    · have exponent : (m : ℚ) * 10 ^ power = m * 10 ^ (-power.natAbs : Int) := by
        rw [show -(power.natAbs : Int) = power by omega]
      rw [if_pos (decide_eq_true negative), exponent]
      exact finiteBelow_div_ten_pow hm short few
    · have exponent : (m : ℚ) * 10 ^ power = m * 10 ^ (power.natAbs : Int) := by
        rw [show (power.natAbs : Int) = power by omega]
      rw [if_neg (by simpa using negative), exponent]
      exact finiteBelow_mul_ten_pow hm short few
  · dsimp only
    rw [negOfNat_ite]
    exact finiteBelow_ofScientific hm power

end Binary

/-! ### Decimals -/

theorem lt_limit_of_top {d : Decimal} (low : width d.digits + d.exponent < -330) :
    d.value < limit := by
  calc d.value < 10 ^ (width d.digits + d.exponent) := d.value_lt
    _ ≤ 10 ^ (0 : Int) := zpow_le_zpow_right₀ (by norm_num) (by omega)
    _ = 2 ^ (0 : Int) := by rw [zpow_zero, zpow_zero]
    _ < limit := two_pow_lt_limit (by decide)

theorem limit_le_of_top {d : Decimal} (nonzero : d.digits ≠ 0)
    (high : 310 < width d.digits + d.exponent) : limit ≤ d.value := by
  have powers : (2 : ℚ) ^ 1024 ≤ 10 ^ 310 := by
    have : (2 : Nat) ^ 1024 ≤ 10 ^ 310 := by decide +kernel
    exact_mod_cast this
  calc limit ≤ 2 ^ ((1024 : Nat) : Int) := limit_le_two_pow (by decide)
    _ = 2 ^ 1024 := zpow_natCast _ _
    _ ≤ 10 ^ 310 := powers
    _ = 10 ^ ((310 : Nat) : Int) := (zpow_natCast _ _).symm
    _ ≤ 10 ^ (width d.digits + d.exponent - 1) :=
      zpow_le_zpow_right₀ (by norm_num) (by push_cast; omega)
    _ ≤ d.value := d.le_value nonzero

theorem canonical_digits_pos {d : Decimal} (nonzero : d.digits ≠ 0) : 0 < d.canonical.digits := by
  have value : (0 : ℚ) < d.canonical.value := by
    rw [value_canonical, Decimal.value]
    have : 0 < d.digits := Nat.pos_of_ne_zero nonzero
    positivity
  apply Nat.pos_of_ne_zero
  intro zero
  rw [Decimal.value, zero, Nat.cast_zero, zero_mul] at value
  exact lt_irrefl _ value

/-- A decimal comes to a number, and this is finite just when the decimal lies below the limit. -/
theorem finiteBelow_toFloat (d : Decimal) : FiniteBelow d.value d.toFloat := by
  unfold Decimal.toFloat
  dsimp only
  split
  · rename_i none
    refine ⟨rfl, iff_of_true rfl ?_⟩
    rcases none with zero | low
    · rw [Decimal.value, zero]
      simpa using limit_pos
    · exact lt_limit_of_top low
  · rename_i some
    obtain ⟨nonzero, -⟩ := not_or.1 some
    split
    · rename_i high
      exact ⟨rfl, iff_of_false (by decide) (limit_le_of_top nonzero high).not_gt⟩
    · rw [← value_canonical]
      exact Binary.finiteBelow_floatOfScientific (canonical_digits_pos nonzero) _

example : (⟨17976931348623158, 292⟩ : Decimal).toFloat.isFinite = true := by decide +kernel

example : (⟨17976931348623159, 292⟩ : Decimal).toFloat.isFinite = false := by decide +kernel

/-! ### The sign -/

theorem isFinite_neg {x : Float} (h : x.isFinite = true) : (-x).isFinite = true := by
  rcases exists_of_isFinite h with ⟨sign, rfl⟩ | ⟨sign, b, canonical, rfl⟩
  · cases sign
    · rfl
    · rfl
  · rw [Binary.neg_toFloat]
    exact (packed_finite _ canonical.pos _).2.2 canonical.upper

theorem FiniteBelow.neg {value : ℚ} {x : Float} (h : FiniteBelow value x) :
    FiniteBelow value (-x) := by
  obtain ⟨number, bounded⟩ := h
  by_cases finite : x.isFinite = true
  · have finite' := isFinite_neg finite
    exact ⟨isNaN_of_isFinite finite', iff_of_true finite' (bounded.1 finite)⟩
  · have beyond := mt bounded.2 finite
    -- what is neither finite nor a NaN is infinite
    obtain ⟨sign, infinite⟩ : ∃ sign, x.toModel.unpack = .infinity sign := by
      change ¬ x.toModel.unpack.isFinite = true at finite
      change x.toModel.unpack.isNaN = false at number
      cases unpacked : x.toModel.unpack with
      | infinity sign => exact ⟨sign, rfl⟩
      | notANumber => simp [unpacked, UnpackedFloat.isNaN] at number
      | _ => simp [unpacked, UnpackedFloat.isFinite] at finite
    have negated : -x = packed (.infinity (-sign)) := by
      change packed x.toModel.unpack.neg = _
      rw [infinite]
      rfl
    obtain ⟨number', unbounded⟩ := packed_infinity (-sign)
    rw [negated]
    exact ⟨number', iff_of_false (by simp [unbounded]) beyond⟩

/-- A written number comes to a number, and this is finite just when its size lies below the limit. -/
theorem Numeral.finiteBelow_toFloat (n : Numeral) : FiniteBelow n.toDecimal.value n.toFloat := by
  unfold Numeral.toFloat
  split
  · exact (Decimal.finiteBelow_toFloat _).neg
  · exact Decimal.finiteBelow_toFloat _

end Verdict.Decimal
