import Verdict.Decimal.Style
import Verdict.Proofs.Decimal.Rounding
import Mathlib

/-!
# The bits of a number

A finite number is zero or a canonical `Binary`, with a sign; its bits are read and written without
loss.  `Binary.ofFloat` finds that `Binary`, and `Binary.toFloat` leads back.
-/

namespace Verdict.Decimal

open Float.Model Float.Model.UnpackedFloat

/-! ### Fields of bits -/

section Fields

variable (v : BitVec Format.binary64.numBits) (sign : Sign)

theorem toNat_unpackMantissa : (unpackMantissa v).toNat = v.toNat % 2 ^ 52 := by
  simp [unpackMantissa]

theorem toNat_unpackExponent : (unpackExponent v).toNat = v.toNat / 2 ^ 52 % 2 ^ 11 := by
  simp [unpackExponent, Nat.shiftRight_eq_div_pow]

theorem toNat_unpackSign : (unpackSign v).toNat = v.toNat / 2 ^ 63 := by
  have bound : v.toNat < 2 ^ 64 := v.isLt
  simp [unpackSign, Nat.shiftRight_eq_div_pow]
  omega

theorem toNat_packComponents (e : BitVec Format.binary64.exponentBits)
    (m : BitVec Format.binary64.mantissaBitsWithoutImplicit) :
    (packComponents Format.binary64 sign e m).toNat =
      sign.toBitVec.toNat * 2 ^ 63 + e.toNat * 2 ^ 52 + m.toNat := by
  have he := e.isLt
  have hm := m.isLt
  unfold packComponents
  rw [BitVec.toNat_append, BitVec.toNat_append, ← Nat.shiftLeft_add_eq_or_of_lt m.isLt,
    ← Nat.shiftLeft_add_eq_or_of_lt e.isLt]
  simp only [Nat.shiftLeft_eq]
  ring

variable {v}

theorem toNat_one_append (m : BitVec 52) : (1#1 ++ m).toNat = 2 ^ 52 + m.toNat := by
  rw [BitVec.toNat_append, ← Nat.shiftLeft_add_eq_or_of_lt m.isLt]
  rfl

/-- Bits with a field of exponent below the greatest are a number. -/
theorem exponent_lt_of_isFinite (h : (unpack Format.binary64 v).isFinite = true) :
    v.toNat / 2 ^ 52 % 2 ^ 11 < 2047 := by
  by_contra hn
  have bound := Nat.mod_lt (v.toNat / 2 ^ 52) (show 0 < 2 ^ 11 by decide)
  have greatest : unpackExponent v = -1#_ := by
    rw [← BitVec.toNat_inj, toNat_unpackExponent]
    change _ = 2047
    omega
  unfold UnpackedFloat.unpack at h
  simp only [greatest, if_true] at h
  split at h
  · simp [UnpackedFloat.isFinite] at h
  · simp [UnpackedFloat.isFinite] at h

variable (below : v.toNat / 2 ^ 52 % 2 ^ 11 < 2047)

include below

theorem unpackExponent_ne : unpackExponent v ≠ -1#_ := by
  rw [Ne, ← BitVec.toNat_inj, toNat_unpackExponent]
  change _ ≠ 2047
  omega

theorem unpack_subnormal (he : v.toNat / 2 ^ 52 % 2 ^ 11 = 0) (hm : 0 < v.toNat % 2 ^ 52) :
    unpack Format.binary64 v =
      .finite (Sign.ofBitVec (unpackSign v)) (v.toNat % 2 ^ 52) (-1074) hm := by
  have exponent : unpackExponent v = 0#_ := by
    rw [← BitVec.toNat_inj, toNat_unpackExponent, he]
    rfl
  have mantissa : unpackMantissa v ≠ 0#_ := by
    rw [Ne, ← BitVec.toNat_inj, toNat_unpackMantissa]
    change _ ≠ 0
    omega
  unfold UnpackedFloat.unpack
  simp only [if_neg (unpackExponent_ne below), if_pos exponent, dif_neg mantissa,
    toNat_unpackMantissa, toNat_unpackExponent, he]
  rfl

theorem unpack_normal (he : v.toNat / 2 ^ 52 % 2 ^ 11 ≠ 0) :
    unpack Format.binary64 v = .finite (Sign.ofBitVec (unpackSign v)) (2 ^ 52 + v.toNat % 2 ^ 52)
      (((v.toNat / 2 ^ 52 % 2 ^ 11 : Nat) : Int) - 1075)
      (Nat.add_pos_left (Nat.two_pow_pos 52) _) := by
  have exponent : unpackExponent v ≠ 0#_ := by
    rw [Ne, ← BitVec.toNat_inj, toNat_unpackExponent]
    exact he
  unfold UnpackedFloat.unpack
  simp only [if_neg (unpackExponent_ne below), if_neg exponent, toNat_unpackExponent]
  congr 1
  rw [← toNat_unpackMantissa]
  exact toNat_one_append _

end Fields

/-! ### Numbers from their parts -/

/-- The bits of a number, with the width that its format has. -/
def bits (x : Float) : BitVec Format.binary64.numBits :=
  x.toBits.toBitVec

/-- The zero of a sign. -/
def signedZero (sign : Sign) : Float :=
  Float.ofModel (Float.Model.pack (.zero sign))

theorem unpack_signedZero (sign : Sign) : (signedZero sign).toModel.unpack = .zero sign := by
  cases sign
  · rfl
  · rfl

namespace Binary

variable {b : Binary} {sign : Sign}

/-- The number of a sign and a size. -/
def toFloat (sign : Sign) (b : Binary) (h : b.Canonical) : Float :=
  Float.ofModel (Float.Model.pack (b.unpacked sign h.pos))

/-- The bits below the sign. -/
def word (b : Binary) : Nat :=
  if 2 ^ 52 ≤ b.significand then (b.scale + 1075).toNat * 2 ^ 52 + (b.significand - 2 ^ 52)
  else b.significand

theorem Canonical.word_lt (h : b.Canonical) : b.word < 2 ^ 63 := by
  have := h.upper
  have := h.short
  unfold word
  split
  · omega
  · omega

theorem toNat_toBits (h : b.Canonical) :
    (b.toFloat sign h).toBits.toNat = sign.toBitVec.toNat * 2 ^ 63 + b.word := by
  have lower := h.lower
  have upper := h.upper
  have short := h.short
  have hne := Nat.pos_iff_ne_zero.1 h.pos
  have biased : (b.scale + (Format.binary64.exponentBias : Int) +
      (Format.binary64.mantissaBitsWithoutImplicit : Int)).toNat = (b.scale + 1075).toNat := by
    change (b.scale + 1023 + 52).toNat = _
    omega
  have fits : ¬ 2 ^ Format.binary64.exponentBits ≤ (b.scale + 1075).toNat + 1 := by
    change ¬ 2 ^ 11 ≤ _
    omega
  change (UnpackedFloat.pack Format.binary64 (.finite sign b.significand b.scale h.pos)).toNat = _
  unfold UnpackedFloat.pack word
  simp only [biased, if_neg fits]
  by_cases long : 2 ^ 52 ≤ b.significand
  · have log : b.significand.log2 + 1 = Format.binary64.mantissaBits := by
      have := (Nat.le_log2 hne).2 long
      have := (Nat.log2_lt hne).2 short
      change _ = 53
      omega
    rw [if_pos log, if_pos long, toNat_packComponents, BitVec.toNat_ofNat, BitVec.toNat_ofNat,
      Nat.mod_eq_of_lt (show (b.scale + 1075).toNat < 2 ^ 11 by omega)]
    change _ + b.significand % 2 ^ 52 = _
    omega
  · have log : ¬ b.significand.log2 + 1 = Format.binary64.mantissaBits := by
      have := (Nat.log2_lt hne).2 (Nat.lt_of_not_le long)
      change ¬ _ = 53
      omega
    rw [if_neg log, if_neg long, toNat_packComponents, BitVec.toNat_ofNat, BitVec.toNat_ofNat]
    change _ + 0 * 2 ^ 52 + b.significand % 2 ^ 52 = _
    omega

/-- The fields of the bits, in terms of the number. -/
theorem fields_toBits (sign : Sign) (h : b.Canonical) :
    (2 ^ 52 ≤ b.significand ∧
      (b.toFloat sign h).toBits.toNat / 2 ^ 52 % 2 ^ 11 = (b.scale + 1075).toNat ∧
      (b.toFloat sign h).toBits.toNat % 2 ^ 52 = b.significand - 2 ^ 52) ∨
    (b.significand < 2 ^ 52 ∧ (b.toFloat sign h).toBits.toNat / 2 ^ 52 % 2 ^ 11 = 0 ∧
      (b.toFloat sign h).toBits.toNat % 2 ^ 52 = b.significand) := by
  have upper := h.upper
  have short := h.short
  rw [toNat_toBits, word]
  split
  · rename_i long
    exact .inl ⟨long, by omega, by omega⟩
  · exact .inr ⟨by omega, by omega, by omega⟩

theorem ofBitVec_unpackSign (sign : Sign) (h : b.Canonical) :
    Sign.ofBitVec (unpackSign (bits (b.toFloat sign h))) = sign := by
  have same : unpackSign (bits (b.toFloat sign h)) = sign.toBitVec := by
    have := h.word_lt
    rw [← BitVec.toNat_inj, toNat_unpackSign]
    change (b.toFloat sign h).toBits.toNat / 2 ^ 63 = _
    rw [toNat_toBits]
    omega
  rw [same]
  cases sign <;> rfl

theorem finite_congr {sign : Sign} {m m' : Nat} {e e' : Int} {hm : 0 < m} {hm' : 0 < m'}
    (same : m = m') (same' : e = e') :
    UnpackedFloat.finite sign m e hm = .finite sign m' e' hm' := by
  subst same same'
  rfl

theorem unpack_toFloat (h : b.Canonical) :
    (b.toFloat sign h).toModel.unpack = b.unpacked sign h.pos := by
  have lower := h.lower
  have upper := h.upper
  change UnpackedFloat.unpack Format.binary64 (bits (b.toFloat sign h)) = _
  have fields := fields_toBits sign h
  have sign_ := ofBitVec_unpackSign sign h
  rcases fields with ⟨long, exponent, mantissa⟩ | ⟨short, exponent, mantissa⟩
  · have unpacked := unpack_normal (v := bits (b.toFloat sign h))
      (show (b.toFloat sign h).toBits.toNat / 2 ^ 52 % 2 ^ 11 < 2047 by omega)
      (show (b.toFloat sign h).toBits.toNat / 2 ^ 52 % 2 ^ 11 ≠ 0 by omega)
    rw [unpacked, sign_]
    refine finite_congr ?_ ?_
    · change 2 ^ 52 + (b.toFloat sign h).toBits.toNat % 2 ^ 52 = _
      omega
    · change (((b.toFloat sign h).toBits.toNat / 2 ^ 52 % 2 ^ 11 : Nat) : Int) - 1075 = _
      omega
  · have pos := h.pos
    have least := h.long.resolve_left (Nat.not_le_of_lt short)
    have unpacked := unpack_subnormal (v := bits (b.toFloat sign h))
      (show (b.toFloat sign h).toBits.toNat / 2 ^ 52 % 2 ^ 11 < 2047 by omega) exponent
      (show 0 < (b.toFloat sign h).toBits.toNat % 2 ^ 52 by omega)
    rw [unpacked, sign_]
    exact finite_congr mantissa least.symm

theorem ofFloat_toFloat (h : b.Canonical) : ofFloat (b.toFloat sign h) = b := by
  have lower := h.lower
  have upper := h.upper
  have fields := fields_toBits sign h
  unfold ofFloat
  dsimp only
  rcases fields with ⟨long, exponent, mantissa⟩ | ⟨short, exponent, mantissa⟩
  · rw [if_neg (by omega)]
    refine congrArg₂ Binary.mk ?_ ?_
    · omega
    · omega
  · have least := h.long.resolve_left (Nat.not_le_of_lt short)
    rw [if_pos (by omega)]
    refine congrArg₂ Binary.mk ?_ ?_
    · omega
    · omega

theorem isNegative_toFloat (h : b.Canonical) :
    Style.isNegative (b.toFloat sign h) = (sign == .negative) := by
  have := h.word_lt
  unfold Style.isNegative
  rw [toNat_toBits]
  cases sign
  · change decide (0x8000000000000000 ≤ 1 * 2 ^ 63 + b.word) = true
    simp
  · change decide (0x8000000000000000 ≤ 0 * 2 ^ 63 + b.word) = false
    simp
    omega

theorem neg_toFloat (h : b.Canonical) : -(b.toFloat sign h) = b.toFloat (-sign) h := by
  change Float.ofModel (Float.Model.pack (b.toFloat sign h).toModel.unpack.neg) = _
  rw [unpack_toFloat]
  rfl

theorem abs_toFloat (h : b.Canonical) : (b.toFloat sign h).abs = b.toFloat .positive h := by
  change Float.ofModel (Float.Model.pack (b.toFloat sign h).toModel.unpack.abs) = _
  rw [unpack_toFloat]
  rfl

end Binary

/-! ### Numbers into their parts -/

theorem eq_of_toNat_toBits {x y : Float} (h : x.toBits.toNat = y.toBits.toNat) : x = y :=
  Float.toBits_inj.1 (UInt64.toNat_inj.1 h)

/-- A finite number is zero or canonical. -/
theorem exists_of_isFinite {x : Float} (h : x.isFinite = true) :
    (∃ sign, x = signedZero sign) ∨ ∃ sign b, ∃ h : Binary.Canonical b, x = b.toFloat sign h := by
  have below : x.toBits.toNat / 2 ^ 52 % 2 ^ 11 < 2047 := exponent_lt_of_isFinite h
  obtain ⟨sign, hsign⟩ : ∃ sign : Sign, sign.toBitVec.toNat = x.toBits.toNat / 2 ^ 63 := by
    refine ⟨Sign.ofBitVec (unpackSign (bits x)), ?_⟩
    rw [Sign.toBitVec_ofBitVec, toNat_unpackSign]
    rfl
  by_cases he : x.toBits.toNat / 2 ^ 52 % 2 ^ 11 = 0
  · by_cases hm : x.toBits.toNat % 2 ^ 52 = 0
    · refine .inl ⟨sign, eq_of_toNat_toBits ?_⟩
      change _ = (packComponents Format.binary64 sign 0 0).toNat
      rw [toNat_packComponents, hsign]
      change _ = x.toBits.toNat / 2 ^ 63 * 2 ^ 63 + 0 * 2 ^ 52 + 0
      omega
    · have h : Binary.Canonical ⟨x.toBits.toNat % 2 ^ 52, -1074⟩ :=
        ⟨by simp, by simp, show x.toBits.toNat % 2 ^ 52 < 2 ^ 53 by omega, .inr rfl,
          show 0 < x.toBits.toNat % 2 ^ 52 by omega⟩
      refine .inr ⟨sign, _, h, eq_of_toNat_toBits ?_⟩
      rw [Binary.toNat_toBits, hsign, Binary.word, if_neg]
      · dsimp only
        omega
      · dsimp only
        omega
  · have h : Binary.Canonical ⟨2 ^ 52 + x.toBits.toNat % 2 ^ 52,
        ((x.toBits.toNat / 2 ^ 52 % 2 ^ 11 : Nat) : Int) - 1075⟩ := by
      refine ⟨?_, ?_, ?_, .inl ?_, ?_⟩
      all_goals dsimp only
      all_goals omega
    refine .inr ⟨sign, _, h, eq_of_toNat_toBits ?_⟩
    rw [Binary.toNat_toBits, hsign, Binary.word, if_pos]
    · dsimp only
      omega
    · dsimp only
      omega

/-- A finite number is equal to itself. -/
theorem beq_self_of_isFinite {x : Float} (h : x.isFinite = true) : (x == x) = true := by
  refine Float.beq_self_iff.2 ?_
  rintro rfl
  revert h
  decide +kernel

end Verdict.Decimal
