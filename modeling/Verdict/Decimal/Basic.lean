/-!
# Decimals

A decimal is a natural number times a power of ten.  `Decimal.toFloat` rounds it to the nearest
binary floating-point number; a decimal too large for one becomes infinity.
-/

namespace Verdict

/-- The number `digits * 10 ^ exponent`. -/
structure Decimal where
  digits : Nat
  exponent : Int
  deriving DecidableEq

namespace Decimal

/-- How many decimal digits a number has; zero has none. -/
def width (n : Nat) : Nat :=
  if n = 0 then 0 else (Nat.toDigits 10 n).length

/-- Positive infinity. -/
def infinity : Float :=
  1.0 / 0.0

/-- The same number without zeros at the end of its digits, looking at `n` digits at most. -/
def stripped (d : Decimal) : Nat → Decimal
  | 0 => d
  | n + 1 => if d.digits % 10 = 0 then stripped ⟨d.digits / 10, d.exponent + 1⟩ n else d

/-- The same number without zeros at the end of its digits. -/
def canonical (d : Decimal) : Decimal :=
  d.stripped (width d.digits)

/-- The nearest floating-point number, of two equally near ones the even one.

No finite number has its leading digit above `10 ^ 308`, and whatever lies below `10 ^ (-330)` rounds
to zero, so numbers beyond these limits need no power of ten to be built. -/
def toFloat (d : Decimal) : Float :=
  let top := width d.digits + d.exponent
  if d.digits = 0 ∨ top < -330 then 0.0
  else if 310 < top then infinity
  else Float.ofScientific d.canonical.digits (d.canonical.exponent < 0) d.canonical.exponent.natAbs

/-- The exponent of the leading digit. -/
def leading (d : Decimal) : Int :=
  width d.digits + d.exponent - 1

theorem width_mul_ten {m : Nat} (h : m ≠ 0) : width (10 * m) = width m + 1 := by
  have := Nat.toDigits_append_toDigits (b := 10) (n := m) (d := 0) (by decide) (by omega) (by decide)
  rw [width, width, if_neg h, if_neg (by omega), show 10 * m = 10 * m + 0 by rfl, ← this]
  simp

theorem canonical_mul_ten {m : Nat} (h : m ≠ 0) (e : Int) :
    canonical ⟨10 * m, e⟩ = canonical ⟨m, e + 1⟩ := by
  simp [canonical, width_mul_ten h, stripped]

/-- The nearest floating-point number depends on the number alone, not on how its digits are
counted. -/
theorem toFloat_mul_ten (m : Nat) (e : Int) : toFloat ⟨10 * m, e⟩ = toFloat ⟨m, e + 1⟩ := by
  by_cases h : m = 0
  · simp [toFloat, h]
  · have top : ((width m + 1 : Nat) : Int) + e = width m + (e + 1) := by omega
    have scaled : ¬ 10 * m = 0 := by omega
    simp only [toFloat, canonical_mul_ten h, width_mul_ten h, top, h, scaled]

example : (⟨25, -1⟩ : Decimal).toFloat = 2.5 := by decide +kernel

example : (⟨1, 400⟩ : Decimal).toFloat = infinity := by decide +kernel

end Decimal

end Verdict
