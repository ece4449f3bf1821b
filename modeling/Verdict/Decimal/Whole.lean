import Verdict.Decimal.Style

/-!
# Whole numbers next to a number

A number between two whole numbers goes to one of them: `floor` to the lower one, `ceiling` to the upper
one, and `round` to the nearer one, from halfway to the one that is farther from zero.  The sign is
kept, for zero too.
-/

namespace Verdict.Decimal

/-- The next whole number towards zero; or away from zero, where `away` says so of the part that is
cut off and of the unit in which it is counted. -/
def toWhole (away : Nat → Nat → Bool) (x : Float) : Float :=
  let value := Binary.ofFloat x
  if 0 ≤ value.scale then x
  else
    let unit := Nat.pow 2 (-value.scale).toNat
    let whole := value.significand / unit
    let size := if away (value.significand % unit) unit then whole + 1 else whole
    if Style.isNegative x then -toFloat ⟨size, 0⟩ else toFloat ⟨size, 0⟩

/-- The greatest whole number that is not above the number. -/
def floor (x : Float) : Float :=
  toWhole (fun rest _ => Style.isNegative x && rest != 0) x

/-- The least whole number that is not below the number. -/
def ceiling (x : Float) : Float :=
  toWhole (fun rest _ => !Style.isNegative x && rest != 0) x

/-- The nearest whole number, of two equally near ones the one farther from zero. -/
def round (x : Float) : Float :=
  toWhole (fun rest unit => unit ≤ 2 * rest) x

example : floor (-2.5) = -3.0 := by decide +kernel

example : ceiling (-0.5) = -0.0 := by decide +kernel

example : round 0.49999999999999994 = 0.0 := by decide +kernel

end Verdict.Decimal
