import Verdict.Decimal.Numeral

/-!
# Numbers scaled by a power of ten

A numeral can be read quickly: as many of its digits as fit 64 bits make a natural number, and this is
multiplied or divided by a power of ten, each step in floating-point arithmetic.  The result may be off
the nearest number, `Numeral.toFloat`, where the digits are many or the power is large; and there is
none where a product is beyond all finite numbers, even if the numeral itself is not.
-/

namespace Verdict.Decimal

/-- A natural number with as many of the digits behind it as fit 64 bits, and how many digits are left
over, from the first one on that does not fit. -/
def gather (n : Nat) : List Char → Nat × Nat
  | [] => (n, 0)
  | digit :: digits =>
    let next := 10 * n + (digit.toNat - '0'.toNat)
    if next < 0x10000000000000000 then gather next digits else (n, digits.length + 1)

/-- The number nearest to a power of ten. -/
def tenPow (n : Nat) : Float :=
  Float.ofScientific 1 false n

/-- Divides by `10 ^ 308`, so many times or until nothing is left. -/
def shrink (x : Float) : Nat → Float
  | 0 => x
  | n + 1 => if x == 0.0 then x else shrink (x / tenPow 308) n

/-- The digits as a number, times the power of ten.  No power beyond `10 ^ 308` is a finite number, so a
smaller negative exponent is taken in steps, and a larger positive one leaves nothing but zero. -/
def scaled? (d : Decimal) : Option Float :=
  let size := toFloat ⟨d.digits, 0⟩
  match d.exponent with
  | .ofNat n =>
    if n ≤ 308 then
      let product := size * tenPow n
      if product.isInf then none else some product
    else if size == 0.0 then some size
    else none
  | .negSucc n => some (shrink size (n / 308) / tenPow (n % 308 + 1))

namespace Numeral

/-- The digits that fit 64 bits.  Digits in front of the point that do not are counted by the exponent,
and those behind it are dropped. -/
def gathered (n : Numeral) : Decimal :=
  let (size, more) := gather 0 n.whole
  let (size, dropped) := gather size n.fraction
  ⟨size, more - (n.fraction.length - dropped : Nat) + n.exponent⟩

/-- The number that comes of scaling the digits; the sign is kept for zero too. -/
def scaled? (n : Numeral) : Option Float :=
  n.gathered.scaled?.map fun x => if n.negative then -x else x

-- the nearest number is the next one above
example : (⟨false, ['3'], [], 23⟩ : Numeral).scaled? = some 299999999999999974834176.0 := by
  decide +kernel

-- the nearest number is the greatest finite one
example : (⟨false, ['1'], "7976931348623158".toList, 308⟩ : Numeral).scaled? = none := by
  decide +kernel

end Numeral

end Verdict.Decimal
