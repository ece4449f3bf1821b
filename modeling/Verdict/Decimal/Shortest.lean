import Verdict.Decimal.Basic

/-!
# The fewest digits that read back

`shortest` finds the decimal by which a positive floating-point number is written.  On the grid of
decimals with a given number of digits only the two neighbours of the number can be nearest to it;
the first grid, from one digit on, with a neighbour that reads back as the number is taken.  When
both neighbours do, the nearer one is taken, and a `Tie` decides between equally near ones.
-/

namespace Verdict.Decimal

/-- Which of two equally near decimals is taken. -/
inductive Tie where
  | up
  | even

/-- The exact value `significand * 2 ^ scale` of a positive finite number. -/
structure Binary where
  significand : Nat
  scale : Int

/-- The value of a positive finite number: below the sign stand eleven bits of the exponent and
fifty-two bits of the fraction. -/
def Binary.ofFloat (x : Float) : Binary :=
  let bits : Nat := x.toBits.toNat % 0x8000000000000000
  let power : Nat := bits / 0x10000000000000
  let fraction : Nat := bits % 0x10000000000000
  if power = 0 then ⟨fraction, -1074⟩ else ⟨0x10000000000000 + fraction, (power : Int) - 1075⟩

namespace Binary

/-- A value as the quotient of two natural numbers, in units of `10 ^ exponent`. -/
def quotient (b : Binary) (exponent : Int) : Nat × Nat :=
  (b.significand * Nat.pow 2 b.scale.toNat * Nat.pow 10 (-exponent).toNat,
    Nat.pow 2 (-b.scale).toNat * Nat.pow 10 exponent.toNat)

/-- The least `k` with the value below `10 ^ k`. -/
def magnitude (b : Binary) : Int :=
  let (n, d) := b.quotient 0
  if d ≤ n then width (n / d) else 1 - width ((d - 1) / n)

/-- All digits of the value. -/
def exactly (b : Binary) : Decimal :=
  if 0 ≤ b.scale then ⟨b.significand * Nat.pow 2 b.scale.toNat, 0⟩
  else ⟨b.significand * Nat.pow 5 (-b.scale).toNat, b.scale⟩

end Binary

/-- Does a decimal read back as the number? -/
def readsAs (x : Float) (d : Decimal) : Bool :=
  d.toFloat.toBits == x.toBits

/-- The decimal in units of `10 ^ exponent` that is taken for a number, if one reads back. -/
def onGrid (tie : Tie) (x : Float) (exponent : Int) : Option Decimal :=
  let (n, d) := (Binary.ofFloat x).quotient exponent
  let below : Decimal := ⟨n / d, exponent⟩
  let above : Decimal := ⟨n / d + 1, exponent⟩
  match readsAs x below, readsAs x above with
  | false, false => none
  | true, false => some below
  | false, true => some above
  | true, true =>
    match compare (2 * n) ((2 * (n / d) + 1) * d), tie with
    | .lt, _ => some below
    | .gt, _ => some above
    | .eq, .up => some above
    | .eq, .even => some (if n / d % 2 = 0 then below else above)

/-- The decimal with the fewest digits that reads back as a positive finite number. -/
def shortest (tie : Tie) (x : Float) : Decimal :=
  let value := Binary.ofFloat x
  let found := (List.range 17).findSome? fun n => onGrid tie x (value.magnitude - (n + 1 : Nat))
  (found.getD value.exactly).canonical

example : shortest .up 0.1 = ⟨1, -1⟩ := by decide +kernel

example : shortest .up 5e-324 = ⟨5, -324⟩ := by decide +kernel

example : shortest .even 1e23 = ⟨1, 23⟩ := by decide +kernel

example : shortest .up 1125899906842624.25 = ⟨11258999068426243, -1⟩ := by decide +kernel

example : shortest .even 1125899906842624.25 = ⟨11258999068426242, -1⟩ := by decide +kernel

end Verdict.Decimal
