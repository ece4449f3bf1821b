import Verdict.Decimal.Basic

/-!
# Numerals

A numeral is a decimal number as it stands in a text: a sign, the digits before and after the point,
and a power of ten.  Its value is the floating-point number nearest to it.
-/

namespace Verdict.Decimal

/-- The number that a row of decimal digits stands for. -/
def ofDigits (digits : List Char) : Nat :=
  Nat.ofDigitChars 10 digits 0

/-- The parts of a written number. -/
structure Numeral where
  negative : Bool
  whole : List Char
  fraction : List Char
  exponent : Int

namespace Numeral

/-- The size of the number that is written, apart from its sign. -/
def toDecimal (n : Numeral) : Decimal :=
  ⟨ofDigits (n.whole ++ n.fraction), n.exponent - n.fraction.length⟩

/-- The nearest floating-point number; the sign is kept for zero too. -/
def toFloat (n : Numeral) : Float :=
  if n.negative then -n.toDecimal.toFloat else n.toDecimal.toFloat

end Numeral

end Verdict.Decimal
