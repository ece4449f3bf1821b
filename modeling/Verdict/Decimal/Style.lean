import Verdict.Decimal.Shortest

/-!
# Written numbers

A `Style` holds the decisions that a text format makes about numbers: where the plain form ends and
the form with an exponent begins, whether a whole number shows a fraction, and which of two equally
near decimals is written.
-/

namespace Verdict.Decimal

/-- The decisions of a format about its numbers. -/
structure Style where
  /-- Is a number plain, given the exponent of its leading digit? -/
  plain : Int → Bool
  /-- Does a whole number in plain form end in `.0`? -/
  pointZero : Bool
  /-- Which of two equally near decimals is written. -/
  tie : Tie

namespace Style

/-- The number without an exponent. -/
def plainText (style : Style) (d : Decimal) : List Char :=
  let digits := Nat.toDigits 10 d.digits
  let places := (-d.exponent).toNat
  if 0 ≤ d.exponent then
    digits ++ List.replicate d.exponent.toNat '0' ++ (if style.pointZero then ['.', '0'] else [])
  else if places < digits.length then
    digits.take (digits.length - places) ++ '.' :: digits.drop (digits.length - places)
  else
    '0' :: '.' :: List.replicate (places - digits.length) '0' ++ digits

/-- The number with one digit in front of the point, if it needs a point, and a signed exponent. -/
def exponentText (d : Decimal) : List Char :=
  let mantissa :=
    match Nat.toDigits 10 d.digits with
    | [] => []
    | [c] => [c]
    | c :: cs => c :: '.' :: cs
  let sign := if d.leading < 0 then '-' else '+'
  mantissa ++ 'e' :: sign :: Nat.toDigits 10 d.leading.natAbs

/-- The text of a decimal. -/
def decimal (style : Style) (d : Decimal) : List Char :=
  if style.plain d.leading then style.plainText d else exponentText d

/-- Is the sign bit set? -/
def isNegative (x : Float) : Bool :=
  0x8000000000000000 ≤ x.toBits.toNat

/-- The text of a number that is not negative and not a NaN. -/
def magnitude (style : Style) (x : Float) : List Char :=
  if x == 0.0 then '0' :: (if style.pointZero then ['.', '0'] else [])
  else if x == infinity then ['i', 'n', 'f']
  else style.decimal (shortest style.tie x)

/-- The text of a number. -/
def number (style : Style) (x : Float) : List Char :=
  if x.isNaN then ['N', 'a', 'N']
  else if isNegative x then '-' :: style.magnitude x.abs
  else style.magnitude x

end Style

end Verdict.Decimal
