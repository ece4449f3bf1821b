/-!
# Sets of characters as spans of code points

A property of characters is given by the ordered list of the spans of code points that have it.
`Span.covers` looks a character up; since the list is ordered, it stops at the first span that
starts behind the character.
-/

namespace Verdict.Text

/-- An inclusive range of code points. -/
structure Span where
  first : Nat
  last : Nat

/-- Does one of the spans, given in ascending order, hold the code point? -/
def Span.hold : List Span → Nat → Bool
  | [], _ => false
  | s :: spans, n => if n < s.first then false else n ≤ s.last || Span.hold spans n

/-- Does one of the spans, given in ascending order, hold the character? -/
def Span.covers (spans : List Span) (c : Char) : Bool :=
  Span.hold spans c.toNat

end Verdict.Text
