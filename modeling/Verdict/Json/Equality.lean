import Verdict.Json.Basic

/-!
# Equality of values

Two values are equivalent when they differ at most in how their numbers are held: numbers are
compared as floating-point numbers, so that a whole number and a floating-point number can be the
same, and two large whole numbers that round to the same one too.
-/

namespace Verdict.Json

mutual

/-- Are two values the same, apart from how numbers are held? -/
def equiv : Json → Json → Bool
  | .null, .null => true
  | .bool a, .bool b => a == b
  | .number m, .number n => m.toFloat == n.toFloat
  | .string s, .string t => s == t
  | .array items, .array others => equivItems items others
  | .object members, .object others =>
    members.length == others.length && equivMembers members others
  | _, _ => false

/-- Are two arrays the same, element by element? -/
def equivItems : List Json → List Json → Bool
  | [], [] => true
  | v :: items, w :: others => v.equiv w && equivItems items others
  | _, _ => false

/-- Has each of the members an equivalent one of the same key among the others? -/
def equivMembers : List (String × Json) → List (String × Json) → Bool
  | [], _ => true
  | (key, v) :: members, others =>
    (match others.lookup key with
      | some w => v.equiv w
      | none => false) && equivMembers members others

end

end Verdict.Json
