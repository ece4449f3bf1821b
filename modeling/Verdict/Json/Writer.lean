import Verdict.Json.Basic
import Verdict.Decimal.Style

/-!
# Compact JSON text

A value is written without blanks.  In strings only the quote, the backslash and the characters below
the space are escaped.
-/

namespace Verdict.Json

/-- Floating-point numbers are plain while their leading digit has an exponent from -5 to 15, always
show a fraction there, and go to the even one of two equally near decimals. -/
def numberStyle : Decimal.Style where
  plain e := -5 ≤ e && e ≤ 15
  pointZero := true
  tie := .even

/-- The text of a number. -/
def Number.write : Number → List Char
  | .whole n => (if n < 0 then ['-'] else []) ++ Nat.toDigits 10 n.natAbs
  | .real x => numberStyle.number x

/-- One character of a string. -/
def writeChar (c : Char) : List Char :=
  if c = '"' then ['\\', '"']
  else if c = '\\' then ['\\', '\\']
  else if c = '\x08' then ['\\', 'b']
  else if c = '\x0c' then ['\\', 'f']
  else if c = '\n' then ['\\', 'n']
  else if c = '\r' then ['\\', 'r']
  else if c = '\t' then ['\\', 't']
  else if c < ' ' then
    ['\\', 'u', '0', '0', Nat.digitChar (c.toNat / 16), Nat.digitChar (c.toNat % 16)]
  else [c]

/-- The text of a string, in quotes. -/
def writeString (s : String) : List Char :=
  '"' :: s.toList.flatMap writeChar ++ ['"']

mutual

/-- The text of a value. -/
def write : Json → List Char
  | .null => ['n', 'u', 'l', 'l']
  | .bool true => ['t', 'r', 'u', 'e']
  | .bool false => ['f', 'a', 'l', 's', 'e']
  | .number n => n.write
  | .string s => writeString s
  | .array [] => ['[', ']']
  | .array (v :: items) => '[' :: v.write ++ writeItems items
  | .object [] => ['{', '}']
  | .object ((key, v) :: members) => '{' :: writeString key ++ ':' :: v.write ++ writeMembers members

/-- The text of the elements behind the first one, with the closing bracket. -/
def writeItems : List Json → List Char
  | [] => [']']
  | v :: items => ',' :: v.write ++ writeItems items

/-- The text of the members behind the first one, with the closing brace. -/
def writeMembers : List (String × Json) → List Char
  | [] => ['}']
  | (key, v) :: members => ',' :: writeString key ++ ':' :: v.write ++ writeMembers members

end

/-- The text of a value. -/
def text (v : Json) : String :=
  String.ofList v.write

end Verdict.Json
