import Verdict.Text.Printable

/-!
# Quoted excerpts

`quote` shows a piece of text inside double quotes so that its limits and its invisible characters
can be seen: a quote and a backslash are escaped by a backslash, tab, line feed, carriage return and
the null character have short escapes, and any other character that is not printable is shown by its
code point.
-/

namespace Verdict.Text

/-- The digits of a number in base sixteen, without leading zeros. -/
def hexDigits (n : Nat) : List Char :=
  Nat.toDigits 16 n

/-- One character of a quoted excerpt. -/
def quoteChar : Char → List Char
  | '"' => ['\\', '"']
  | '\\' => ['\\', '\\']
  | '\t' => ['\\', 't']
  | '\n' => ['\\', 'n']
  | '\r' => ['\\', 'r']
  | '\x00' => ['\\', '0']
  | c => if isPrintable c then [c] else ['\\', 'u', '{'] ++ hexDigits c.toNat ++ ['}']

/-- The text in double quotes, with everything invisible escaped. -/
def quote (s : List Char) : List Char :=
  '"' :: s.flatMap quoteChar ++ ['"']

end Verdict.Text
