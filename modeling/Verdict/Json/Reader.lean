import Verdict.Json.Basic
import Verdict.Decimal.Scaled
import Verdict.Parser.Basic

/-!
# Reading JSON text

A value may be nested in at most as many arrays and objects as the depth given to `Reader.value`.
`Reader.skipped` passes over a value that is of no interest: it checks the form of the text, but
neither builds the value nor asks what its numbers and escapes stand for.
-/

namespace Verdict.Json

namespace Reader

open Verdict.Parser

/-! ### Numbers -/

/-- The digits of a whole number: a zero, or digits that do not begin with one. -/
def wholeDigits : Parser (List Char) :=
  orElse (do let c ← char '0'; return [c]) do
    let c ← satisfy fun c => c.isDigit && c != '0'
    let cs ← takeWhile Char.isDigit
    return c :: cs

/-- The digits behind the point. -/
def fraction : Parser (List Char) := do
  let _ ← char '.'
  takeWhile1 Char.isDigit

/-- The power of ten. -/
def exponent : Parser Int := do
  let _ ← satisfy fun c => c == 'e' || c == 'E'
  let sign ← Parser.optional (satisfy fun c => c == '+' || c == '-')
  let digits ← takeWhile1 Char.isDigit
  return if sign = some '-' then -Decimal.ofDigits digits else Decimal.ofDigits digits

/-- The form of a number: its parts, and whether it has neither a fraction nor an exponent. -/
def numeral : Parser (Decimal.Numeral × Bool) := do
  let sign ← Parser.optional (char '-')
  let whole ← wholeDigits
  let fractionPart ← Parser.optional fraction
  let power ← Parser.optional exponent
  return (⟨sign.isSome, whole, fractionPart.getD [], power.getD 0⟩,
    fractionPart.isNone && power.isNone)

/-- The number that a numeral stands for, if it is within the limits.  A whole number that does not
fit becomes a floating-point number, and so does a negative zero; a floating-point number is scaled, and
so it may be off the nearest one. -/
def number? (n : Decimal.Numeral) (isWhole : Bool) : Option Number :=
  let size := Decimal.ofDigits n.whole
  if isWhole && !n.negative && size < 0x10000000000000000 then some (.whole size)
  else if isWhole && n.negative && 0 < size && size ≤ 0x8000000000000000 then some (.whole (-size))
  else n.scaled?.map .real

/-- A number. -/
def number : Parser Number := do
  let (n, isWhole) ← numeral
  match number? n isWhole with
  | some m => return m
  | none => never

/-! ### Strings -/

/-- The text up to the quote that ends a string, escapes as they are, and what follows the quote. -/
def rawString : List Char → Option (List Char × List Char)
  | [] => none
  | '"' :: s => some ([], s)
  | '\\' :: c :: s => (rawString s).map fun (raw, rest) => ('\\' :: c :: raw, rest)
  | c :: s => if c < ' ' then none else (rawString s).map fun (raw, rest) => (c :: raw, rest)

/-- The value of a hexadecimal digit. -/
def hexDigit? (c : Char) : Option Nat :=
  if c.isDigit then some (c.toNat - '0'.toNat)
  else if 'a' ≤ c ∧ c ≤ 'f' then some (c.toNat - 'a'.toNat + 10)
  else if 'A' ≤ c ∧ c ≤ 'F' then some (c.toNat - 'A'.toNat + 10)
  else none

/-- The character that a short escape stands for. -/
def shortEscape? : Char → Option Char
  | '"' => some '"'
  | '\\' => some '\\'
  | '/' => some '/'
  | 'b' => some '\x08'
  | 'f' => some '\x0c'
  | 'n' => some '\n'
  | 'r' => some '\r'
  | 't' => some '\t'
  | _ => none

/-- The code points and code units of the raw text of a string. -/
def units : List Char → Option (List Nat)
  | [] => some []
  | '\\' :: 'u' :: a :: b :: c :: d :: s => do
    let n := 4096 * (← hexDigit? a) + 256 * (← hexDigit? b) + 16 * (← hexDigit? c) + (← hexDigit? d)
    return n :: (← units s)
  | '\\' :: e :: s => do
    let c ← shortEscape? e
    return c.toNat :: (← units s)
  | c :: s => do return c.toNat :: (← units s)

/-- The characters that code points and code units stand for: a high surrogate must be followed by a
low one, with which it makes one character. -/
def characters : List Nat → Option (List Char)
  | [] => some []
  | [n] => if 0xD800 ≤ n ∧ n < 0xE000 then none else some [Char.ofNat n]
  | n :: m :: ns =>
    if 0xD800 ≤ n ∧ n < 0xDC00 then
      if 0xDC00 ≤ m ∧ m < 0xE000 then
        (characters ns).map (Char.ofNat (0x10000 + (n - 0xD800) * 0x400 + (m - 0xDC00)) :: ·)
      else none
    else if 0xDC00 ≤ n ∧ n < 0xE000 then none
    else (characters (m :: ns)).map (Char.ofNat n :: ·)

/-- The raw text of a string. -/
def quoted : Parser (List Char)
  | '"' :: s =>
    match rawString s with
    | some (raw, rest) => .ok raw rest
    | none => .miss s
  | s => .miss s

/-- A string. -/
def string : Parser String := do
  let raw ← quoted
  match (units raw).bind characters with
  | some cs => return String.ofList cs
  | none => never

/-! ### Values -/

/-- A value that is neither an array nor an object. -/
def scalar : Parser Json :=
  orElse (do token ['n', 'u', 'l', 'l']; return .null) <|
  orElse (do token ['t', 'r', 'u', 'e']; return .bool true) <|
  orElse (do token ['f', 'a', 'l', 's', 'e']; return .bool false) <|
  orElse (.string <$> string) (.number <$> number)

/-- An array of items. -/
def array {α : Type} (item : Parser α) : Parser (List α) := do
  let _ ← char '['
  let _ ← spacing
  let items ← sepBy item (spaced (char ','))
  let _ ← spacing
  let _ ← char ']'
  return items

/-- An object, with a parser for each member behind its key. -/
def object {α β : Type} (key : Parser α) (member : α → Parser β) : Parser (List β) := do
  let _ ← char '{'
  let _ ← spacing
  let members ← sepBy (do let k ← key; let _ ← spaced (char ':'); member k) (spaced (char ','))
  let _ ← spacing
  let _ ← char '}'
  return members

/-- A value nested in at most `depth` arrays and objects. -/
def value : Nat → Parser Json
  | 0 => scalar
  | depth + 1 =>
    orElse scalar <|
    orElse (.array <$> array (value depth)) <|
    ofMembers <$> object string fun key => do return (key, ← value depth)

/-- The raw text of a string whose escapes are well formed. -/
def skippedString : Parser Unit := do
  let raw ← quoted
  if (units raw).isSome then return () else never

/-- A value of which only the form is looked at, nested in at most `depth` arrays and objects. -/
def skipped : Nat → Parser Unit
  | 0 => never
  | depth + 1 =>
    orElse (token ['n', 'u', 'l', 'l']) <|
    orElse (token ['t', 'r', 'u', 'e']) <|
    orElse (token ['f', 'a', 'l', 's', 'e']) <|
    orElse skippedString <|
    orElse (do let _ ← numeral) <|
    orElse (do let _ ← array (skipped depth)) <|
    do let _ ← object skippedString fun _ => skipped depth

/-- A whole text that holds one thing. -/
def whole {α : Type} (p : Parser α) (s : List Char) : Option α :=
  (run (spaced p) s).toOption

end Reader

/-- How deep the arrays and objects of a document may be nested. -/
def maxDepth : Nat := 127

/-- The value that a text holds. -/
def read? (s : List Char) : Option Json :=
  Reader.whole (Reader.value maxDepth) s

/-- The value that a text holds.  Why a text holds none is not told. -/
def read (s : List Char) : Except Unit Json :=
  match read? s with
  | none => .error ()
  | some v => .ok v

end Verdict.Json
