import Verdict.Path.Basic
import Verdict.Parser.Message
import Verdict.Text.Alphanumeric
import Verdict.Decimal.Numeral

/-!
# The text of a path

A path begins with `$`.  A segment is a point, or two points for a deep one, and a name or `*`; or
a name, a position or `*` in brackets, with two points in front of the bracket for a deep one.  Names
in brackets are quoted by either kind of quote and may hold anything but that quote.
-/

namespace Verdict

namespace Path

open Verdict.Parser

/-- The characters of a name that stands without quotes. -/
def isNameChar (c : Char) : Bool :=
  Text.isAlphanumeric c || c == '_' || c == '-'

/-- The selector of all children. -/
def wildcard : Parser Selector := do
  let _ ← char '*'
  return .wildcard

/-- A name without quotes. -/
def name : Parser Selector := do
  let cs ← takeWhile1 isNameChar
  return .key (String.ofList cs)

/-- A name between two of the given quotes. -/
def quotedBy (quote : Char) : Parser Selector := do
  let _ ← char quote
  let cs ← takeWhile (· != quote)
  let _ ← char quote
  return .key (String.ofList cs)

/-- The positions that fit 64 bits. -/
def isPosition (i : Int) : Bool :=
  -0x8000000000000000 ≤ i && i < 0x8000000000000000

/-- A position: decimal digits with or without a sign. -/
def position : Parser Selector := do
  let sign ← Parser.optional (satisfy fun c => c == '+' || c == '-')
  let digits ← takeWhile1 Char.isDigit
  let size : Int := Decimal.ofDigits digits
  let i := if sign = some '-' then -size else size
  if isPosition i then return .index i else never

/-- A selector in brackets. -/
def bracket : Parser Selector := do
  let _ ← char '['
  let selector ← spaced (wildcard <|> quotedBy '\'' <|> quotedBy '"' <|> position)
  let _ ← char ']'
  return selector

/-- A segment that begins with two points. -/
def descendant : Parser Segment := do
  token ['.', '.']
  let selector ← wildcard <|> name <|> bracket
  return .descendant selector

/-- A segment that begins with one point. -/
def dotted : Parser Segment := do
  let _ ← char '.'
  let selector ← wildcard <|> name
  return .child selector

/-- One segment. -/
def segment : Parser Segment :=
  descendant <|> dotted <|> (.child <$> bracket)

/-- The longest path in front of a text. -/
def path : Parser Path := do
  let _ ← char '$'
  many segment

/-- Why a text is no path. -/
structure Error where
  text : String
  cause : Parser.Error

/-- The explanation of an error. -/
def Error.message (e : Error) : String :=
  "JSONPath parse error in '" ++ e.text ++ "': " ++ e.cause.message

/-- The path that a text holds, blanks around it apart. -/
def parse (text : String) : Except Error Path :=
  match run path (Text.trim text.toList) with
  | .ok segments => .ok segments
  | .error cause => .error ⟨text, cause⟩

end Path

end Verdict
