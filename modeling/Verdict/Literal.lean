import Verdict.Json.Equality
import Verdict.Json.Writer

/-!
# Literals

A literal is a constant of a rule.  All its numbers are floating-point numbers, so that 5 and 5.0 are
the same literal; arrays and objects are kept as JSON values.
-/

namespace Verdict

/-- A constant. -/
inductive Literal where
  | null
  | bool (value : Bool)
  | number (value : Float)
  | string (value : String)
  | node (value : Json)
  deriving Inhabited

namespace Literal

/-- The literal of a JSON value: scalars become scalar literals. -/
def ofJson : Json → Literal
  | .null => .null
  | .bool b => .bool b
  | .number n => .number n.toFloat
  | .string s => .string s
  | v => .node v

/-- A number, if the literal is one. -/
def number? : Literal → Option Float
  | .number x => some x
  | _ => none

/-- A truth value, if the literal is one. -/
def bool? : Literal → Option Bool
  | .bool b => some b
  | _ => none

/-- A string, if the literal is one. -/
def string? : Literal → Option String
  | .string s => some s
  | _ => none

/-- The elements, if the literal is an array. -/
def items? : Literal → Option (List Json)
  | .node v => v.items?
  | _ => none

/-- Equality of values: numbers are compared as floating-point numbers, also inside arrays and
objects, and literals of different kinds are never equal. -/
protected def beq : Literal → Literal → Bool
  | .null, .null => true
  | .bool a, .bool b => a == b
  | .number x, .number y => x == y
  | .string s, .string t => s == t
  | .node v, .node w => v.equiv w
  | _, _ => false

instance : BEq Literal := ⟨Literal.beq⟩

/-- The name of the kind of a literal. -/
def kindName : Literal → String
  | .null => "null"
  | .bool _ => "boolean"
  | .number _ => "number"
  | .string _ => "string"
  | .node (.array _) => "array"
  | .node _ => "object"

/-- Numbers are always plain, whole numbers show no fraction, and of two equally near decimals the
upper one is written. -/
def numberStyle : Decimal.Style where
  plain _ := true
  pointZero := false
  tie := .up

/-- The quote around a string: a single one, unless the string holds single quotes and no double
ones. -/
def quoteFor (s : List Char) : Char :=
  if s.contains '\'' && !s.contains '"' then '"' else '\''

/-- A string in quotes, with a backslash in front of each such quote and each backslash in it. -/
def writeString (s : List Char) : List Char :=
  let quote := quoteFor s
  quote :: s.flatMap (fun c => if c = quote ∨ c = '\\' then ['\\', c] else [c]) ++ [quote]

/-- The text of a literal. -/
def write : Literal → List Char
  | .null => ['n', 'u', 'l', 'l']
  | .bool true => ['t', 'r', 'u', 'e']
  | .bool false => ['f', 'a', 'l', 's', 'e']
  | .number x => numberStyle.number x
  | .string s => writeString s.toList
  | .node v => v.write

/-- The text of a literal. -/
def text (l : Literal) : String :=
  String.ofList l.write

end Literal

end Verdict
