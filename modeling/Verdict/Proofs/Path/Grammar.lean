import Verdict.Path.Parser
import Verdict.Proofs.Parser.Basic

/-!
# The grammar of paths

A `Derivation` spells out how a text is put together by the grammar of paths: every segment with its
points, its name, or its bracket and the blanks inside it.  The side conditions of the grammar are
fields, so that nothing else can be derived.  `Derivation.text` is the text that is derived and
`Derivation.path` the path that it stands for.
-/

namespace Verdict.Path

open Verdict.Parser

/-- The whole number that a sign and decimal digits stand for. -/
def signedValue (sign : Option Char) (digits : List Char) : Int :=
  if sign = some '-' then -(Decimal.ofDigits digits : Int) else Decimal.ofDigits digits

/-- What stands in a bracket, apart from blanks. -/
inductive Inner where
  | wildcard
  | key (quote : Char) (name : List Char) (isQuote : quote = '\'' ∨ quote = '"')
      (closed : quote ∉ name)
  | index (sign : Option Char) (digits : List Char) (isSign : ∀ c ∈ sign, c = '+' ∨ c = '-')
      (nonempty : digits ≠ []) (decimal : ∀ c ∈ digits, c.isDigit = true)
      (fits : -0x8000000000000000 ≤ signedValue sign digits ∧
        signedValue sign digits < 0x8000000000000000)

namespace Inner

/-- The text in the bracket. -/
def text : Inner → List Char
  | wildcard => ['*']
  | key quote name _ _ => quote :: name ++ [quote]
  | index sign digits _ _ _ _ => sign.toList ++ digits

/-- The selector that is written in the bracket. -/
def selector : Inner → Selector
  | wildcard => .wildcard
  | key _ name _ _ => .key (String.ofList name)
  | index sign digits _ _ _ _ => .index (signedValue sign digits)

end Inner

/-- One segment as it is written; a `deep` one has one point more than another. -/
inductive Step where
  | star (deep : Bool)
  | name (deep : Bool) (key : List Char) (nonempty : key ≠ [])
      (plain : ∀ c ∈ key, isNameChar c = true)
  | bracket (deep : Bool) (before : List Char) (inner : Inner) (after : List Char)
      (blankBefore : Blank before) (blankAfter : Blank after)

namespace Step

/-- The points in front of a star or a name. -/
def points (deep : Bool) : List Char :=
  if deep then ['.', '.'] else ['.']

/-- The points in front of a bracket. -/
def bracketPoints (deep : Bool) : List Char :=
  if deep then ['.', '.'] else []

/-- The text of the segment. -/
def text : Step → List Char
  | star deep => points deep ++ ['*']
  | name deep key _ _ => points deep ++ key
  | bracket deep before inner after _ _ =>
    bracketPoints deep ++ '[' :: (before ++ (inner.text ++ (after ++ [']'])))

/-- A selector applied to the children, or to everything inside. -/
def segmentOf (deep : Bool) (selector : Selector) : Segment :=
  if deep then .descendant selector else .child selector

/-- The segment that is written. -/
def segment : Step → Segment
  | star deep => segmentOf deep .wildcard
  | name deep key _ _ => segmentOf deep (.key (String.ofList key))
  | bracket deep _ inner _ _ _ => segmentOf deep inner.selector

/-- Does the segment end in a name without quotes? -/
def isOpen : Step → Bool
  | name _ _ _ _ => true
  | _ => false

end Step

/-- A derivation of a path. -/
abbrev Derivation : Type := List Step

namespace Derivation

/-- The text of the segments. -/
def body (d : Derivation) : List Char :=
  d.flatMap Step.text

/-- The text that is derived. -/
def text (d : Derivation) : List Char :=
  '$' :: d.body

/-- The path that the text stands for. -/
def path (d : Derivation) : Path :=
  d.map Step.segment

@[simp] theorem body_nil : body [] = [] := rfl

@[simp] theorem body_cons (step : Step) (d : Derivation) :
    body (step :: d) = step.text ++ body d := rfl

end Derivation

end Verdict.Path
