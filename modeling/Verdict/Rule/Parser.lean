import Verdict.Rule.Condition
import Verdict.Rule.Term
import Verdict.Path.Parser
import Verdict.Function.Registry

/-!
# The text of a rule

From loosest to tightest, a rule is made of alternatives between `||`, of requirements between `&&`,
of the strict operators `and` and `or`, which associate to the left, of negations by `!` or `not`,
and of comparisons.  A list of one item is that item.  Blanks may stand between tokens.

A rule refers to itself in parentheses and behind a negation, a term in the arguments of a call.
`negationUpTo` and `termUpTo` bound how deep that goes; a text cannot hold more levels than
characters, so `Rule.condition` takes its length for a bound.
-/

namespace Verdict

namespace Rule

open Verdict.Parser

/-! ### Literals -/

/-- A word that no letter, digit or underscore continues. -/
def keyword (word : List Char) : Parser Unit := do
  token word
  notBefore fun c => Text.isAlphanumeric c || c == '_'

/-- One of the constants that are words. -/
def constant : Parser Literal :=
  (do keyword ['n', 'u', 'l', 'l']; return .null) <|>
  (do keyword ['t', 'r', 'u', 'e']; return .bool true) <|>
  (do keyword ['f', 'a', 'l', 's', 'e']; return .bool false)

/-- A sign in front of a number; is it a minus? -/
def sign : Parser Bool := do
  let c ← Parser.optional (satisfy fun c => c == '+' || c == '-')
  return c == some '-'

/-- The digits before and after the point, of which one part may be missing. -/
def digits : Parser (List Char × List Char) :=
  (do
    let whole ← takeWhile1 Char.isDigit
    let fraction ← Parser.optional (do let _ ← char '.'; takeWhile Char.isDigit)
    return (whole, fraction.getD [])) <|>
  (do
    let _ ← char '.'
    let fraction ← takeWhile1 Char.isDigit
    return ([], fraction))

/-- The digits of an exponent, which must not be missing in the number that begins at `start`. -/
def exponentDigits (start : List Char) : Parser (List Char) :=
  orElse (takeWhile1 Char.isDigit) fun _ => .abort start

/-- The exponent of the number that begins at `start`. -/
def exponent (start : List Char) : Parser Int := do
  let _ ← satisfy fun c => c == 'e' || c == 'E'
  let negative ← sign
  let digits ← exponentDigits start
  let size : Int := Decimal.ofDigits digits
  return if negative then -size else size

/-- A number as it is written. -/
def numeral : Parser Decimal.Numeral :=
  fun start => (do
    let negative ← sign
    let (whole, fraction) ← digits
    let power ← Parser.optional (exponent start)
    return ⟨negative, whole, fraction, power.getD 0⟩ : Parser Decimal.Numeral) start

/-- A number. -/
def number : Parser Literal := do
  let n ← numeral
  return .number n.toFloat

/-- The text up to a quote, and what follows from the quote on.  A backslash stands in front of a
character that is taken as it is. -/
def quotedText (quote : Char) : List Char → Option (List Char × List Char)
  | [] => none
  | c :: s =>
    if c = quote then some ([], c :: s)
    else if c = '\\' then
      match s with
      | [] => none
      | d :: s => (quotedText quote s).map fun (text, rest) => (d :: text, rest)
    else (quotedText quote s).map fun (text, rest) => (c :: text, rest)

/-- A string between two of the given quotes. -/
def quotedBy (quote : Char) : Parser Literal := do
  let _ ← char quote
  let text ← fun s =>
    match quotedText quote s with
    | some (text, rest) => .ok text rest
    | none => .miss s
  let _ ← char quote
  return .string (String.ofList text)

/-- A string in either kind of quotes. -/
def string : Parser Literal :=
  quotedBy '\'' <|> quotedBy '"'

/-! ### Terms -/

/-- The characters that end a JSON Pointer, besides blanks. -/
def endsPointer (c : Char) : Bool :=
  Text.isBlank c || ['(', ')', ',', '=', '!', '<', '>', '&', '|'].contains c

/-- A JSON Pointer. -/
def pointer : Parser (List Char) := do
  let c ← char '/'
  let cs ← takeWhile fun c => !endsPointer c
  return c :: cs

/-- A path or a JSON Pointer. -/
def path : Parser Term := do
  let text ← read Path.path <|> pointer
  return .path (String.ofList text)

/-- The name of a function. -/
def functionName : Parser (List Char) := do
  let c ← satisfy Function.isNameStart
  let cs ← takeWhile Function.isNameChar
  return c :: cs

/-- A call, given a parser for its arguments. -/
def call (term : Parser Term) : Parser Term := do
  let name ← functionName
  let _ ← spaced (char '(')
  let arguments ← sepBy term (spaced (char ','))
  let _ ← spaced (char ')')
  return .call (String.ofList name) arguments

/-- A term, given a parser for the arguments of its calls. -/
def termOf (term : Parser Term) : Parser Term :=
  spaced (
    (.literal <$> constant) <|>
    call term <|>
    path <|>
    (.literal <$> number) <|>
    (.literal <$> string))

/-- A term with calls nested less than `depth` deep. -/
def termUpTo : Nat → Parser Term
  | 0 => never
  | depth + 1 => termOf (termUpTo depth)

/-- A term. -/
def term : Parser Term :=
  fun s => termUpTo (s.length + 1) s

/-! ### Conditions -/

/-- An operator between two terms. -/
def comparison : Parser Comparison :=
  (do token ['=', '=']; return .equal) <|>
  (do token ['!', '=']; return .notEqual) <|>
  (do token ['>', '=']; return .greaterEqual) <|>
  (do token ['<', '=']; return .lessEqual) <|>
  (do token ['>']; return .greater) <|>
  (do token ['<']; return .less)

/-- A comparison of two terms, or a term by itself. -/
def compared : Parser (Condition Term) := do
  let left ← term
  let right ← Parser.optional (do
    let op ← spaced comparison
    let right ← term
    return (op, right))
  return match right with
    | some (op, right) => .compare op left right
    | none => .operand left

/-- The word of a strict operator, as the operator. -/
def strictOperator : Parser (Condition Term → Condition Term → Condition Term) :=
  spaced ((do keyword ['a', 'n', 'd']; return .and) <|> (do keyword ['o', 'r']; return .or))

/-- Conditions between strict operators. -/
def strict (item : Parser (Condition Term)) : Parser (Condition Term) := do
  let first ← item
  let others ← many (do
    let join ← strictOperator
    let right ← item
    return (join, right))
  return others.foldl (fun left other => other.1 left other.2) first

/-- A list of conditions, of which one alone is no list. -/
def collect (join : List (Condition Term) → Condition Term) :
    List (Condition Term) → Condition Term
  | [item] => item
  | items => join items

/-- Conditions between `&&`. -/
def requirements (item : Parser (Condition Term)) : Parser (Condition Term) := do
  let items ← sepBy1 (strict item) (spaced (token ['&', '&']))
  return collect .all items

/-- Conditions between `||`. -/
def alternatives (item : Parser (Condition Term)) : Parser (Condition Term) := do
  let items ← sepBy1 (requirements item) (spaced (token ['|', '|']))
  return collect .any items

/-- A rule in parentheses. -/
def parenthesised (item : Parser (Condition Term)) : Parser (Condition Term) := do
  let _ ← spaced (char '(')
  let inner ← alternatives item
  let _ ← spaced (char ')')
  return inner

/-- The mark of a negation. -/
def negationMark : Parser Unit :=
  spaced (token ['!'] <|> keyword ['n', 'o', 't'])

/-- A condition with negations and parentheses nested less than `depth` deep. -/
def negationUpTo : Nat → Parser (Condition Term)
  | 0 => never
  | depth + 1 =>
    (do
      negationMark
      let inner ← negationUpTo depth
      return .not inner) <|>
    parenthesised (negationUpTo depth) <|>
    compared

/-- The longest rule in front of a text. -/
def condition : Parser (Condition Term) :=
  fun s => alternatives (negationUpTo (s.length + 1)) s

/-- Why a text is no rule. -/
inductive Error where
  /-- The text cannot be read. -/
  | unreadable (text : String) (cause : Parser.Error)
  /-- A call cannot be made. -/
  | call (cause : Function.Error)
  deriving DecidableEq, Repr

/-- The explanation of an error. -/
def Error.message : Error → String
  | .unreadable text cause => "Rule parse error in '" ++ text ++ "': " ++ cause.message
  | .call cause => "Invalid function call: " ++ cause.message

/-- The condition that a text holds, blanks around it apart. -/
def parse (text : String) : Except Error (Condition Term) :=
  match run condition (Text.trim text.toList) with
  | .ok condition => .ok condition
  | .error cause => .error (.unreadable text cause)

end Rule

end Verdict
