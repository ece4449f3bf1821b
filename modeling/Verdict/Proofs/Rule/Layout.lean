import Verdict.Rule.Parser
import Verdict.Proofs.Path.Grammar

/-!
# How a rule can be written

`Written free phrase text` says that a text is one way to write a phrase: a term, a condition that
binds as tightly as a negation, conditions between strict operators, lists of those, or a whole rule.
Parentheses stand where the levels demand them and wherever else one likes, blanks between any two
tokens.  No phrase begins or ends with a blank.

A term may stand where a negation may only if nothing at its beginning can be mistaken for one.  Which
terms are safe there is left open, `free`; those that are not called `not` certainly are.
-/

namespace Verdict.Rule

open Verdict.Parser

/-! ### Numbers -/

/-- The exponent of a number as it is written. -/
structure Exponent where
  mark : Char
  sign : Option Char
  digits : List Char
  isMark : mark = 'e' ∨ mark = 'E'
  isSign : ∀ c ∈ sign, c = '+' ∨ c = '-'
  nonempty : digits ≠ []
  decimal : ∀ c ∈ digits, c.isDigit = true

/-- A number as it is written: digits before and after the point, of which one part may be missing. -/
structure NumberText where
  sign : Option Char
  whole : List Char
  fraction : Option (List Char)
  exponent : Option Exponent
  isSign : ∀ c ∈ sign, c = '+' ∨ c = '-'
  wholeDecimal : ∀ c ∈ whole, c.isDigit = true
  fractionDecimal : ∀ f ∈ fraction, ∀ c ∈ f, c.isDigit = true
  nonempty : whole ≠ [] ∨ ∃ f ∈ fraction, f ≠ []

namespace Exponent

def text (e : Exponent) : List Char :=
  e.mark :: (e.sign.toList ++ e.digits)

def value (e : Exponent) : Int :=
  Path.signedValue e.sign e.digits

end Exponent

namespace NumberText

def pointText (fraction : Option (List Char)) : List Char :=
  fraction.elim [] ('.' :: ·)

def exponentText (exponent : Option Exponent) : List Char :=
  exponent.elim [] Exponent.text

def text (t : NumberText) : List Char :=
  t.sign.toList ++ (t.whole ++ (pointText t.fraction ++ exponentText t.exponent))

/-- The parts of the number. -/
def numeral (t : NumberText) : Decimal.Numeral :=
  ⟨t.sign == some '-', t.whole, t.fraction.getD [], (t.exponent.map Exponent.value).getD 0⟩

end NumberText

/-! ### Strings -/

/-- A string as it is written, each character with or without a backslash in front. -/
structure StringText where
  quote : Char
  parts : List (Bool × Char)
  isQuote : quote = '\'' ∨ quote = '"'
  plain : ∀ part ∈ parts, part.1 = false → part.2 ≠ quote ∧ part.2 ≠ '\\'

namespace StringText

def partText (part : Bool × Char) : List Char :=
  if part.1 then ['\\', part.2] else [part.2]

def text (t : StringText) : List Char :=
  t.quote :: (t.parts.flatMap partText ++ [t.quote])

def value (t : StringText) : String :=
  String.ofList (t.parts.map Prod.snd)

end StringText

/-! ### Names -/

/-- The part of a name in front of its first point. -/
def stem (name : List Char) : List Char :=
  name.takeWhile (· != '.')

/-- The name of a function, which no constant may be taken for. -/
structure CallName (name : List Char) : Prop where
  start : ∀ c ∈ name.head?, Function.isNameStart c = true
  nonempty : name ≠ []
  plain : ∀ c ∈ name, Function.isNameChar c = true
  noConstant : stem name ∉ [['n', 'u', 'l', 'l'], ['t', 'r', 'u', 'e'], ['f', 'a', 'l', 's', 'e']]

/-- Not a call of a function whose name begins with the mark of a negation. -/
def NotCalledNot : Term → Prop
  | .call name _ => stem name.toList ≠ ['n', 'o', 't']
  | _ => True

/-! ### Phrases -/

/-- What can be written.  A list is what stands between separators: arguments between commas,
`requirements` between `&&`, `alternatives` between `||`. -/
inductive Phrase where
  | term (t : Term)
  | arguments (ts : List Term)
  | negation (c : Condition Term)
  | strict (c : Condition Term)
  | requirements (cs : List (Condition Term))
  | conjunction (c : Condition Term)
  | alternatives (cs : List (Condition Term))
  | rule (c : Condition Term)

/-- The text is a way to write the phrase. -/
inductive Written (free : Term → Prop) : Phrase → List Char → Prop
  | null : Written free (.term (.literal .null)) ['n', 'u', 'l', 'l']
  | isTrue : Written free (.term (.literal (.bool true))) ['t', 'r', 'u', 'e']
  | isFalse : Written free (.term (.literal (.bool false))) ['f', 'a', 'l', 's', 'e']
  | number (t : NumberText) : Written free (.term (.literal (.number t.numeral.toFloat))) t.text
  | string (t : StringText) : Written free (.term (.literal (.string t.value))) t.text
  | path {u : List Char} {p : Path} (whole : Path.path u = .ok p []) :
      Written free (.term (.path (String.ofList u))) u
  | pointer {u : List Char} (plain : ∀ c ∈ u, endsPointer c = false) :
      Written free (.term (.path (String.ofList ('/' :: u)))) ('/' :: u)
  | callNone {name a b : List Char} (isName : CallName name) (ha : Blank a) (hb : Blank b) :
      Written free (.term (.call (String.ofList name) [])) (name ++ (a ++ '(' :: (b ++ [')'])))
  | call {name a b d u : List Char} {ts : List Term} (isName : CallName name) (ha : Blank a)
      (hb : Blank b) (hd : Blank d) (inside : Written free (.arguments ts) u) :
      Written free (.term (.call (String.ofList name) ts))
        (name ++ (a ++ '(' :: (b ++ (u ++ (d ++ [')'])))))
  | argument {t : Term} {u : List Char} (only : Written free (.term t) u) :
      Written free (.arguments [t]) u
  | arguments {t : Term} {ts : List Term} {u v a b : List Char} (ha : Blank a) (hb : Blank b)
      (first : Written free (.term t) u) (others : Written free (.arguments ts) v) :
      Written free (.arguments (t :: ts)) (u ++ (a ++ ',' :: (b ++ v)))
  | operand {t : Term} {u : List Char} (safe : free t) (only : Written free (.term t) u) :
      Written free (.negation (.operand t)) u
  | compare {t t' : Term} {u v a b : List Char} (op : Comparison) (ha : Blank a) (hb : Blank b)
      (safe : free t) (left : Written free (.term t) u) (right : Written free (.term t') v) :
      Written free (.negation (.compare op t t')) (u ++ (a ++ (op.sign ++ (b ++ v))))
  | parenthesised {c : Condition Term} {u a b : List Char} (ha : Blank a) (hb : Blank b)
      (inside : Written free (.rule c) u) :
      Written free (.negation c) ('(' :: (a ++ (u ++ (b ++ [')']))))
  | bang {c : Condition Term} {u a : List Char} (ha : Blank a)
      (inside : Written free (.negation c) u) : Written free (.negation (.not c)) ('!' :: (a ++ u))
  | word {c : Condition Term} {u a : List Char} (ha : Blank a) (some : a ≠ [])
      (inside : Written free (.negation c) u) :
      Written free (.negation (.not c)) ('n' :: 'o' :: 't' :: (a ++ u))
  | unary {c : Condition Term} {u : List Char} (only : Written free (.negation c) u) :
      Written free (.strict c) u
  | and {x y : Condition Term} {u v a b : List Char} (ha : Blank a) (hb : Blank b) (some : a ≠ [])
      (some' : b ≠ []) (left : Written free (.strict x) u) (right : Written free (.negation y) v) :
      Written free (.strict (.and x y)) (u ++ (a ++ 'a' :: 'n' :: 'd' :: (b ++ v)))
  | or {x y : Condition Term} {u v a b : List Char} (ha : Blank a) (hb : Blank b) (some : a ≠ [])
      (some' : b ≠ []) (left : Written free (.strict x) u) (right : Written free (.negation y) v) :
      Written free (.strict (.or x y)) (u ++ (a ++ 'o' :: 'r' :: (b ++ v)))
  | requirement {c : Condition Term} {u : List Char} (only : Written free (.strict c) u) :
      Written free (.requirements [c]) u
  | requirements {c : Condition Term} {cs : List (Condition Term)} {u v a b : List Char}
      (ha : Blank a) (hb : Blank b) (first : Written free (.strict c) u)
      (others : Written free (.requirements cs) v) :
      Written free (.requirements (c :: cs)) (u ++ (a ++ '&' :: '&' :: (b ++ v)))
  | single {c : Condition Term} {u : List Char} (only : Written free (.requirements [c]) u) :
      Written free (.conjunction c) u
  | all {cs : List (Condition Term)} {u : List Char} (several : 2 ≤ cs.length)
      (inside : Written free (.requirements cs) u) : Written free (.conjunction (.all cs)) u
  | alternative {c : Condition Term} {u : List Char} (only : Written free (.conjunction c) u) :
      Written free (.alternatives [c]) u
  | alternatives {c : Condition Term} {cs : List (Condition Term)} {u v a b : List Char}
      (ha : Blank a) (hb : Blank b) (first : Written free (.conjunction c) u)
      (others : Written free (.alternatives cs) v) :
      Written free (.alternatives (c :: cs)) (u ++ (a ++ '|' :: '|' :: (b ++ v)))
  | sole {c : Condition Term} {u : List Char} (only : Written free (.alternatives [c]) u) :
      Written free (.rule c) u
  | any {cs : List (Condition Term)} {u : List Char} (several : 2 ≤ cs.length)
      (inside : Written free (.alternatives cs) u) : Written free (.rule (.any cs)) u

/-- Is it a term or a list of arguments? -/
def Phrase.IsTerm : Phrase → Prop
  | term _ | arguments _ => True
  | _ => False

/-- Within a term no term stands where a negation may. -/
theorem Written.change {free free' : Term → Prop} {ph : Phrase} {u : List Char}
    (h : Written free ph u) (isTerm : ph.IsTerm) : Written free' ph u := by
  induction h with
  | null => exact .null
  | isTrue => exact .isTrue
  | isFalse => exact .isFalse
  | number t => exact .number t
  | string t => exact .string t
  | path whole => exact .path whole
  | pointer plain => exact .pointer plain
  | callNone isName ha hb => exact .callNone isName ha hb
  | call isName ha hb hd inside ih => exact .call isName ha hb hd (ih trivial)
  | argument only ih => exact .argument (ih trivial)
  | arguments ha hb first others ih ih' => exact .arguments ha hb (ih trivial) (ih' trivial)
  | _ => exact isTerm.elim

end Verdict.Rule
