import Verdict.Function.Registry
import Verdict.Decimal.Whole
import Verdict.Text.Case
import Verdict.Text.Search

/-!
# The functions that every rule can call

An argument of the wrong kind counts as zero, as the empty string or as null.  Arguments are asked
for from left to right.
-/

namespace Verdict

namespace Function

variable {σ : Type}

/-- The answer of a number. -/
def ofNumber (x : Float) : Answer :=
  .literal (.number x)

/-- The answer of a truth value. -/
def ofBool (b : Bool) : Answer :=
  .literal (.bool b)

/-- The answer of a text. -/
def ofText (s : List Char) : Answer :=
  .literal (.string (String.ofList s))

/-- A function of one number. -/
def onNumber (f : Float → Float) : Procedure σ Answer := do
  let x ← .number 0 0.0
  return ofNumber (f x)

/-- A function of two numbers. -/
def onNumbers (f : Float → Float → Float) : Procedure σ Answer := do
  let x ← .number 0 0.0
  let y ← .number 1 0.0
  return ofNumber (f x y)

/-- A function of one text. -/
def onText (f : List Char → Answer) : Procedure σ Answer := do
  let s ← .string 0 ""
  return f s.toList

/-- A question about two texts. -/
def onTexts (f : List Char → List Char → Bool) : Procedure σ Answer := do
  let s ← .string 0 ""
  let t ← .string 1 ""
  return ofBool (f s.toList t.toList)

/-- How many elements an array or members an object has; anything else has none. -/
def length : Literal → Nat
  | .node (.array items) => items.length
  | .node (.object members) => members.length
  | _ => 0

/-- Is a literal equal to an element of an array? -/
def contains (haystack needle : Literal) : Bool :=
  match haystack.items? with
  | none => false
  | some items => items.any fun item => Literal.ofJson item == needle

/-- The size of an array or an object. -/
def arrayLength : Procedure σ Answer := do
  let l ← .object 0
  return ofNumber (Float.ofNat (length l))

/-- Membership in an array. -/
def arrayContains : Procedure σ Answer := do
  let haystack ← .object 0
  let needle ← .object 1
  return ofBool (contains haystack needle)

/-- A function that is known by its name. -/
def builtin (name : String) (parameters : List Kind) (returns : Kind)
    (body : Procedure σ Answer) : Function σ :=
  ⟨name, ⟨parameters, returns⟩, ⟨name, body⟩⟩

/-- The functions that every rule can call. -/
def builtins : List (Function σ) := [
  builtin "abs" [.number] .number (onNumber Float.abs),
  builtin "math.ceil" [.number] .number (onNumber Decimal.ceiling),
  builtin "math.floor" [.number] .number (onNumber Decimal.floor),
  builtin "math.round" [.number] .number (onNumber Decimal.round),
  builtin "math.add" [.number, .number] .number (onNumbers Float.add),
  builtin "math.sub" [.number, .number] .number (onNumbers Float.sub),
  builtin "str.len" [.string] .number (onText fun s => ofNumber (Float.ofNat s.length)),
  builtin "str.lower" [.string] .string (onText fun s => ofText (Text.lower s)),
  builtin "str.upper" [.string] .string (onText fun s => ofText (Text.upper s)),
  builtin "str.starts_with" [.string, .string] .boolean (onTexts fun s t => t.isPrefixOf s),
  builtin "str.ends_with" [.string, .string] .boolean (onTexts fun s t => t.isSuffixOf s),
  builtin "str.contains" [.string, .string] .boolean (onTexts fun s t => Text.occursIn t s),
  builtin "arr.len" [.any] .number arrayLength,
  builtin "arr.contains" [.any, .any] .boolean arrayContains]

end Function

/-- The registry of the functions that every rule can call. -/
def Registry.default {σ : Type} : Registry σ :=
  Function.builtins.foldl (fun r f => (r.register f).toOption.getD r) .empty

end Verdict
