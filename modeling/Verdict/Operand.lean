import Verdict.Function.Procedure
import Verdict.Function.Signature

/-!
# Operands

An operand is a constant, a path into the document, or a call.  A call carries the kind of its result
and the implementation that its name stood for when it was bound; two calls are equal when their
names and arguments are.
-/

namespace Verdict

/-- What is compared in a rule, or handed to a function. -/
inductive Operand (σ : Type) where
  | literal (value : Literal)
  /-- A path or a JSON Pointer into the document. -/
  | path (text : String)
  /-- A call of a function. -/
  | call (name : String) (arguments : List (Operand σ)) (returns : Kind)
    (implementation : Implementation σ)

namespace Operand

variable {σ : Type}

theorem induction {p : Operand σ → Prop} (literal : ∀ l, p (.literal l))
    (path : ∀ text, p (.path text))
    (call : ∀ name arguments returns implementation, (∀ a ∈ arguments, p a) →
      p (.call name arguments returns implementation)) : ∀ a, p a
  | .literal l => literal l
  | .path text => path text
  | .call name arguments returns implementation =>
    call name arguments returns implementation fun a _ => induction literal path call a

mutual

/-- Equality of operands. -/
protected def beq : Operand σ → Operand σ → Bool
  | .literal l, .literal m => l == m
  | .path s, .path t => s == t
  | .call f as _ _, .call g bs _ _ => f == g && beqAll as bs
  | _, _ => false

/-- Equality of operands, one by one. -/
def beqAll : List (Operand σ) → List (Operand σ) → Bool
  | [], [] => true
  | a :: as, b :: bs => a.beq b && beqAll as bs
  | _, _ => false

end

instance : BEq (Operand σ) := ⟨Operand.beq⟩

mutual

/-- The text of an operand. -/
def write : Operand σ → List Char
  | .literal l => l.write
  | .path s => s.toList
  | .call f arguments _ _ => f.toList ++ '(' :: writeArguments arguments

/-- The texts of the arguments of a call, with the closing parenthesis. -/
def writeArguments : List (Operand σ) → List Char
  | [] => [')']
  | a :: arguments => a.write ++ writeOthers arguments

/-- The texts of the arguments behind the first one, with the closing parenthesis. -/
def writeOthers : List (Operand σ) → List Char
  | [] => [')']
  | a :: arguments => ',' :: ' ' :: a.write ++ writeOthers arguments

end

/-- The text of an operand. -/
def text (o : Operand σ) : String :=
  String.ofList o.write

/-- What kind of operand it is, for the explanation of an error. -/
def describe : Operand σ → String
  | .literal l => l.kindName ++ " literal " ++ l.text
  | .path s => "path " ++ s
  | .call f _ returns _ => "call to " ++ f ++ " returning " ++ returns.text

end Operand

/-- May an operand be passed where a kind is expected?  What a path refers to is known only when it is
looked up, so paths always may; and so may null, which stands for the default of the parameter. -/
def Kind.accepts {σ : Type} (kind : Kind) : Operand σ → Bool
  | .path _ => true
  | .call _ _ returns _ => kind == .any || returns == .any || returns == kind
  | .literal l =>
    match kind, l with
    | .any, _ => true
    | _, .null => true
    | .number, .number _ => true
    | .string, .string _ => true
    | .boolean, .bool _ => true
    | .array, .node (.array _) => true
    | _, _ => false

end Verdict
