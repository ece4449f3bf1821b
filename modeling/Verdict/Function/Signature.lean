/-!
# Signatures

A function declares the kinds of its parameters and the kind of its result.
-/

namespace Verdict

/-- What a parameter expects or a function returns. -/
inductive Kind where
  | any
  | number
  | string
  | boolean
  | array
  deriving DecidableEq, Repr

/-- The name of a kind. -/
def Kind.text : Kind → String
  | .any => "any"
  | .number => "number"
  | .string => "string"
  | .boolean => "boolean"
  | .array => "array"

/-- The kinds of the parameters of a function, in order, and the kind of its result. -/
structure Signature where
  parameters : List Kind
  returns : Kind
  deriving DecidableEq, Repr

/-- The text of a signature. -/
def Signature.text (s : Signature) : String :=
  "(" ++ ", ".intercalate (s.parameters.map Kind.text) ++ ") -> " ++ s.returns.text

end Verdict
