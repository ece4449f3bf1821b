import Verdict.Literal

/-!
# Terms

A term is an operand as it stands in the text of a rule: its calls are mere names.
-/

namespace Verdict

/-- An operand whose calls are not bound. -/
inductive Term where
  | literal (value : Literal)
  | path (text : String)
  | call (name : String) (arguments : List Term)

theorem Term.induction {p : Term → Prop} (literal : ∀ l, p (.literal l)) (path : ∀ s, p (.path s))
    (call : ∀ name arguments, (∀ t ∈ arguments, p t) → p (.call name arguments)) : ∀ t, p t
  | .literal l => literal l
  | .path s => path s
  | .call name arguments =>
    call name arguments fun t _ => Term.induction literal path call t

end Verdict
