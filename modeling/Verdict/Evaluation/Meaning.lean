import Verdict.Evaluation.Session
import Verdict.Operand

/-!
# What operands mean

An operand means four things, for it can be looked at as a number, as a truth value, as a string, or
as the literal it stands for.  Whoever looks at it as one of the first three gives a default, which
is the result whenever the operand is absent or of another kind; nothing is converted, and nothing
can fail.  A call means what its answer means, and its body runs each time it is looked at.
-/

namespace Verdict

/-- An operand as a number, a truth value, a string and a literal. -/
structure Meaning (σ : Type) where
  number : Float → Evaluation σ Float
  boolean : Bool → Evaluation σ Bool
  string : String → Evaluation σ String
  object : Evaluation σ Literal

namespace Meaning

variable {σ : Type}

/-- The meaning of a constant. -/
def ofLiteral (l : Literal) : Meaning σ where
  number default := return l.number?.getD default
  boolean default := return l.bool?.getD default
  string default := return l.string?.getD default
  object := return l

/-- The literal of a value that may be absent. -/
def literalOf : Option Json → Literal
  | none => .null
  | some v => .ofJson v

/-- The meaning of a path. -/
def ofPath (env : Environment σ) (text : String) : Meaning σ where
  number default := do
    let v ← env.reference text
    return (v.bind Json.number?).getD default
  boolean default := do
    let v ← env.reference text
    return (v.bind Json.bool?).getD default
  string default := do
    let v ← env.reference text
    return (v.bind Json.string?).getD default
  object := do
    let v ← env.reference text
    return literalOf v

/-- The meaning that a computation comes to each time it is run. -/
def ofEvaluation (m : Evaluation σ (Meaning σ)) : Meaning σ where
  number default := do (← m).number default
  boolean default := do (← m).boolean default
  string default := do (← m).string default
  object := do (← m).object

/-- The meaning of an answer to a call with the given arguments. -/
def ofAnswer (env : Environment σ) (arguments : List (Meaning σ)) : Answer → Meaning σ
  | .literal l => ofLiteral l
  | .path text => ofPath env text
  | .argument i => arguments[i]?.getD (ofLiteral .null)

end Meaning

variable {σ α : Type}

/-- Answers a request of a procedure with the given arguments. -/
def Request.perform (env : Environment σ) (arguments : List (Meaning σ)) :
    (request : Request σ) → Evaluation σ request.Reply
  | .arguments => fun session => (arguments.length, session)
  | .number i default =>
    match arguments[i]? with
    | some a => a.number default
    | none => fun session => (default, session)
  | .boolean i default =>
    match arguments[i]? with
    | some a => a.boolean default
    | none => fun session => (default, session)
  | .string i default =>
    match arguments[i]? with
    | some a => a.string default
    | none => fun session => (default, session)
  | .object i =>
    match arguments[i]? with
    | some a => a.object
    | none => fun session => (Literal.null, session)
  | .path text => env.reference text
  | .document => fun session => (env.document, session)
  | .settings => fun session => (env.settings, session)
  | .statistics => fun session => (session.statistics, session)
  | .world => fun session => (session.world, session)
  | .enter w => fun session => ((), { session with world := w })

/-- Runs a procedure with the given arguments. -/
def Procedure.run (env : Environment σ) (arguments : List (Meaning σ)) :
    Procedure σ α → Evaluation σ α
  | .done a => return a
  | .ask request next => do
    let reply ← request.perform env arguments
    (next reply).run env arguments

namespace Operand

mutual

/-- The meaning of an operand. -/
def meaning (env : Environment σ) : Operand σ → Meaning σ
  | .literal l => .ofLiteral l
  | .path text => .ofPath env text
  | .call _ arguments _ implementation =>
    let arguments := meanings env arguments
    .ofEvaluation do
      let answer ← implementation.body.run env arguments
      return .ofAnswer env arguments answer

/-- The meanings of operands. -/
def meanings (env : Environment σ) : List (Operand σ) → List (Meaning σ)
  | [] => []
  | a :: operands => a.meaning env :: meanings env operands

end

/-- The operand that an answer to a call stands for. -/
def ofAnswer (arguments : List (Operand σ)) : Answer → Operand σ
  | .literal l => .literal l
  | .path text => .path text
  | .argument i => arguments[i]?.getD (.literal .null)

/-- The operand that a call comes to, before it is looked at as anything; another operand is what it
is. -/
def invoke (env : Environment σ) : Operand σ → Evaluation σ (Operand σ)
  | .call _ arguments _ implementation => do
    let answer ← implementation.body.run env (meanings env arguments)
    return ofAnswer arguments answer
  | a => return a

end Operand

end Verdict
