import Verdict.Evaluation.Condition
import Verdict.Rule.Binding

/-!
# Evaluating rules

Every document is examined in a session of its own.  Only the world behind the resolver is carried
from one document to the next.
-/

namespace Verdict

/-- What came out of the examination of a document. -/
structure Finding where
  holds : Bool
  /-- How many path texts the resolver was asked about. -/
  lookups : Nat
  /-- How many times a path text was remembered. -/
  hits : Nat
  deriving DecidableEq, Repr

namespace Evaluator

variable {σ : Type}

/-- The evaluator that looks up paths as the settings say. -/
def ofSettings (settings : Settings) : Evaluator Path.Memo where
  settings := settings
  resolver := .jsonPath settings.jsonPointerPaths settings.compiledPathCapacity

/-- Decides a condition about a document, and counts the lookups.  This is what comes of the examination
if there is room for a session with the capacity of the settings; it does not depend on the capacity. -/
def examine (e : Evaluator σ) (root : Condition (Operand σ)) (document : Json) :
    StateM σ Finding :=
  fun world =>
    let (holds, session) := (root.evaluate { e with document }).run (.start world)
    (⟨holds, session.lookups, session.hits⟩, session.world)

/-- Decides a condition about a document. -/
def holds (e : Evaluator σ) (root : Condition (Operand σ)) (document : Json) : StateM σ Bool := do
  let finding ← e.examine root document
  return finding.holds

/-- Decides a condition about each of a list of documents, in order. -/
def batch (e : Evaluator σ) (root : Condition (Operand σ)) : List Json → StateM σ (List Bool)
  | [] => return []
  | document :: documents => do
    let first ← e.holds root document
    let others ← e.batch root documents
    return first :: others

end Evaluator

namespace Rule

variable {σ : Type}

/-- Does the rule hold for a document? -/
def holds (rule : Rule σ) (e : Evaluator σ) (document : Json) : StateM σ Bool :=
  e.holds rule.root document

/-- Does the rule hold for each of a list of documents? -/
def batch (rule : Rule σ) (e : Evaluator σ) (documents : List Json) : StateM σ (List Bool) :=
  e.batch rule.root documents

end Rule

end Verdict
