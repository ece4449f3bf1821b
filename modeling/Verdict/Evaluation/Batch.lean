import Verdict.Evaluation.Basic

/-!
# Batches

The documents of a batch are examined with one memo, either one after the other or all at the same
time.  When they are examined at the same time, then all that one of them has to do with the others is
what these ask the resolver: before the examination begins, and around the turns that it takes with the
memo.  A `Schedule` may have them ask anything at all, so every interleaving of the batch is among the
schedules.
-/

namespace Verdict

/-- The evaluator of the settings while others are at work with the same memo. -/
def Evaluator.among (settings : Settings) (others : String → Resolver.Interruption) :
    Evaluator Path.Memo where
  settings := settings
  resolver := .among settings.jsonPointerPaths settings.compiledPathCapacity others

/-- What others ask while a document is examined. -/
structure Meanwhile where
  /-- What they ask before the examination begins. -/
  before : List (Json × String)
  /-- What they ask while each path text is looked up. -/
  during : String → Resolver.Interruption

/-- How the documents of a batch are examined. -/
inductive Schedule where
  /-- One after the other. -/
  | inOrder
  /-- At the same time, with what the others ask while each document is examined, by its position. -/
  | atOnce (meanwhile : Nat → Meanwhile)

namespace Rule

/-- Does the rule hold for a document, while others are at work with the same memo? -/
def holdsAmong (rule : Rule Path.Memo) (settings : Settings) (others : Meanwhile) (document : Json) :
    StateM Path.Memo Bool := do
  let _ ← (Evaluator.ofSettings settings).resolver.answerAll others.before
  rule.holds (.among settings others.during) document

/-- Does the rule hold for each document of a batch?  The results are in the order of the documents. -/
def results (rule : Rule Path.Memo) (settings : Settings) (schedule : Schedule) (memo : Path.Memo)
    (documents : List Json) : List Bool :=
  match schedule with
  | .inOrder => ((rule.batch (.ofSettings settings) documents).run memo).1
  | .atOnce meanwhile => documents.mapIdx fun i document =>
    ((rule.holdsAmong settings (meanwhile i) document).run memo).1

end Rule

end Verdict
