import Verdict.Resolver
import Verdict.Function.Procedure

/-!
# Sessions

A session is the state of one evaluation of a document.  It remembers what each path text referred to
when it was first looked up, so that the resolver is asked about a text once at most, and it counts
how often it asked and how often it remembered.  A journal of all references is kept for whoever
traces an evaluation; nothing depends on it.
-/

namespace Verdict

/-- What stays the same through all evaluations. -/
structure Evaluator (σ : Type) where
  settings : Settings
  resolver : Resolver σ

/-- What stays the same through one evaluation. -/
structure Environment (σ : Type) extends Evaluator σ where
  document : Json

/-- A note in the journal: a path text was referred to. -/
structure Reference where
  text : String
  /-- What it referred to. -/
  answer : Option Json
  /-- Was the resolver asked, or was the answer remembered? -/
  asked : Bool

/-- The state of one evaluation. -/
structure Session (σ : Type) where
  /-- What each path text referred to, in the order in which they were looked up. -/
  cache : List (String × Option Json)
  /-- How many texts the resolver was asked about. -/
  lookups : Nat
  /-- How many times a text was remembered. -/
  hits : Nat
  /-- The references so far, in order. -/
  journal : List Reference
  /-- The world behind the resolver. -/
  world : σ

/-- A computation within an evaluation. -/
abbrev Evaluation (σ α : Type) : Type := StateM (Session σ) α

namespace Session

variable {σ : Type}

/-- The session before anything is looked up.  The room for as many texts as the settings prepare for is
not part of it; whether there is that room is decided where sessions are started,
`Command.Task.crash?`. -/
def start (world : σ) : Session σ :=
  ⟨[], 0, 0, [], world⟩

/-- The statistics so far. -/
def statistics (session : Session σ) : Statistics :=
  ⟨session.lookups, session.hits, session.cache.length⟩

end Session

/-- What a path text refers to: as remembered, or else as the resolver answers now. -/
def Environment.reference {σ : Type} (env : Environment σ) (text : String) :
    Evaluation σ (Option Json) :=
  fun session =>
    match session.cache.lookup text with
    | some answer =>
      (answer, { session with
        hits := session.hits + 1
        journal := session.journal ++ [⟨text, answer, false⟩] })
    | none =>
      let (answer, world) := (env.resolver.resolve env.document text).run session.world
      (answer, {
        cache := session.cache ++ [(text, answer)]
        lookups := session.lookups + 1
        hits := session.hits
        journal := session.journal ++ [⟨text, answer, true⟩]
        world := world })

namespace Environment

variable {σ : Type} {env : Environment σ} {session : Session σ} {text : String}

/-- A text that was looked up before is remembered. -/
theorem reference_of_lookup_some {answer : Option Json}
    (h : session.cache.lookup text = some answer) :
    env.reference text session = (answer, { session with
      hits := session.hits + 1
      journal := session.journal ++ [⟨text, answer, false⟩] }) := by
  rw [reference, h]

/-- A new text is looked up. -/
theorem reference_of_lookup_none (h : session.cache.lookup text = none) :
    env.reference text session =
      let (answer, world) := (env.resolver.resolve env.document text).run session.world
      (answer, ⟨session.cache ++ [(text, answer)], session.lookups + 1, session.hits,
        session.journal ++ [⟨text, answer, true⟩], world⟩) := by
  rw [reference, h]

end Environment

end Verdict
