import Verdict.Evaluation.Batch
import Verdict.Proofs.Evaluation.Lookups
import Verdict.Proofs.Resolver.Sharing

/-!
# Batches of documents

All documents of a batch are examined with one memo, which was used before for other conditions about
other documents, and which others may be using at the same time.  How much is remembered, and what, is
different each time; what is found is not.  An evaluation, whatever functions it calls, leads the memo
where asking the resolver leads, and so it stays sound.
-/

namespace Verdict

variable {σ : Type} {sound : σ → Prop} {look : Json → String → Option Json}

/-! ### Worlds -/

/-- If every look at a path leads the world where asking a resolver leads, and every function that
is called as well, then so does a whole evaluation. -/
theorem invariant_leads {env : Environment σ} {asked : Resolver σ}
    (leads : ∀ text world, asked.Leads world ((env.resolver.resolve env.document text).run world).2)
    (start : σ) :
    Invariant env asked.Leads fun session => asked.Leads start session.world where
  reference session text led := by
    cases found : session.cache.lookup text with
    | some answer =>
      rw [Environment.reference_of_lookup_some found]
      exact led
    | none =>
      rw [Environment.reference_of_lookup_none found]
      exact led.trans (leads text session.world)
  enter _ _ entered led := led.trans entered

namespace Evaluator

variable {e : Evaluator σ} {root : Condition (Operand σ)}

/-- A document is decided as if there were no world, and the world stays sound. -/
theorem holds_of_pure (resolves : e.resolver.Pure sound look) (bound : root.Forall Operand.Bound)
    (document : Json) {world : σ} (here : sound world) :
    ((e.holds root document).run world).1 = root.holds (look document) ∧
      sound ((e.holds root document).run world).2 := by
  let env : Environment σ := { e with document }
  have pure : env.resolver.Pure sound look := resolves
  obtain ⟨holds, faithful⟩ :=
    Condition.ensures_holds pure bound (.start world) (Session.faithful_start here)
  exact ⟨holds, faithful.world⟩

/-- Each document of a batch is decided as if there were no other one. -/
theorem batch_of_pure (resolves : e.resolver.Pure sound look) (bound : root.Forall Operand.Bound)
    (documents : List Json) {world : σ} (here : sound world) :
    ((e.batch root documents).run world).1 =
      documents.map fun document => root.holds (look document) := by
  induction documents generalizing world with
  | nil => rfl
  | cons document documents ih =>
    obtain ⟨first, stays⟩ := holds_of_pure resolves bound document here
    rw [List.map_cons, ← first, ← ih stays]
    rfl

end Evaluator

/-! ### Documents at the same time -/

theorem Evaluator.among_none (settings : Settings) :
    Evaluator.among settings (fun _ => .none) = .ofSettings settings := by
  rw [among, ofSettings, Resolver.among_none]

theorem Rule.run_holdsAmong (rule : Rule Path.Memo) (settings : Settings) (others : Meanwhile)
    (document : Json) (memo : Path.Memo) :
    (rule.holdsAmong settings others document).run memo =
      (rule.holds (.among settings others.during) document).run
        (((Evaluator.ofSettings settings).resolver.answerAll others.before).run memo).2 := rfl

/-- However the documents of a batch are examined, each comes out as it does alone on a new evaluator. -/
theorem Rule.results_eq_map_alone (settings : Settings) (schedule : Schedule) {rule : Rule Path.Memo}
    (bound : rule.root.Forall Operand.Bound) {memo : Path.Memo} (here : memo.Sound)
    (documents : List Json) :
    rule.results settings schedule memo documents =
      documents.map fun document => ((rule.holds (.ofSettings settings) document).run .empty).1 := by
  have resolves : (Evaluator.ofSettings settings).resolver.Pure Path.Memo.Sound
      (Resolver.target settings.jsonPointerPaths) := Resolver.pure_jsonPath _ _
  have alone (document : Json) : ((rule.holds (.ofSettings settings) document).run .empty).1 =
      rule.root.holds (Resolver.target settings.jsonPointerPaths document) :=
    (Evaluator.holds_of_pure resolves bound document Path.Memo.sound_empty).1
  simp only [alone]
  cases schedule with
  | inOrder => exact Evaluator.batch_of_pure resolves bound documents here
  | atOnce meanwhile =>
    refine List.ext_getElem (by simp [Rule.results]) fun i _ _ => ?_
    simp only [Rule.results, List.getElem_mapIdx, List.getElem_map, Rule.run_holdsAmong]
    have asked := resolves.sound_of_leads here (Resolver.leads_answerAll (meanwhile i).before memo)
    exact (Evaluator.holds_of_pure (e := .among settings (meanwhile i).during) Resolver.pure_among bound
      _ asked).1

/-! ### Used evaluators -/

/-- What was examined: any condition, about any document, and what others asked in the meantime. -/
structure Examination where
  condition : Condition (Operand Path.Memo)
  document : Json
  others : String → Resolver.Interruption

/-- The functions that are called change the memo only by asking the resolver. -/
def Examination.Lawful (settings : Settings) (past : Examination) : Prop :=
  past.condition.Forall (Operand.Enters (Evaluator.ofSettings settings).resolver.Leads
    { Evaluator.among settings past.others with document := past.document })

/-- The memo behind an examination. -/
def Examination.remembered (settings : Settings) (memo : Path.Memo) (past : Examination) : Path.Memo :=
  (((Evaluator.among settings past.others).examine past.condition past.document).run memo).2

/-- An evaluator with all that it was used for since it was made. -/
structure UsedEvaluator where
  settings : Settings
  history : List Examination
  lawful : ∀ past ∈ history, past.Lawful settings

namespace UsedEvaluator

/-- What stays the same. -/
def evaluator (used : UsedEvaluator) : Evaluator Path.Memo :=
  .ofSettings used.settings

/-- The memo as its history left it. -/
def memo (used : UsedEvaluator) : Path.Memo :=
  used.history.foldl (Examination.remembered used.settings) .empty

end UsedEvaluator

theorem Examination.Lawful.leads {settings : Settings} {past : Examination}
    (lawful : past.Lawful settings) (memo : Path.Memo) :
    (Evaluator.ofSettings settings).resolver.Leads memo (past.remembered settings memo) :=
  Condition.keeps_evaluate (invariant_leads (fun text => Resolver.leads_among past.document text) memo)
    lawful (.start memo) (Resolver.leads_refl memo)

/-- The memo is sound, whatever the evaluator was used for. -/
theorem UsedEvaluator.sound_memo (used : UsedEvaluator) : used.memo.Sound := by
  have resolves := Resolver.pure_jsonPath used.settings.jsonPointerPaths
    used.settings.compiledPathCapacity
  obtain ⟨settings, history, lawful⟩ := used
  refine List.foldlRecOn history _ Path.Memo.sound_empty fun memo here past mem => ?_
  exact resolves.sound_of_leads here ((lawful past mem).leads memo)

/-- Two used evaluators may differ in what they were used for and in how much they remember.  As long
as they agree on whether JSON Pointers are allowed, a rule comes out the same on both, for each
document of a batch as for this document alone on a new evaluator, and with the same lookups and hits;
and so it does while others are at work with the same memo.  Documents in another order, or only some
of them, or some of them more than once, come out in that order. -/
theorem examinations_are_independent (x y : UsedEvaluator) (fresh : Settings)
    (agree : ∀ used ∈ [x, y], used.settings.jsonPointerPaths = fresh.jsonPointerPaths)
    {rule : Rule Path.Memo} (bound : rule.root.Forall Operand.Bound) (documents : List Json) :
    let new := Evaluator.ofSettings fresh
    let alone document := ((new.examine rule.root document).run .empty).1
    let results := documents.map fun document => ((rule.holds new document).run .empty).1
    ∀ used ∈ [x, y],
      ((rule.batch used.evaluator documents).run used.memo).1 = results ∧
      (∀ document, ((used.evaluator.examine rule.root document).run used.memo).1 = alone document) ∧
      (∀ document others,
        (((Evaluator.among used.settings others).examine rule.root document).run used.memo).1 =
          alone document) ∧
      ∀ order : List Nat,
        ((rule.batch used.evaluator (order.filterMap (documents[·]?))).run used.memo).1 =
          order.filterMap (results[·]?) := by
  intro new alone results used mem
  have resolves : new.resolver.Pure Path.Memo.Sound (Resolver.target fresh.jsonPointerPaths) :=
    Resolver.pure_jsonPath _ _
  have among (others : String → Resolver.Interruption) :
      (Evaluator.among used.settings others).resolver.Pure Path.Memo.Sound
        (Resolver.target fresh.jsonPointerPaths) := by
    rw [← agree used mem]
    exact Resolver.pure_among
  have examine (document : Json) (others : String → Resolver.Interruption) :
      (((Evaluator.among used.settings others).examine rule.root document).run used.memo).1 =
        alone document :=
    (Evaluator.examine_of_pure (among others) used.sound_memo bound).2.trans
      (Evaluator.examine_ofSettings fresh bound document Path.Memo.sound_empty).symm
  have batch (documents : List Json) :
      ((rule.batch used.evaluator documents).run used.memo).1 =
        documents.map fun document => ((rule.holds new document).run .empty).1 := by
    rw [Rule.batch, UsedEvaluator.evaluator, ← Evaluator.among_none,
      Evaluator.batch_of_pure (among _) bound documents used.sound_memo]
    exact List.map_congr_left fun document _ =>
      (Evaluator.holds_of_pure resolves bound document Path.Memo.sound_empty).1.symm
  refine ⟨batch documents, fun document => ?_, examine, fun order => ?_⟩
  · rw [UsedEvaluator.evaluator, ← Evaluator.among_none]
    exact examine document _
  · rw [batch, List.map_filterMap]
    exact List.filterMap_congr fun i _ => List.getElem?_map.symm

theorem examinations_are_independent_of_warm :
    let warm : Implementation Path.Memo := ⟨"warm", do
      let memo ← Procedure.world
      Procedure.enter (((Resolver.jsonPath true 1).resolve .null "$.b").run memo).2
      return .literal (.bool true)⟩
    let past : Examination := ⟨
      .and (.operand (.path "$.a")) (.operand (.call "warm" [] .boolean warm)), .null,
      fun _ => ⟨[(.null, "$.c")], []⟩⟩
    let rule : Rule Path.Memo := ⟨"$.b || $.a", .any [.operand (.path "$.b"), .operand (.path "$.a")]⟩
    let document : Json := .object [("b", .bool true)]
    ∃ x y : UsedEvaluator,
      ((∀ used ∈ [x, y], used.settings.jsonPointerPaths = true) ∧ rule.root.Forall Operand.Bound ∧
        x.history = [past] ∧ x.memo.order = ["$.b"] ∧ y.settings.compiledPathCapacity = 0) ∧
      ((rule.batch x.evaluator [.null, document]).run x.memo).1 = [false, true] ∧
      ((rule.batch y.evaluator [.null, document]).run y.memo).1 = [false, true] ∧
      ((rule.batch x.evaluator [document, .null]).run x.memo).1 = [true, false] ∧
      ((y.evaluator.examine rule.root document).run y.memo).1 = ⟨true, 1, 0⟩ := by
  intro warm past rule document
  have lawful : past.Lawful ⟨1, true, 1⟩ := by
    refine .and (.operand (.path _)) (.operand (.call (by simp) fun session => ?_))
    exact ⟨trivial, Resolver.leads_resolve .null "$.b" session.world, trivial⟩
  have order : (past.remembered ⟨1, true, 1⟩ .empty).order = ["$.b"] := by decide +kernel
  let x : UsedEvaluator := ⟨⟨1, true, 1⟩, [past], by simpa using lawful⟩
  let y : UsedEvaluator := ⟨⟨128, true, 0⟩, [], by simp⟩
  have agree : ∀ used ∈ [x, y], used.settings.jsonPointerPaths = true := by simp [x, y]
  have bound : rule.root.Forall Operand.Bound := .any (List.forall_mem_cons.2
    ⟨.operand (.path _), List.forall_mem_singleton.2 (.operand (.path _))⟩)
  have both := examinations_are_independent x y .default agree bound [.null, document]
  obtain ⟨batch, -, -, shuffled⟩ := both x (by simp)
  obtain ⟨batch', examine, -, -⟩ := both y (by simp)
  refine ⟨x, y, ⟨agree, bound, rfl, order, rfl⟩, ?_, ?_, ?_, ?_⟩
  · rw [batch]
    decide +kernel
  · rw [batch']
    decide +kernel
  · exact (shuffled [1, 0]).trans (by decide +kernel)
  · rw [examine]
    decide +kernel

end Verdict
