import Verdict.Proofs.Evaluation.Journal
import Verdict.Proofs.Evaluation.Paths
import Mathlib.Data.Finset.Card

/-!
# The lookups of an evaluation

A condition refers to the paths that stand in it, from left to right; only a list of conditions may
leave some of them out, those behind the condition that decides it.  If the answers of the resolver
depend on nothing else, then `Condition.references` says which paths remain, and `examine_of_pure`
what is found and counted.  For any other resolver there are bounds, `references_follow_the_text`.
-/

namespace Verdict

variable {σ α β : Type} {env : Environment σ} {allowed : σ → σ → Prop} {inv : Session σ → Prop}

/-! ### Paths in conditions -/

namespace Condition

mutual

/-- The path texts in a condition, from left to right. -/
def paths : Condition (Operand σ) → List String
  | .all items => pathsAll items
  | .any items => pathsAll items
  | .and x y => x.paths ++ y.paths
  | .or x y => x.paths ++ y.paths
  | .not x => x.paths
  | .compare _ a b => a.paths ++ b.paths
  | .operand a => a.paths

/-- The path texts in conditions, from left to right. -/
def pathsAll : List (Condition (Operand σ)) → List String
  | [] => []
  | x :: items => x.paths ++ pathsAll items

end

/-- Is there no list of conditions in the condition? -/
def isStrict {α : Type} : Condition α → Bool
  | .all _ => false
  | .any _ => false
  | .and x y => x.isStrict && y.isStrict
  | .or x y => x.isStrict && y.isStrict
  | .not x => x.isStrict
  | .compare _ _ _ => true
  | .operand _ => true

mutual

/-- The path texts that are referred to when the condition is decided, in order. -/
def references (look : String → Option Json) : Condition (Operand σ) → List String
  | .all items => referencesUntil look false items
  | .any items => referencesUntil look true items
  | .and x y => x.references look ++ y.references look
  | .or x y => x.references look ++ y.references look
  | .not x => x.references look
  | .compare _ a b => a.paths ++ b.paths
  | .operand a => a.paths

/-- The path texts that are referred to when conditions are decided, up to the first one of the given
verdict. -/
def referencesUntil (look : String → Option Json) (verdict : Bool) :
    List (Condition (Operand σ)) → List String
  | [] => []
  | x :: items =>
    x.references look ++ if x.holds look = verdict then [] else referencesUntil look verdict items

end

end Condition

/-! ### Conditions -/

theorem refers_compare {a b : Meaning σ} {texts texts' : List String} (ha : a.RefersTo inv texts)
    (hb : b.RefersTo inv texts') (op : Comparison) :
    Refers inv (op.evaluate a b) fun _ ts => ts = texts ++ texts' := by
  have both {γ δ : Type} {m : Evaluation σ γ} {n : Evaluation σ δ} (test : γ → δ → Bool)
      (hm : Refers inv m fun _ ts => ts = texts) (hn : Refers inv n fun _ ts => ts = texts') :
      Refers inv (do let x ← m; let y ← n; return test x y) fun _ ts => ts = texts ++ texts' :=
    hm.bind fun _ ts hts => hn.bind fun _ us hus => refers_pure (by simp [hts, hus])
  obtain ⟨test, evaluates, -⟩ | ⟨test, evaluates, -⟩ := op.evaluate_cases a b
  · rw [evaluates]
    exact both test ha.object hb.object
  · rw [evaluates]
    exact both test (ha.number 0.0) (hb.number 0.0)

/-- Conditions behind one of the given verdict are left out. -/
theorem refers_within_evaluateUntil {items : List (Condition (Operand σ))}
    (each : ∀ x ∈ items, Refers inv (x.evaluate env) fun _ ts => ts.Sublist x.paths) (verdict : Bool) :
    Refers inv (Condition.evaluateUntil env verdict items)
      fun _ ts => ts.Sublist (Condition.pathsAll items) := by
  induction items with
  | nil => exact refers_pure .slnil
  | cons x items ih =>
    rw [Condition.evaluateUntil, Condition.pathsAll]
    refine (each x (by simp)).bind fun b ts hts => ?_
    split
    · exact refers_pure (by simpa using hts.trans (List.sublist_append_left _ _))
    · exact (ih fun y mem => each y (List.mem_cons_of_mem x mem)).mono fun _ us hus => hts.append hus

/-- Whatever the resolver answers, no path is referred to more often than it stands in the condition,
and none out of order; and without lists none is left out. -/
theorem refers_within_evaluate (steps : Invariant env allowed inv) {c : Condition (Operand σ)}
    (bound : c.Forall Operand.Bound) :
    Refers inv (c.evaluate env) fun _ ts =>
      ts.Sublist c.paths ∧ (c.isStrict = true → ts = c.paths) := by
  have whole {α : Type} {m : Evaluation σ α} {paths : List String} {strict : Prop}
      (h : Refers inv m fun _ ts => ts = paths) :
      Refers inv m fun _ ts => ts.Sublist paths ∧ (strict → ts = paths) :=
    h.mono fun _ ts hts => ⟨hts ▸ List.Sublist.refl _, fun _ => hts⟩
  have sides {x y : Condition (Operand σ)} {f : Bool → Bool → Bool}
      (hx : Refers inv (x.evaluate env) fun _ ts =>
        ts.Sublist x.paths ∧ (x.isStrict = true → ts = x.paths))
      (hy : Refers inv (y.evaluate env) fun _ ts =>
        ts.Sublist y.paths ∧ (y.isStrict = true → ts = y.paths)) :
      Refers inv (do let a ← x.evaluate env; let b ← y.evaluate env; return f a b) fun _ ts =>
        ts.Sublist (x.paths ++ y.paths) ∧
          ((x.isStrict && y.isStrict) = true → ts = x.paths ++ y.paths) := by
    refine hx.bind fun _ ts hts => hy.bind fun _ us hus => refers_pure ?_
    rw [List.append_nil]
    refine ⟨hts.1.append hus.1, fun strict => ?_⟩
    rw [Bool.and_eq_true] at strict
    rw [hts.2 strict.1, hus.2 strict.2]
  induction bound with
  | all inside ih =>
    rw [Condition.evaluate_all, Condition.paths]
    exact (refers_within_evaluateUntil (fun x mem => (ih x mem).mono fun _ _ h => h.1) false).mono
      fun _ _ h => ⟨h, Bool.noConfusion⟩
  | any inside ih =>
    rw [Condition.evaluate_any, Condition.paths]
    exact (refers_within_evaluateUntil (fun x mem => (ih x mem).mono fun _ _ h => h.1) true).mono
      fun _ _ h => ⟨h, Bool.noConfusion⟩
  | and left right ihx ihy =>
    rw [Condition.evaluate, Condition.paths, Condition.isStrict]
    exact sides ihx ihy
  | or left right ihx ihy =>
    rw [Condition.evaluate, Condition.paths, Condition.isStrict]
    exact sides ihx ihy
  | not inside ih =>
    rw [Condition.evaluate, Condition.paths, Condition.isStrict]
    exact ih.bind fun _ _ hts => refers_pure (by simpa using hts)
  | compare left right =>
    rw [Condition.evaluate, Condition.paths]
    exact whole (refers_compare (Operand.refersTo_meaning steps left)
      (Operand.refersTo_meaning steps right) _)
  | operand only =>
    rw [Condition.evaluate, Condition.paths]
    exact whole ((Operand.refersTo_meaning steps only).boolean false)

section Pure

variable {sound : σ → Prop} {look : Json → String → Option Json}

theorem invariant_faithful (resolves : env.resolver.Pure sound look) :
    Invariant env (fun _ w => sound w) (Session.Faithful sound (look env.document)) where
  reference session text here := (ensures_reference resolves text session here).2
  enter _ _ allowed here := ⟨here.cache, allowed⟩

theorem Refers.and_ensures {look : String → Option Json} {m : Evaluation σ α}
    {post : α → List String → Prop} {goal : α → Prop}
    (hm : Refers (Session.Faithful sound look) m post) (h : Ensures sound look m goal) :
    Refers (Session.Faithful sound look) m fun a ts => goal a ∧ post a ts := by
  intro session here
  obtain ⟨there, ts, told, ha⟩ := hm session here
  exact ⟨there, ts, told, (h session here).1, ha⟩

/-- Conditions are decided in order, up to the first one of the given verdict. -/
theorem refers_evaluateUntil {look : String → Option Json} {items : List (Condition (Operand σ))}
    (each : ∀ x ∈ items, Refers inv (x.evaluate env)
      fun b ts => b = x.holds look ∧ ts = x.references look) (verdict : Bool) :
    Refers inv (Condition.evaluateUntil env verdict items)
      fun _ ts => ts = Condition.referencesUntil look verdict items := by
  induction items with
  | nil => exact refers_pure rfl
  | cons x items ih =>
    rw [Condition.evaluateUntil, Condition.referencesUntil]
    refine (each x (by simp)).bind ?_
    rintro _ _ ⟨rfl, rfl⟩
    split
    · exact refers_pure rfl
    · refine (ih fun y mem => each y (List.mem_cons_of_mem x mem)).mono ?_
      rintro _ _ rfl
      rfl

/-- If the answers of the resolver depend on nothing else, then so does which paths are referred to. -/
theorem refers_evaluate (resolves : env.resolver.Pure sound look) {c : Condition (Operand σ)}
    (bound : c.Forall Operand.Bound) :
    Refers (Session.Faithful sound (look env.document)) (c.evaluate env) fun b ts =>
      b = c.holds (look env.document) ∧ ts = c.references (look env.document) := by
  have comes_out {c : Condition (Operand σ)} (bound : c.Forall Operand.Bound) :=
    Condition.ensures_holds resolves bound
  have steps := invariant_faithful resolves
  suffices Refers (Session.Faithful sound (look env.document)) (c.evaluate env) fun _ ts =>
      ts = c.references (look env.document) from this.and_ensures (comes_out bound)
  induction bound with
  | all inside ih =>
    rw [Condition.evaluate_all, Condition.references]
    exact refers_evaluateUntil (fun x mem => (ih x mem).and_ensures (comes_out (inside x mem))) false
  | any inside ih =>
    rw [Condition.evaluate_any, Condition.references]
    exact refers_evaluateUntil (fun x mem => (ih x mem).and_ensures (comes_out (inside x mem))) true
  | and left right ihx ihy =>
    rw [Condition.evaluate, Condition.references]
    exact ihx.bind fun _ _ hts => ihy.bind fun _ _ hus => refers_pure (by simp [hts, hus])
  | or left right ihx ihy =>
    rw [Condition.evaluate, Condition.references]
    exact ihx.bind fun _ _ hts => ihy.bind fun _ _ hus => refers_pure (by simp [hts, hus])
  | not inside ih =>
    rw [Condition.evaluate, Condition.references]
    exact ih.bind fun _ _ hts => refers_pure (by simp [hts])
  | compare left right =>
    rw [Condition.evaluate, Condition.references]
    exact refers_compare (Operand.refersTo_meaning steps left)
      (Operand.refersTo_meaning steps right) _
  | operand only =>
    rw [Condition.evaluate, Condition.references]
    exact (Operand.refersTo_meaning steps only).boolean false

end Pure

/-! ### Counters -/

/-- The resolver was asked about the texts in the order in which they were first referred to. -/
theorem Session.Exact.asked_eq {session : Session σ} (h : session.Exact) :
    session.asked = session.texts.eraseDups := by
  have told (journal : List Reference) (first : ∀ before r, before ++ [r] <+: journal →
      (r.asked = true ↔ r.text ∉ before.map Reference.text)) :
      (journal.filter Reference.asked).map Reference.text =
        (journal.map Reference.text).eraseDups := by
    induction journal using List.reverseRecOn with
    | nil => rfl
    | append_singleton journal r ih =>
      have new := first journal r List.prefix_rfl
      have before := ih fun front r' h => first front r' (h.trans (List.prefix_append _ _))
      rw [List.filter_append, List.map_append, List.map_append, List.eraseDups_append, before]
      by_cases asked : r.asked = true
      · simp [asked, List.removeAll, List.eraseDups_cons, new.1 asked, -List.mem_map]
      · simp [asked, List.removeAll, Decidable.not_not.1 (mt new.2 asked), -List.mem_map]
  exact told session.journal h.first

theorem Session.Exact.lookups_eq {session : Session σ} (h : session.Exact) :
    session.lookups = session.texts.toFinset.card := by
  have same : session.texts.toFinset = session.asked.toFinset := by
    ext text
    simp [h.asked_eq]
  rw [h.length_asked, same, List.toFinset_card_of_nodup h.nodup_asked]

/-- What is found by an examination that refers to these texts. -/
def Finding.ofReferences (holds : Bool) (texts : List String) : Finding where
  holds := holds
  lookups := texts.toFinset.card
  hits := texts.length - texts.toFinset.card

theorem Finding.lookups_add_hits (holds : Bool) (texts : List String) :
    (ofReferences holds texts).lookups + (ofReferences holds texts).hits = texts.length :=
  Nat.add_sub_cancel' (List.toFinset_card_le texts)

namespace Evaluator

variable {e : Evaluator σ} {root : Condition (Operand σ)} {document : Json} {world : σ}

/-- The session in which a document is examined, when everything is decided. -/
def sessionAfter (e : Evaluator σ) (root : Condition (Operand σ)) (document : Json) (world : σ) :
    Session σ :=
  (root.evaluate { e with document } (.start world)).2

theorem exact_sessionAfter : (e.sessionAfter root document world).Exact :=
  Condition.keeps_evaluate (invariant_exact _) (root.forall_of_forall Operand.enters_any) _
    (.start world)

/-- What is counted depends on the references alone. -/
theorem examine_eq :
    (e.examine root document world).1 =
      .ofReferences (root.evaluate { e with document } (.start world)).1
        (e.sessionAfter root document world).texts := by
  have exact : (e.sessionAfter root document world).Exact := exact_sessionAfter
  have references := exact.references
  have texts : (e.sessionAfter root document world).texts.length =
      (e.sessionAfter root document world).journal.length := List.length_map _
  have hits : (e.sessionAfter root document world).texts.length -
      (e.sessionAfter root document world).lookups = (e.sessionAfter root document world).hits := by
    omega
  rw [Finding.ofReferences, ← exact.lookups_eq, hits]
  rfl

/-- If the answers of the resolver depend on nothing else, then so does what is found. -/
theorem examine_of_pure {sound : σ → Prop} {look : Json → String → Option Json}
    (resolves : e.resolver.Pure sound look) (here : sound world)
    (bound : root.Forall Operand.Bound) :
    (e.sessionAfter root document world).texts = root.references (look document) ∧
      (e.examine root document world).1 =
        .ofReferences (root.holds (look document)) (root.references (look document)) := by
  let env : Environment σ := { e with document }
  have pure : env.resolver.Pure sound look := resolves
  obtain ⟨-, texts, told, holds, rfl⟩ :=
    refers_evaluate pure bound (.start world) (Session.faithful_start here)
  have all : (e.sessionAfter root document world).texts = root.references (look document) := told
  rw [examine_eq, all]
  exact ⟨rfl, congrArg (Finding.ofReferences · _) holds⟩

/-- What is remembered of how path texts read does not show in what is found. -/
theorem examine_ofSettings (settings : Settings) {root : Condition (Operand Path.Memo)}
    (bound : root.Forall Operand.Bound) (document : Json) {memo : Path.Memo} (sound : memo.Sound) :
    ((ofSettings settings).examine root document memo).1 =
      .ofReferences (root.holds (Resolver.target settings.jsonPointerPaths document))
        (root.references (Resolver.target settings.jsonPointerPaths document)) :=
  (examine_of_pure (Resolver.pure_jsonPath _ _) sound bound).2

end Evaluator

/-! ### Any resolver -/

/-- The functions that every rule can call leave the world as it is. -/
theorem enters_builtin {f : Function σ} (mem : f ∈ Function.builtins)
    (arguments : List (Meaning σ)) (session : Session σ) :
    f.implementation.body.Enters allowed env arguments session := by
  simp only [Function.builtins, List.mem_cons, List.not_mem_nil, or_false] at mem
  rcases mem with rfl | rfl | rfl | rfl | rfl | rfl | rfl | rfl | rfl | rfl | rfl | rfl | rfl | rfl
  all_goals first
    | exact ⟨trivial, trivial⟩
    | exact ⟨trivial, trivial, trivial⟩

theorem Operand.Bound.enters {a : Operand σ} (bound : a.Bound) : a.Enters allowed env := by
  induction bound with
  | literal l => exact .literal l
  | path text => exact .path text
  | call inside made ih =>
    obtain ⟨f, mem, -, rfl⟩ := call_of_bind made
    exact .call ih (enters_builtin mem _)

/-- A resolver that records what it is asked has recorded the texts that are looked up. -/
theorem Evaluator.record_sessionAfter {e : Evaluator σ} {root : Condition (Operand σ)}
    (bound : root.Forall Operand.Bound) {document : Json} {record : σ → List String}
    (records : ∀ text w,
      record ((e.resolver.resolve document text).run w).2 = record w ++ [text]) (world : σ) :
    record (e.sessionAfter root document world).world =
      record world ++ (e.sessionAfter root document world).asked := by
  have enters : root.Forall
      (Operand.Enters (fun w w' => record w' = record w) { e with document }) :=
    bound.mono fun _ h => h.enters
  have shown : record (e.sessionAfter root document world).world =
      (e.sessionAfter root document world).asked.foldl (fun texts text => texts ++ [text])
        (record world) :=
    Condition.keeps_evaluate (invariant_view records _) enters (.start world) rfl
  rw [shown, List.foldl_append_eq_append, ← List.flatMap_def, List.flatMap_singleton']

/-- The references of an evaluation are some of the paths that stand in the condition, in the order in
which they stand there.  The resolver is asked about each of them once, in the order of the first
references.  If there is no list in the condition, all paths are referred to, and the counters can be
told from the condition alone. -/
theorem references_follow_the_text (e : Evaluator σ) {root : Condition (Operand σ)}
    (bound : root.Forall Operand.Bound) (document : Json) (world : σ) :
    let session := e.sessionAfter root document world
    let finding := (e.examine root document world).1
    session.texts.Sublist root.paths ∧
    session.asked = session.texts.eraseDups ∧
    (∀ record : σ → List String,
      (∀ text w, record ((e.resolver.resolve document text).run w).2 = record w ++ [text]) →
      record session.world = record world ++ session.texts.eraseDups) ∧
    (root.isStrict = true →
      session.texts = root.paths ∧ finding.lookups = root.paths.toFinset.card ∧
        finding.hits = root.paths.length - root.paths.toFinset.card) := by
  intro session finding
  have exact : session.Exact := Evaluator.exact_sessionAfter
  obtain ⟨-, texts, told, within, strict⟩ :=
    refers_within_evaluate (invariant_exact { e with document }) bound (.start world) (.start world)
  have all : session.texts = texts := told
  refine ⟨all ▸ within, exact.asked_eq, fun record records => ?_, fun h => ?_⟩
  · rw [← exact.asked_eq]
    exact Evaluator.record_sessionAfter bound records world
  · have whole : session.texts = root.paths := all.trans (strict h)
    have counted : finding = .ofReferences _ session.texts := Evaluator.examine_eq
    rw [counted, whole]
    exact ⟨rfl, rfl, rfl⟩

theorem references_follow_the_text_of_shifting :
    let e : Evaluator (Nat × List String) := ⟨.default,
      ⟨"shifting", fun _ text w => (some (.number (.whole w.1)), (w.1 + 1, w.2 ++ [text]))⟩⟩
    let call : Operand (Nat × List String) :=
      .call "str.starts_with" [.path "$.b", .path "$.a"] .boolean
        ⟨"str.starts_with", Function.onTexts fun s t => t.isPrefixOf s⟩
    let root : Condition (Operand (Nat × List String)) :=
      .and (.not (.operand call)) (.compare .less (.path "$.a") (.literal .null))
    let session := e.sessionAfter root .null (0, [])
    let finding := (e.examine root .null (0, [])).1
    (root.Forall Operand.Bound ∧ root.isStrict = true ∧
      ∀ text w, ((e.resolver.resolve .null text).run w).2.2 = w.2 ++ [text]) ∧
    session.texts = ["$.b", "$.a", "$.a"] ∧ session.world.2 = ["$.b", "$.a"] ∧
      finding.lookups = 2 ∧ finding.hits = 1 := by
  intro e call root session finding
  have made : Registry.default.bind "str.starts_with" [.path "$.b", .path "$.a"] = .ok call := by rfl
  have bound : root.Forall Operand.Bound := by
    refine .and (.not (.operand (.call (fun a mem => ?_) made)))
      (.compare (.path _) (.literal _))
    rcases List.mem_cons.1 mem with rfl | mem
    · exact .path _
    · rw [List.mem_singleton.1 mem]
      exact .path _
  obtain ⟨-, -, record, strict⟩ := references_follow_the_text e bound .null (0, [])
  obtain ⟨texts, lookups, hits⟩ := strict rfl
  refine ⟨⟨bound, rfl, fun _ _ => rfl⟩, texts, ?_, lookups, hits⟩
  rw [record Prod.snd fun _ _ => rfl, texts]
  decide

end Verdict
