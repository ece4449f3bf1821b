import Verdict.Proofs.Evaluation.Invariant

/-!
# The journal of a session

The journal of a session tells all references, one after the other.  The session is `Exact` when the
cache and the counters are what the journal says: the resolver was asked about a text just when it was
referred to for the first time, the cache holds these first answers, and every other reference got the
first answer again.  Referring to a text keeps a session exact, for any resolver, whatever it answers;
and so a session is exact however it is used, for any functions, whatever they do.
-/

namespace Verdict

variable {σ : Type} {env : Environment σ} {session : Session σ} {text : String}

namespace Session

/-- The texts that the resolver was asked about, in order. -/
def asked (session : Session σ) : List String :=
  (session.journal.filter Reference.asked).map Reference.text

/-- The cache and the counters are what the journal tells. -/
structure Exact (session : Session σ) : Prop where
  cache : session.cache =
    (session.journal.filter Reference.asked).map fun r => (r.text, r.answer)
  lookups : session.lookups = session.cache.length
  references : session.lookups + session.hits = session.journal.length
  once : (session.cache.map Prod.fst).Nodup
  answers : ∀ r ∈ session.journal, session.cache.lookup r.text = some r.answer
  first : ∀ before r, before ++ [r] <+: session.journal →
    (r.asked = true ↔ r.text ∉ before.map Reference.text)

theorem Exact.start (world : σ) : (start world).Exact where
  cache := rfl
  lookups := rfl
  references := rfl
  once := .nil
  answers := by simp [Session.start]
  first := by simp [Session.start]

namespace Exact

theorem map_fst_cache (h : session.Exact) : session.cache.map Prod.fst = session.asked := by
  rw [h.cache, List.map_map, asked]
  rfl

theorem nodup_asked (h : session.Exact) : session.asked.Nodup :=
  h.map_fst_cache ▸ h.once

theorem length_asked (h : session.Exact) : session.lookups = session.asked.length := by
  rw [h.lookups, ← h.map_fst_cache, List.length_map]

/-- The texts that are not in the cache are those that were never referred to. -/
theorem lookup_eq_none_iff (h : session.Exact) :
    session.cache.lookup text = none ↔ text ∉ session.journal.map Reference.text := by
  constructor
  · intro missing mem
    obtain ⟨r, here, rfl⟩ := List.mem_map.1 mem
    simpa [missing] using h.answers r here
  · intro new
    refine List.lookup_eq_none_iff.2 fun entry mem => ?_
    rw [h.cache] at mem
    obtain ⟨r, here, rfl⟩ := List.mem_map.1 mem
    have told : r.text ∈ session.journal.map Reference.text :=
      List.mem_map.2 ⟨r, (List.mem_filter.1 here).1, rfl⟩
    exact bne_iff_ne.2 fun same => new (same ▸ told)

/-- A reference gets the first answer to its text again, or else what the resolver answers now. -/
theorem answer_reference (h : session.Exact) (env : Environment σ) (text : String) :
    (env.reference text session).1 =
      match session.journal.find? fun r => r.text == text with
      | some r => r.answer
      | none => ((env.resolver.resolve env.document text).run session.world).1 := by
  cases told : session.journal.find? fun r => r.text == text with
  | some r =>
    have same : (r.text == text) = true := by
      simpa using List.find?_some told
    have found := h.answers r (List.mem_of_find?_eq_some told)
    rw [eq_of_beq same] at found
    rw [Environment.reference_of_lookup_some found]
  | none =>
    have new : text ∉ session.journal.map Reference.text := by
      simpa using told
    rw [Environment.reference_of_lookup_none (h.lookup_eq_none_iff.2 new)]
    rfl

/-- A reference can be told next if it says whether it is the first one to its text. -/
theorem first_append (h : session.Exact) {next : Reference}
    (right : next.asked = true ↔ next.text ∉ session.journal.map Reference.text) :
    ∀ before r, before ++ [r] <+: session.journal ++ [next] →
      (r.asked = true ↔ r.text ∉ before.map Reference.text) := by
  intro before r front
  rcases List.prefix_concat_iff.1 front with whole | front
  · obtain ⟨rfl, last⟩ := List.append_inj' whole rfl
    rw [List.singleton_inj.1 last]
    exact right
  · exact h.first before r front

theorem reference (h : session.Exact) (env : Environment σ) (text : String) :
    (env.reference text session).2.Exact := by
  cases found : session.cache.lookup text with
  | some answer =>
    rw [Environment.reference_of_lookup_some found]
    have known : text ∈ session.journal.map Reference.text :=
      Decidable.of_not_not fun new => by simp [h.lookup_eq_none_iff.2 new] at found
    refine ⟨?_, h.lookups, ?_, h.once, ?_, h.first_append (by simpa using known)⟩
    · simpa using h.cache
    · simpa [← Nat.add_assoc] using h.references
    · intro r mem
      rcases List.mem_append.1 mem with mem | mem
      · exact h.answers r mem
      · rw [List.mem_singleton.1 mem]
        exact found
  | none =>
    rw [Environment.reference_of_lookup_none found]
    have new := h.lookup_eq_none_iff.1 found
    -- which answer it is, and in which world it leaves the resolver, is of no account
    obtain ⟨answer, world⟩ := (env.resolver.resolve env.document text).run session.world
    refine ⟨?_, ?_, ?_, ?_, ?_, h.first_append (by simpa using new)⟩
    · simp [h.cache]
    · simp [h.lookups]
    · have references := h.references
      simp only [List.length_append, List.length_singleton]
      omega
    · have other : ∀ entry ∈ session.cache, entry.1 ≠ text := by
        simpa [ne_comm] using List.lookup_eq_none_iff.1 found
      simpa [List.nodup_append, h.once] using fun key value mem => other (key, value) mem
    · intro r mem
      simp only [List.lookup_append]
      rcases List.mem_append.1 mem with mem | mem
      · rw [h.answers r mem]
        rfl
      · rw [List.mem_singleton.1 mem, found]
        simp

end Exact

end Session

/-! ### All uses -/

theorem invariant_exact (env : Environment σ) :
    Invariant env (fun _ _ => True) Session.Exact where
  reference _ text h := h.reference env text
  enter _ _ _ h := ⟨h.cache, h.lookups, h.references, h.once, h.answers, h.first⟩

/-- Nothing is taken from the cache and from the journal, and nothing in them changes. -/
theorem invariant_extension (env : Environment σ) (cache : List (String × Option Json))
    (journal : List Reference) :
    Invariant env (fun _ _ => True) fun session =>
      cache <+: session.cache ∧ journal <+: session.journal where
  reference session text h := by
    cases found : session.cache.lookup text with
    | some answer =>
      rw [Environment.reference_of_lookup_some found]
      exact ⟨h.1, h.2.trans (List.prefix_append _ _)⟩
    | none =>
      rw [Environment.reference_of_lookup_none found]
      exact ⟨h.1.trans (List.prefix_append _ _), h.2.trans (List.prefix_append _ _)⟩
  enter _ _ _ h := h

/-- Whatever the world shows of the texts that the resolver is asked about, it shows the texts of the
journal, as long as no function that is called changes what it shows. -/
theorem invariant_view {β : Type} {view : σ → β} {note : β → String → β}
    (notes : ∀ text world, view ((env.resolver.resolve env.document text).run world).2 =
      note (view world) text) (start : β) :
    Invariant env (fun world w => view w = view world) fun session =>
      view session.world = session.asked.foldl note start where
  reference session text h := by
    cases found : session.cache.lookup text with
    | some answer =>
      rw [Environment.reference_of_lookup_some found]
      simpa [Session.asked] using h
    | none =>
      have told := notes text session.world
      rw [Environment.reference_of_lookup_none found]
      rcases reply : (env.resolver.resolve env.document text).run session.world with ⟨answer, world⟩
      rw [reply] at told
      simpa [Session.asked, h] using told
  enter _ _ same h := same.trans h

/-- However a session is used, and whatever the resolver and the functions do: the resolver is asked
about a text just when it is referred to for the first time, and so once at most; every other
reference gets that first answer.  The counters are exact, for a resolver that counts or records what
it is asked shows the same, unless a function changes what it shows; and nothing in the cache ever
changes. -/
theorem references_are_exact (env : Environment σ) (world : σ) (uses later : List (Use σ)) :
    let session := (Session.start world).after env uses
    let last := session.after env later
    ((∀ before r, before ++ [r] <+: session.journal →
        (r.asked = true ↔ r.text ∉ before.map Reference.text)) ∧
      session.asked.Nodup) ∧
    ((∀ r ∈ session.journal, ∀ r' ∈ last.journal, r'.text = r.text → r'.answer = r.answer) ∧
      ∀ text,
        (env.reference text session).1 =
          (match session.journal.find? fun r => r.text == text with
          | some r => r.answer
          | none => ((env.resolver.resolve env.document text).run session.world).1) ∧
        (env.reference text session).2 = session.after env [.object (.path text)]) ∧
    (session.statistics.lookups = session.statistics.cached ∧
      session.statistics.lookups = session.asked.length ∧
      session.statistics.lookups + session.statistics.hits = session.journal.length) ∧
    (∀ count : σ → Nat,
      (∀ text w, count ((env.resolver.resolve env.document text).run w).2 = count w + 1) →
      (∀ use ∈ uses, use.Enters (fun w w' => count w' = count w) env) →
      count session.world = count world + session.statistics.lookups) ∧
    (∀ record : σ → List String,
      (∀ text w, record ((env.resolver.resolve env.document text).run w).2 = record w ++ [text]) →
      (∀ use ∈ uses, use.Enters (fun w w' => record w' = record w) env) →
      record session.world = record world ++ session.asked) ∧
    session.cache <+: last.cache ∧ session.journal <+: last.journal := by
  intro session last
  have exact : session.Exact :=
    Session.keeps_after (invariant_exact env) (fun use _ => use.enters_any) (.start world)
  have still : last.Exact :=
    Session.keeps_after (invariant_exact env) (fun use _ => use.enters_any) exact
  have grows : session.cache <+: last.cache ∧ session.journal <+: last.journal :=
    Session.keeps_after (invariant_extension env session.cache session.journal)
      (fun use _ => use.enters_any) ⟨List.prefix_rfl, List.prefix_rfl⟩
  refine ⟨⟨exact.first, exact.nodup_asked⟩,
    ⟨?again, fun text => ⟨exact.answer_reference env text, rfl⟩⟩,
    ⟨exact.lookups, exact.length_asked, exact.references⟩, ?count, ?record, grows⟩
  case again =>
    -- both answers are the one in the cache at last, for the journal so far is still in the last one
    intro r mem r' mem' same
    have first := still.answers r (grows.2.subset mem)
    have now := still.answers r' mem'
    rw [same, first] at now
    exact (Option.some.inj now).symm
  case count =>
    intro count counts enters
    have shown : count session.world = session.asked.foldl (fun n _ => n + 1) (count world) :=
      Session.keeps_after (invariant_view counts _) enters rfl
    rw [shown, List.foldl_add_const, Nat.one_mul, ← exact.length_asked]
    rfl
  case record =>
    intro record records enters
    have shown : record session.world =
        session.asked.foldl (fun texts text => texts ++ [text]) (record world) :=
      Session.keeps_after (invariant_view records _) enters rfl
    rw [shown, List.foldl_append_eq_append, ← List.flatMap_def, List.flatMap_singleton']

theorem references_are_exact_of_shifting :
    let inner : Resolver (Nat × List String) :=
      ⟨"shifting", fun _ text w => (some (.number (.whole w.1)), (w.1 + 1, w.2 ++ [text]))⟩
    let env : Environment ((Nat × List String) × Nat) := ⟨⟨.default, inner.counting⟩, .null⟩
    let shift : Operand ((Nat × List String) × Nat) := .call "shift" [] .any ⟨"shift",
      .ask .world fun w => .ask (.enter ((w.1.1 + 7, w.1.2), w.2)) fun _ => .done (.path "$.a")⟩
    let uses : List (Use ((Nat × List String) × Nat)) :=
      [.number shift 0.0, .object (.path "$.b"), .evaluate (.compare .equal (.path "$.a") shift)]
    let session := (Session.start ((0, []), 0)).after env uses
    ((∀ text w, ((env.resolver.resolve env.document text).run w).2.2 = w.2 + 1) ∧
      (∀ text w, ((env.resolver.resolve env.document text).run w).2.1.2 = w.1.2 ++ [text]) ∧
      (∀ use ∈ uses, use.Enters (fun w w' => w'.2 = w.2) env) ∧
      ∀ use ∈ uses, use.Enters (fun w w' => w'.1.2 = w.1.2) env) ∧
    session.world.2 = 0 + session.statistics.lookups ∧ session.world.1.2 = [] ++ session.asked ∧
    session.statistics = ⟨2, 2, 2⟩ ∧ session.asked = ["$.a", "$.b"] := by
  intro inner env shift uses session
  have enters (allowed : (Nat × List String) × Nat → (Nat × List String) × Nat → Prop)
      (here : ∀ w : (Nat × List String) × Nat, allowed w ((w.1.1 + 7, w.1.2), w.2)) :
      ∀ use ∈ uses, use.Enters allowed env := by
    have call : shift.Enters allowed env :=
      .call (fun a mem => absurd mem List.not_mem_nil) fun session => ⟨trivial, here _, trivial⟩
    intro use mem
    simp only [uses, List.mem_cons, List.not_mem_nil, or_false] at mem
    rcases mem with rfl | rfl | rfl
    · exact call
    · exact .path "$.b"
    · exact .compare (.path "$.a") call
  have counts := enters (fun w w' => w'.2 = w.2) fun _ => rfl
  have records := enters (fun w w' => w'.1.2 = w.1.2) fun _ => rfl
  obtain ⟨-, -, -, count, record, -⟩ := references_are_exact env ((0, []), 0) uses []
  exact ⟨⟨fun _ _ => rfl, fun _ _ => rfl, counts, records⟩,
    count Prod.snd (fun _ _ => rfl) counts, record (fun w => w.1.2) (fun _ _ => rfl) records,
    by rfl, by rfl⟩

end Verdict
