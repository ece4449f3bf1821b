import Verdict.Proofs.Evaluation.Reference
import Verdict.Proofs.Evaluation.Resolver

/-!
# What a session remembers

A session is faithful when each answer that it remembers, an absence included, is the one that the
resolver gives at any time.  `Ensures m post` says that a computation leaves faithful sessions
faithful and comes to a result with the property `post`; it is proved for one lookup, and from there
for whatever is built of lookups.  The world behind the resolver only has to stay among those, the
sound ones, in which the resolver answers as it should.
-/

namespace Verdict

variable {σ α β : Type}

/-- Everything remembered is what `look` gives. -/
structure Session.Faithful (sound : σ → Prop) (look : String → Option Json) (session : Session σ) :
    Prop where
  cache : ∀ entry ∈ session.cache, entry.2 = look entry.1
  world : sound session.world

/-- The computation keeps sessions faithful, and its result has the property. -/
def Ensures (sound : σ → Prop) (look : String → Option Json) (m : Evaluation σ α)
    (post : α → Prop) : Prop :=
  ∀ session : Session σ, session.Faithful sound look →
    post (m session).1 ∧ (m session).2.Faithful sound look

variable {sound : σ → Prop} {look : String → Option Json} {m : Evaluation σ α} {post : α → Prop}

theorem Session.faithful_start {world : σ} (h : sound world) :
    (Session.start world).Faithful sound look :=
  ⟨by simp [Session.start], h⟩

/-! ### Computations -/

theorem ensures_pure {a : α} (h : post a) :
    Ensures sound look (pure a : Evaluation σ α) post :=
  fun _ faithful => ⟨h, faithful⟩

theorem Ensures.bind {f : α → Evaluation σ β} {goal : β → Prop} (hm : Ensures sound look m post)
    (hf : ∀ a, post a → Ensures sound look (f a) goal) : Ensures sound look (m >>= f) goal := by
  intro session faithful
  obtain ⟨ha, faithful⟩ := hm session faithful
  exact hf _ ha _ faithful

theorem Ensures.mono {goal : α → Prop} (hm : Ensures sound look m post)
    (h : ∀ a, post a → goal a) : Ensures sound look m goal := by
  intro session faithful
  obtain ⟨ha, faithful⟩ := hm session faithful
  exact ⟨h _ ha, faithful⟩

/-- A lookup gives what the resolver answers, whether it is remembered or not. -/
theorem ensures_reference {env : Environment σ} {look : Json → String → Option Json}
    (resolves : env.resolver.Pure sound look) (text : String) :
    Ensures sound (look env.document) (env.reference text) (· = look env.document text) := by
  intro session faithful
  cases h : session.cache.lookup text with
  | some answer =>
    rw [Environment.reference_of_lookup_some h]
    obtain ⟨before, after, split, -⟩ := List.lookup_eq_some_iff.1 h
    have mem : (text, answer) ∈ session.cache := by simp [split]
    exact ⟨faithful.cache _ mem, faithful.cache, faithful.world⟩
  | none =>
    have answers := resolves.answers env.document text _ faithful.world
    rw [Environment.reference_of_lookup_none h]
    refine ⟨answers, fun entry mem => ?_, resolves.stays _ _ _ faithful.world⟩
    rcases List.mem_append.1 mem with mem | mem
    · exact faithful.cache entry mem
    · rw [List.mem_singleton.1 mem]
      exact answers

/-! ### Operands -/

/-- However the operand is looked at, sessions stay faithful; and if it stands for a known literal,
it is looked at as that literal is. -/
structure Meaning.Denotes (sound : σ → Prop) (look : String → Option Json) (a : Meaning σ)
    (known : Option Literal) : Prop where
  number : ∀ default, Ensures sound look (a.number default)
    fun x => ∀ l ∈ known, x = l.number?.getD default
  boolean : ∀ default, Ensures sound look (a.boolean default)
    fun b => ∀ l ∈ known, b = l.bool?.getD default
  string : ∀ default, Ensures sound look (a.string default)
    fun s => ∀ l ∈ known, s = l.string?.getD default
  object : Ensures sound look a.object fun m => ∀ l ∈ known, m = l

namespace Meaning

variable {known : Option Literal} {a : Meaning σ}

theorem Denotes.forget (h : a.Denotes sound look known) : a.Denotes sound look none where
  number default := (h.number default).mono (by simp)
  boolean default := (h.boolean default).mono (by simp)
  string default := (h.string default).mono (by simp)
  object := h.object.mono (by simp)

theorem denotes_ofLiteral (l : Literal) : (ofLiteral l).Denotes sound look (some l) where
  number _ := ensures_pure (by simp)
  boolean _ := ensures_pure (by simp)
  string _ := ensures_pure (by simp)
  object := ensures_pure (by simp)

theorem number?_literalOf (v : Option Json) : (literalOf v).number? = v.bind Json.number? := by
  rcases v with _ | v
  · rfl
  · cases v <;> rfl

theorem bool?_literalOf (v : Option Json) : (literalOf v).bool? = v.bind Json.bool? := by
  rcases v with _ | v
  · rfl
  · cases v <;> rfl

theorem string?_literalOf (v : Option Json) : (literalOf v).string? = v.bind Json.string? := by
  rcases v with _ | v
  · rfl
  · cases v <;> rfl

theorem denotes_ofPath {env : Environment σ} {look : Json → String → Option Json}
    (resolves : env.resolver.Pure sound look) (text : String) :
    (ofPath env text).Denotes sound (look env.document)
      (some (literalOf (look env.document text))) := by
  have lookup := ensures_reference resolves text
  constructor
  · intro default
    refine lookup.bind fun v hv => ensures_pure ?_
    simp [hv, number?_literalOf]
  · intro default
    refine lookup.bind fun v hv => ensures_pure ?_
    simp [hv, bool?_literalOf]
  · intro default
    refine lookup.bind fun v hv => ensures_pure ?_
    simp [hv, string?_literalOf]
  · refine lookup.bind fun v hv => ensures_pure ?_
    simp [hv]

theorem denotes_ofEvaluation {m : Evaluation σ (Meaning σ)}
    (h : Ensures sound look m fun a => a.Denotes sound look known) :
    (ofEvaluation m).Denotes sound look known where
  number default := h.bind fun _ ha => ha.number default
  boolean default := h.bind fun _ ha => ha.boolean default
  string default := h.bind fun _ ha => ha.string default
  object := h.bind fun _ ha => ha.object

end Meaning

/-! ### Procedures -/

/-- The request puts a sound world in place of the one behind the resolver, if any. -/
def Request.Respects (sound : σ → Prop) : Request σ → Prop
  | .enter w => sound w
  | _ => True

/-- The reply hands out a sound world, if any. -/
def Request.Allows (sound : σ → Prop) : (request : Request σ) → request.Reply → Prop
  | .world, w => sound w
  | _, _ => True

/-- Whatever the replies, the procedure enters no world but sound ones. -/
def Procedure.Respects (sound : σ → Prop) : Procedure σ α → Prop
  | .done _ => True
  | .ask request next =>
    request.Respects sound ∧ ∀ reply, request.Allows sound reply → (next reply).Respects sound

section Run

variable {env : Environment σ} {arguments : List (Meaning σ)}

theorem Request.ensures_perform {look : Json → String → Option Json}
    (resolves : env.resolver.Pure sound look)
    (given : ∀ a ∈ arguments, a.Denotes sound (look env.document) none) (request : Request σ)
    (respects : request.Respects sound) :
    Ensures sound (look env.document) (request.perform env arguments) (request.Allows sound) := by
  have argument {i : Nat} {a : Meaning σ} (h : arguments[i]? = some a) :=
    given a (List.mem_of_getElem? h)
  cases request with
  | number i default =>
    rw [Request.perform]
    split
    · rename_i a h
      exact ((argument h).number default).mono fun _ _ => trivial
    · exact ensures_pure trivial
  | boolean i default =>
    rw [Request.perform]
    split
    · rename_i a h
      exact ((argument h).boolean default).mono fun _ _ => trivial
    · exact ensures_pure trivial
  | string i default =>
    rw [Request.perform]
    split
    · rename_i a h
      exact ((argument h).string default).mono fun _ _ => trivial
    · exact ensures_pure trivial
  | object i =>
    rw [Request.perform]
    split
    · rename_i a h
      exact (argument h).object.mono fun _ _ => trivial
    · exact ensures_pure trivial
  | path text => exact (ensures_reference resolves text).mono fun _ _ => trivial
  | world => exact fun session faithful => ⟨faithful.world, faithful⟩
  | enter w => exact fun session faithful => ⟨trivial, faithful.cache, respects⟩
  | arguments => exact ensures_pure trivial
  | document => exact ensures_pure trivial
  | settings => exact ensures_pure trivial
  | statistics => exact fun session faithful => ⟨trivial, faithful⟩

theorem Procedure.ensures_run {look : Json → String → Option Json}
    (resolves : env.resolver.Pure sound look)
    (given : ∀ a ∈ arguments, a.Denotes sound (look env.document) none) (p : Procedure σ α)
    (respects : p.Respects sound) :
    Ensures sound (look env.document) (p.run env arguments) fun _ => True := by
  induction p with
  | done a => exact ensures_pure trivial
  | ask request next ih =>
    exact (request.ensures_perform resolves given respects.1).bind fun reply allowed =>
      ih reply (respects.2 reply allowed)

end Run

end Verdict
