import Verdict.Proofs.Evaluation.Invariant
import Mathlib.Data.List.Basic

/-!
# The paths that an operand refers to

`Refers` says of a computation which path texts it refers to, one after the other.  An operand whose
calls were made by the registry that every rule has refers to just the paths that stand in it, from
left to right and each one once, `Operand.refersTo_meaning`: every function looks at each of its
arguments once, whatever it finds there.
-/

namespace Verdict

variable {σ α β : Type} {env : Environment σ} {allowed : σ → σ → Prop} {inv : Session σ → Prop}

/-! ### Paths in operands -/

namespace Operand

mutual

/-- The path texts in an operand, from left to right. -/
def paths : Operand σ → List String
  | .literal _ => []
  | .path text => [text]
  | .call _ arguments _ _ => pathsAll arguments

/-- The path texts in operands, from left to right. -/
def pathsAll : List (Operand σ) → List String
  | [] => []
  | a :: operands => a.paths ++ pathsAll operands

end

end Operand

/-! ### Computations -/

/-- The path texts that were referred to so far, in order. -/
def Session.texts (session : Session σ) : List String :=
  session.journal.map Reference.text

/-- The computation preserves the property of sessions, and `post` holds of its result and of the path
texts that it refers to, in order. -/
def Refers (inv : Session σ → Prop) (m : Evaluation σ α) (post : α → List String → Prop) : Prop :=
  ∀ session, inv session → inv (m session).2 ∧
    ∃ texts, (m session).2.texts = session.texts ++ texts ∧ post (m session).1 texts

theorem refers_pure {post : α → List String → Prop} {a : α} (h : post a []) :
    Refers inv (pure a : Evaluation σ α) post :=
  fun _ here => ⟨here, [], (List.append_nil _).symm, h⟩

theorem Refers.bind {m : Evaluation σ α} {f : α → Evaluation σ β} {post : α → List String → Prop}
    {goal : β → List String → Prop} (hm : Refers inv m post)
    (hf : ∀ a ts, post a ts → Refers inv (f a) fun b us => goal b (ts ++ us)) :
    Refers inv (m >>= f) goal := by
  intro session here
  obtain ⟨here, ts, told, ha⟩ := hm session here
  obtain ⟨here, us, told', hb⟩ := hf _ ts ha _ here
  refine ⟨here, ts ++ us, ?_, hb⟩
  rw [← List.append_assoc, ← told]
  exact told'

theorem Refers.mono {m : Evaluation σ α} {post goal : α → List String → Prop}
    (hm : Refers inv m post) (h : ∀ a ts, post a ts → goal a ts) : Refers inv m goal := by
  intro session here
  obtain ⟨here, ts, told, ha⟩ := hm session here
  exact ⟨here, ts, told, h _ ts ha⟩

theorem refers_reference (steps : Invariant env allowed inv) (text : String) :
    Refers inv (env.reference text) fun _ ts => ts = [text] := by
  intro session here
  refine ⟨steps.reference session text here, [text], ?_, rfl⟩
  cases found : session.cache.lookup text with
  | some answer =>
    rw [Environment.reference_of_lookup_some found]
    simp [Session.texts]
  | none =>
    rw [Environment.reference_of_lookup_none found]
    obtain ⟨answer, world⟩ := (env.resolver.resolve env.document text).run session.world
    simp [Session.texts]

/-! ### Operands -/

/-- However the operand is looked at, just these texts are referred to. -/
structure Meaning.RefersTo (inv : Session σ → Prop) (a : Meaning σ) (texts : List String) : Prop where
  number : ∀ default, Refers inv (a.number default) fun _ ts => ts = texts
  boolean : ∀ default, Refers inv (a.boolean default) fun _ ts => ts = texts
  string : ∀ default, Refers inv (a.string default) fun _ ts => ts = texts
  object : Refers inv a.object fun _ ts => ts = texts

namespace Meaning

theorem refersTo_ofLiteral (l : Literal) : (ofLiteral l).RefersTo inv [] where
  number _ := refers_pure rfl
  boolean _ := refers_pure rfl
  string _ := refers_pure rfl
  object := refers_pure rfl

theorem refersTo_ofPath (steps : Invariant env allowed inv) (text : String) :
    (ofPath env text).RefersTo inv [text] := by
  have then_done {γ : Type} (f : Option Json → γ) :
      Refers inv (do return f (← env.reference text)) fun _ ts => ts = [text] :=
    (refers_reference steps text).bind fun _ _ h => refers_pure (by simpa using h)
  exact {
    number := fun _ => then_done _
    boolean := fun _ => then_done _
    string := fun _ => then_done _
    object := then_done _ }

/-- What a computation comes to refers to nothing any more if it is a literal. -/
theorem refersTo_ofEvaluation {m : Evaluation σ (Meaning σ)} {texts : List String}
    (h : Refers inv m fun a ts => ts = texts ∧ ∃ l, a = ofLiteral l) :
    (ofEvaluation m).RefersTo inv texts := by
  have looked {γ : Type} (see : Meaning σ → Evaluation σ γ)
      (silent : ∀ l, Refers inv (see (ofLiteral l)) fun _ ts => ts = []) :
      Refers inv (m >>= see) fun _ ts => ts = texts := by
    refine h.bind ?_
    rintro _ ts ⟨rfl, l, rfl⟩
    exact (silent l).mono fun _ us hus => by rw [hus, List.append_nil]
  exact {
    number := fun default => looked _ fun l => (refersTo_ofLiteral l).number default
    boolean := fun default => looked _ fun l => (refersTo_ofLiteral l).boolean default
    string := fun default => looked _ fun l => (refersTo_ofLiteral l).string default
    object := looked _ fun l => (refersTo_ofLiteral l).object }

end Meaning

/-! ### Functions -/

/-- The body refers to these texts and answers with a literal. -/
def Consults (inv : Session σ → Prop) (env : Environment σ) (arguments : List (Meaning σ))
    (body : Procedure σ Answer) (texts : List String) : Prop :=
  Refers inv (body.run env arguments) fun answer ts => ts = texts ∧ ∃ l, answer = .literal l

section Bodies

variable {arguments : List (Meaning σ)} {texts texts' : List String}

/-- A function that looks at one thing. -/
theorem consults_one {p : Procedure σ α} {f : α → Answer} (literal : ∀ x, ∃ l, f x = .literal l)
    (h : Refers inv (p.run env arguments) fun _ ts => ts = texts) :
    Consults inv env arguments (do return f (← p)) texts := by
  unfold Consults
  rw [Procedure.run_bind]
  exact h.bind fun x ts hts => refers_pure ⟨by simpa using hts, literal x⟩

/-- A function that looks at one thing and then at another one. -/
theorem consults_two {p : Procedure σ α} {q : Procedure σ β} {f : α → β → Answer}
    (literal : ∀ x y, ∃ l, f x y = .literal l)
    (h : Refers inv (p.run env arguments) fun _ ts => ts = texts)
    (h' : Refers inv (q.run env arguments) fun _ ts => ts = texts') :
    Consults inv env arguments (do let x ← p; let y ← q; return f x y) (texts ++ texts') := by
  unfold Consults
  rw [Procedure.run_bind]
  refine h.bind fun x ts hts => ?_
  rw [Procedure.run_bind]
  exact h'.bind fun y us hus => refers_pure ⟨by simp [hts, hus], literal x y⟩

variable {i : Nat} {a b : Meaning σ}

theorem refers_number (there : arguments[i]? = some a) (h : a.RefersTo inv texts) :
    Refers inv ((Procedure.number i 0.0).run env arguments) fun _ ts => ts = texts := by
  rw [Procedure.run_number, there]
  exact h.number 0.0

theorem refers_string (there : arguments[i]? = some a) (h : a.RefersTo inv texts) :
    Refers inv ((Procedure.string i "").run env arguments) fun _ ts => ts = texts := by
  rw [Procedure.run_string, there]
  exact h.string ""

theorem refers_object (there : arguments[i]? = some a) (h : a.RefersTo inv texts) :
    Refers inv ((Procedure.object i).run env arguments) fun _ ts => ts = texts := by
  rw [Procedure.run_object, there]
  exact h.object

variable (ha : a.RefersTo inv texts) (hb : b.RefersTo inv texts')

include ha in
theorem consults_onNumber (f : Float → Float) :
    Consults inv env [a] (Function.onNumber f) texts :=
  consults_one (fun x => ⟨.number (f x), rfl⟩) (refers_number rfl ha)

include ha hb in
theorem consults_onNumbers (f : Float → Float → Float) :
    Consults inv env [a, b] (Function.onNumbers f) (texts ++ texts') :=
  consults_two (fun x y => ⟨.number (f x y), rfl⟩) (refers_number rfl ha) (refers_number rfl hb)

include ha in
theorem consults_onText (f : List Char → Literal) :
    Consults inv env [a] (Function.onText fun s => .literal (f s)) texts :=
  consults_one (fun s => ⟨f s.toList, rfl⟩) (refers_string rfl ha)

include ha hb in
theorem consults_onTexts (f : List Char → List Char → Bool) :
    Consults inv env [a, b] (Function.onTexts f) (texts ++ texts') :=
  consults_two (fun s t => ⟨.bool (f s.toList t.toList), rfl⟩) (refers_string rfl ha)
    (refers_string rfl hb)

include ha in
theorem consults_arrayLength : Consults inv env [a] Function.arrayLength texts :=
  consults_one (fun l => ⟨.number (Float.ofNat (Function.length l)), rfl⟩) (refers_object rfl ha)

include ha hb in
theorem consults_arrayContains : Consults inv env [a, b] Function.arrayContains (texts ++ texts') :=
  consults_two (fun l m => ⟨.bool (Function.contains l m), rfl⟩) (refers_object rfl ha)
    (refers_object rfl hb)

end Bodies

section Builtins

variable {operands : List (Operand σ)}
  (each : ∀ a ∈ operands, (a.meaning env).RefersTo inv a.paths)

include each

theorem consults_of_one {body : Procedure σ Answer} (arity : operands.length = 1)
    (h : ∀ {a : Meaning σ} {texts}, a.RefersTo inv texts → Consults inv env [a] body texts) :
    Consults inv env (Operand.meanings env operands) body (Operand.pathsAll operands) := by
  obtain ⟨a, rfl⟩ := List.length_eq_one_iff.1 arity
  simpa [Operand.pathsAll, Operand.meanings] using h (each a (by simp))

theorem consults_of_two {body : Procedure σ Answer} (arity : operands.length = 2)
    (h : ∀ {a b : Meaning σ} {texts texts'}, a.RefersTo inv texts → b.RefersTo inv texts' →
      Consults inv env [a, b] body (texts ++ texts')) :
    Consults inv env (Operand.meanings env operands) body (Operand.pathsAll operands) := by
  obtain ⟨a, b, rfl⟩ := List.length_eq_two.1 arity
  simpa [Operand.pathsAll, Operand.meanings] using h (each a (by simp)) (each b (by simp))

/-- Each function that every rule can call looks at all its arguments, once each and in order. -/
theorem consults_builtin {f : Function σ} (mem : f ∈ Function.builtins)
    (arity : operands.length = f.signature.parameters.length) :
    Consults inv env (Operand.meanings env operands) f.implementation.body
      (Operand.pathsAll operands) := by
  simp only [Function.builtins, List.mem_cons, List.not_mem_nil, or_false] at mem
  rcases mem with rfl | rfl | rfl | rfl | rfl | rfl | rfl | rfl | rfl | rfl | rfl | rfl | rfl | rfl
  · exact consults_of_one each arity fun h => consults_onNumber h _
  · exact consults_of_one each arity fun h => consults_onNumber h _
  · exact consults_of_one each arity fun h => consults_onNumber h _
  · exact consults_of_one each arity fun h => consults_onNumber h _
  · exact consults_of_two each arity fun h h' => consults_onNumbers h h' _
  · exact consults_of_two each arity fun h h' => consults_onNumbers h h' _
  · exact consults_of_one each arity fun h => consults_onText h fun s => .number (Float.ofNat s.length)
  · exact consults_of_one each arity fun h =>
      consults_onText h fun s => .string (String.ofList (Text.lower s))
  · exact consults_of_one each arity fun h =>
      consults_onText h fun s => .string (String.ofList (Text.upper s))
  · exact consults_of_two each arity fun h h' => consults_onTexts h h' fun s t => t.isPrefixOf s
  · exact consults_of_two each arity fun h h' => consults_onTexts h h' fun s t => t.isSuffixOf s
  · exact consults_of_two each arity fun h h' => consults_onTexts h h' fun s t => Text.occursIn t s
  · exact consults_of_one each arity consults_arrayLength
  · exact consults_of_two each arity consults_arrayContains

end Builtins

/-- Looking at an operand refers to the paths in it, whatever is found there. -/
theorem Operand.refersTo_meaning (steps : Invariant env allowed inv) {a : Operand σ}
    (bound : a.Bound) : (a.meaning env).RefersTo inv a.paths := by
  induction bound with
  | literal l => exact Meaning.refersTo_ofLiteral l
  | path text => exact Meaning.refersTo_ofPath steps text
  | call inside made ih =>
    obtain ⟨f, mem, arity, rfl⟩ := call_of_bind made
    refine Meaning.refersTo_ofEvaluation ((consults_builtin ih mem arity).bind ?_)
    rintro _ ts ⟨rfl, l, rfl⟩
    exact refers_pure ⟨List.append_nil _, l, rfl⟩

end Verdict
