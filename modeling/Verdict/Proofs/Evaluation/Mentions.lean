import Verdict.Proofs.Evaluation.Lookups

/-!
# The texts that an evaluation mentions

A path text that is looked up while a condition is decided stands in the condition, or else a function
that is called asks for it or answers with it.  So what holds of all those texts holds of each text in
the journal, `told_of_mentions`.  The functions that every rule can call mention none themselves.
-/

namespace Verdict

variable {σ : Type} {env : Environment σ} {known : String → Prop}

/-! ### Functions -/

/-- If the request is for a path, its text is known. -/
def Request.Mentions (known : String → Prop) : Request σ → Prop
  | .path text => known text
  | _ => True

/-- If the answer is whatever a path refers to, its text is known. -/
def Answer.Mentions (known : String → Prop) : Answer → Prop
  | .path text => known text
  | _ => True

/-- The procedure asks for known paths only, and answers with no others, whatever its requests are
answered with. -/
def Procedure.Mentions (known : String → Prop) : Procedure σ Answer → Prop
  | .done answer => answer.Mentions known
  | .ask request next => request.Mentions known ∧ ∀ reply, (next reply).Mentions known

theorem Procedure.Mentions.mono {known' : String → Prop} {p : Procedure σ Answer}
    (h : p.Mentions known) (wider : ∀ text, known text → known' text) : p.Mentions known' := by
  induction p with
  | done answer =>
    cases answer with
    | path text => exact wider text h
    | _ => trivial
  | ask request next ih =>
    refine ⟨?_, fun reply => ih reply (h.2 reply)⟩
    cases request with
    | path text => exact wider text h.1
    | _ => trivial

/-- The functions that every rule can call mention no paths. -/
theorem mentions_builtin {f : Function σ} (mem : f ∈ Function.builtins) :
    f.implementation.body.Mentions fun _ => False := by
  simp only [Function.builtins, List.mem_cons, List.not_mem_nil, or_false] at mem
  rcases mem with rfl | rfl | rfl | rfl | rfl | rfl | rfl | rfl | rfl | rfl | rfl | rfl | rfl | rfl
  all_goals first
    | exact ⟨trivial, fun _ => trivial⟩
    | exact ⟨trivial, fun _ => ⟨trivial, fun _ => trivial⟩⟩

/-! ### Operands -/

/-- The path texts in the operand are known, and the functions that are called mention no others. -/
inductive Operand.Mentions (known : String → Prop) : Operand σ → Prop
  | literal (l : Literal) : Mentions known (.literal l)
  | path {text : String} (here : known text) : Mentions known (.path text)
  | call {name : String} {arguments : List (Operand σ)} {returns : Kind}
      {implementation : Implementation σ} (inside : ∀ a ∈ arguments, Mentions known a)
      (body : implementation.body.Mentions known) :
      Mentions known (.call name arguments returns implementation)

/-- Each text that was referred to so far is known. -/
def Session.Told (known : String → Prop) (session : Session σ) : Prop :=
  ∀ text ∈ session.texts, known text

theorem keeps_reference {text : String} (here : known text) :
    Keeps (Session.Told known) (env.reference text) := by
  intro session told other mem
  have steps : Invariant env (fun _ _ => True) fun _ => True :=
    ⟨fun _ _ _ => trivial, fun _ _ _ _ => trivial⟩
  obtain ⟨-, _, texts, rfl⟩ := refers_reference steps text session trivial
  rw [texts, List.mem_append, List.mem_singleton] at mem
  rcases mem with mem | rfl
  · exact told other mem
  · exact here

theorem Procedure.keeps_told {arguments : List (Meaning σ)}
    (given : ∀ a ∈ arguments, a.Keeps (Session.Told known)) {p : Procedure σ Answer}
    (mentions : p.Mentions known) {session : Session σ} (told : session.Told known) :
    (p.run env arguments session).2.Told known ∧
      (p.run env arguments session).1.Mentions known := by
  induction p generalizing session with
  | done answer => exact ⟨told, mentions⟩
  | ask request next ih =>
    refine ih _ (mentions.2 _) (request.keeps_perform given ?_ (fun _ _ => told) told)
    rintro text rfl
    exact keeps_reference mentions.1 session told

theorem Operand.keeps_told {a : Operand σ} (mentions : a.Mentions known) :
    (a.meaning env).Keeps (Session.Told known) := by
  induction mentions with
  | literal l => exact Meaning.keeps_ofLiteral l
  | path here => exact Meaning.keeps_ofPath (keeps_reference here)
  | @call name arguments returns implementation inside body ih =>
    have given : ∀ a ∈ meanings env arguments, a.Keeps (Session.Told known) := by
      intro a mem
      obtain ⟨o, here, rfl⟩ := mem_meanings mem
      exact ih o here
    refine Meaning.keeps_ofEvaluation (fun session told => ?_) fun session told => ?_
    · exact (Procedure.keeps_told given body told).1
    · -- what the body answers with is looked up each time the call is looked at
      have answered : (implementation.body.run env (meanings env arguments) session).1.Mentions known :=
        (Procedure.keeps_told given body told).2
      refine Meaning.keeps_ofAnswer given fun text same => keeps_reference ?_
      rw [same] at answered
      exact answered

/-! ### Evaluations -/

/-- What is known of all texts that a condition mentions is known of each text that is looked up when
the condition is decided about a document. -/
theorem Evaluator.told_of_mentions (e : Evaluator σ) {root : Condition (Operand σ)}
    (mentions : root.Forall (Operand.Mentions known)) (document : Json) (world : σ) :
    (e.sessionAfter root document world).Told known :=
  Condition.keeps_of_operands (mentions.mono fun _ h => Operand.keeps_told h) (.start world)
    (by simp [Session.Told, Session.texts, Session.start])

end Verdict
