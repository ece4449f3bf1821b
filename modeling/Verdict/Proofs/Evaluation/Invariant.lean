import Verdict.Proofs.Evaluation.Agreement

/-!
# What holds throughout an evaluation

Whatever is done with a session comes down to two kinds of steps: a path text is referred to, and a
function that is called puts another world in place of the one behind the resolver.  So what both
steps preserve, an `Invariant`, holds of a session however it is used.  There may be a condition on
the worlds that functions enter, `allowed`; it is not on anything else that they do.
-/

namespace Verdict

variable {σ α β : Type} {env : Environment σ} {allowed : σ → σ → Prop} {inv : Session σ → Prop}

/-- The two kinds of steps preserve the property. -/
structure Invariant (env : Environment σ) (allowed : σ → σ → Prop) (inv : Session σ → Prop) :
    Prop where
  reference : ∀ session text, inv session → inv (env.reference text session).2
  enter : ∀ session w, allowed session.world w → inv session → inv { session with world := w }

/-- The computation preserves the property. -/
def Keeps (inv : Session σ → Prop) (m : Evaluation σ α) : Prop :=
  ∀ session, inv session → inv (m session).2

theorem keeps_pure (a : α) : Keeps inv (pure a : Evaluation σ α) :=
  fun _ h => h

theorem Keeps.bind {m : Evaluation σ α} {f : α → Evaluation σ β} (hm : Keeps inv m)
    (hf : ∀ a, Keeps inv (f a)) : Keeps inv (m >>= f) :=
  fun session h => hf (m session).1 (m session).2 (hm session h)

/-! ### Operands -/

/-- However the operand is looked at, the property is preserved. -/
structure Meaning.Keeps (inv : Session σ → Prop) (a : Meaning σ) : Prop where
  number : ∀ default, Verdict.Keeps inv (a.number default)
  boolean : ∀ default, Verdict.Keeps inv (a.boolean default)
  string : ∀ default, Verdict.Keeps inv (a.string default)
  object : Verdict.Keeps inv a.object

namespace Meaning

theorem keeps_ofLiteral (l : Literal) : (ofLiteral l).Keeps inv where
  number _ := keeps_pure _
  boolean _ := keeps_pure _
  string _ := keeps_pure _
  object := keeps_pure _

theorem keeps_ofPath {text : String} (lookup : Verdict.Keeps inv (env.reference text)) :
    (ofPath env text).Keeps inv where
  number _ := lookup.bind fun _ => keeps_pure _
  boolean _ := lookup.bind fun _ => keeps_pure _
  string _ := lookup.bind fun _ => keeps_pure _
  object := lookup.bind fun _ => keeps_pure _

theorem keeps_ofEvaluation {m : Evaluation σ (Meaning σ)} (hm : Verdict.Keeps inv m)
    (h : ∀ session, inv session → (m session).1.Keeps inv) : (ofEvaluation m).Keeps inv where
  number default session here := (h session here).number default _ (hm session here)
  boolean default session here := (h session here).boolean default _ (hm session here)
  string default session here := (h session here).string default _ (hm session here)
  object session here := (h session here).object _ (hm session here)

theorem keeps_ofAnswer {arguments : List (Meaning σ)} (given : ∀ a ∈ arguments, a.Keeps inv)
    {answer : Answer}
    (lookup : ∀ text, answer = .path text → Verdict.Keeps inv (env.reference text)) :
    (ofAnswer env arguments answer).Keeps inv := by
  cases answer with
  | literal l => exact keeps_ofLiteral l
  | path text => exact keeps_ofPath (lookup text rfl)
  | argument i =>
    rw [ofAnswer]
    cases h : arguments[i]? with
    | some a => exact given a (List.mem_of_getElem? h)
    | none => exact keeps_ofLiteral .null

end Meaning

/-! ### Procedures -/

/-- If the request puts a world in place of another one, that is allowed. -/
def Request.Enters (allowed : σ → σ → Prop) (world : σ) : Request σ → Prop
  | .enter w => allowed world w
  | _ => True

/-- Each world that the procedure puts in place of another one, when it runs in the session with the
given arguments, is allowed there. -/
def Procedure.Enters (allowed : σ → σ → Prop) (env : Environment σ) (arguments : List (Meaning σ)) :
    Procedure σ α → Session σ → Prop
  | .done _, _ => True
  | .ask request next, session =>
    request.Enters allowed session.world ∧
      (next (request.perform env arguments session).1).Enters allowed env arguments
        (request.perform env arguments session).2

section Run

variable {arguments : List (Meaning σ)}

theorem keeps_argument {look : Meaning σ → Evaluation σ α} (i : Nat) (default : α)
    (given : ∀ a ∈ arguments, Keeps inv (look a)) :
    Keeps inv (match arguments[i]? with
      | some a => look a
      | none => fun session => (default, session)) := by
  cases h : arguments[i]? with
  | some a => exact given a (List.mem_of_getElem? h)
  | none => exact keeps_pure default

theorem Request.keeps_perform (given : ∀ a ∈ arguments, a.Keeps inv) (request : Request σ)
    {session : Session σ} (lookup : ∀ text, request = .path text → inv (env.reference text session).2)
    (enter : ∀ w, request = .enter w → inv { session with world := w }) (h : inv session) :
    inv (request.perform env arguments session).2 := by
  cases request with
  | number i default =>
    exact keeps_argument i default (fun a mem => (given a mem).number default) session h
  | boolean i default =>
    exact keeps_argument i default (fun a mem => (given a mem).boolean default) session h
  | string i default =>
    exact keeps_argument i default (fun a mem => (given a mem).string default) session h
  | object i => exact keeps_argument i .null (fun a mem => (given a mem).object) session h
  | path text => exact lookup text rfl
  | enter w => exact enter w rfl
  | arguments => exact h
  | document => exact h
  | settings => exact h
  | statistics => exact h
  | world => exact h

theorem Procedure.keeps_run (steps : Invariant env allowed inv)
    (given : ∀ a ∈ arguments, a.Keeps inv) (p : Procedure σ α) {session : Session σ}
    (enters : p.Enters allowed env arguments session) (h : inv session) :
    inv (p.run env arguments session).2 := by
  -- `enters` speaks of the replies that are given in this session, so it follows the run
  induction p generalizing session with
  | done a => exact h
  | ask request next ih =>
    have referred (text : String) := steps.reference session text h
    refine ih _ enters.2 (request.keeps_perform given (fun text _ => referred text) ?_ h)
    rintro w rfl
    exact steps.enter session w enters.1 h

end Run

/-! ### Calls -/

namespace Operand

/-- Each world that a function in the operand puts in place of another one is allowed there. -/
inductive Enters (allowed : σ → σ → Prop) (env : Environment σ) : Operand σ → Prop
  | literal (l : Literal) : Enters allowed env (.literal l)
  | path (text : String) : Enters allowed env (.path text)
  | call {name : String} {arguments : List (Operand σ)} {returns : Kind}
      {implementation : Implementation σ} (inside : ∀ a ∈ arguments, Enters allowed env a)
      (body : ∀ session, implementation.body.Enters allowed env (meanings env arguments) session) :
      Enters allowed env (.call name arguments returns implementation)

theorem keeps_meaning (steps : Invariant env allowed inv) {a : Operand σ}
    (enters : a.Enters allowed env) : (a.meaning env).Keeps inv := by
  induction enters with
  | literal l => exact Meaning.keeps_ofLiteral l
  | path text => exact Meaning.keeps_ofPath fun session => steps.reference session text
  | @call name arguments returns implementation inside body ih =>
    have given : ∀ a ∈ meanings env arguments, a.Keeps inv := by
      intro a mem
      obtain ⟨o, here, rfl⟩ := mem_meanings mem
      exact ih o here
    refine Meaning.keeps_ofEvaluation (fun session h => ?_) fun session h => ?_
    · exact implementation.body.keeps_run steps given (body session) h
    · exact Meaning.keeps_ofAnswer given fun text _ session => steps.reference session text

theorem keeps_invoke (steps : Invariant env allowed inv) {a : Operand σ}
    (enters : a.Enters allowed env) : Keeps inv (a.invoke env) := by
  cases enters with
  | literal l => exact keeps_pure _
  | path text => exact keeps_pure _
  | @call name arguments returns implementation inside body =>
    intro session h
    refine implementation.body.keeps_run steps ?_ (body session) h
    intro a mem
    obtain ⟨o, here, rfl⟩ := mem_meanings mem
    exact keeps_meaning steps (inside o here)

end Operand

/-! ### Conditions -/

theorem keeps_compare {a b : Meaning σ} (ha : a.Keeps inv) (hb : b.Keeps inv) (op : Comparison) :
    Keeps inv (op.evaluate a b) := by
  obtain ⟨test, evaluates, -⟩ | ⟨test, evaluates, -⟩ := op.evaluate_cases a b
  · rw [evaluates]
    exact ha.object.bind fun _ => hb.object.bind fun _ => keeps_pure _
  · rw [evaluates]
    exact (ha.number 0.0).bind fun _ => (hb.number 0.0).bind fun _ => keeps_pure _

namespace Condition

theorem keeps_evaluateUntil {items : List (Condition (Operand σ))}
    (each : ∀ x ∈ items, Keeps inv (x.evaluate env)) (verdict : Bool) :
    Keeps inv (evaluateUntil env verdict items) := by
  induction items with
  | nil => exact keeps_pure _
  | cons x items ih =>
    rw [evaluateUntil]
    refine (each x (by simp)).bind fun b => ?_
    split
    · exact keeps_pure _
    · exact ih fun y mem => each y (List.mem_cons_of_mem x mem)

/-- Deciding a condition preserves what looking at its operands does. -/
theorem keeps_of_operands {c : Condition (Operand σ)}
    (each : c.Forall fun a => (a.meaning env).Keeps inv) : Keeps inv (c.evaluate env) := by
  induction each with
  | all inside ih =>
    rw [evaluate_all]
    exact keeps_evaluateUntil ih false
  | any inside ih =>
    rw [evaluate_any]
    exact keeps_evaluateUntil ih true
  | and left right ihx ihy =>
    rw [evaluate]
    exact ihx.bind fun _ => ihy.bind fun _ => keeps_pure _
  | or left right ihx ihy =>
    rw [evaluate]
    exact ihx.bind fun _ => ihy.bind fun _ => keeps_pure _
  | not inside ih =>
    rw [evaluate]
    exact ih.bind fun _ => keeps_pure _
  | compare left right =>
    rw [evaluate]
    exact keeps_compare left right _
  | operand only =>
    rw [evaluate]
    exact only.boolean false

theorem keeps_evaluate (steps : Invariant env allowed inv) {c : Condition (Operand σ)}
    (enters : c.Forall (Operand.Enters allowed env)) : Keeps inv (c.evaluate env) :=
  keeps_of_operands (enters.mono fun _ h => Operand.keeps_meaning steps h)

end Condition

/-! ### Uses of a session -/

namespace Use

/-- Each world that a function called puts in place of another one is allowed there. -/
def Enters (allowed : σ → σ → Prop) (env : Environment σ) : Use σ → Prop
  | number a _ => a.Enters allowed env
  | boolean a _ => a.Enters allowed env
  | string a _ => a.Enters allowed env
  | object a => a.Enters allowed env
  | invoke a => a.Enters allowed env
  | evaluate c => c.Forall (Operand.Enters allowed env)

theorem keeps_run (steps : Invariant env allowed inv) {use : Use σ}
    (enters : use.Enters allowed env) {session : Session σ} (h : inv session) :
    inv (use.run env session) := by
  have looked_at (a : Operand σ) (enters : a.Enters allowed env) :=
    Operand.keeps_meaning steps enters
  cases use with
  | number a default => exact (looked_at a enters).number default session h
  | boolean a default => exact (looked_at a enters).boolean default session h
  | string a default => exact (looked_at a enters).string default session h
  | object a => exact (looked_at a enters).object session h
  | invoke a => exact Operand.keeps_invoke steps enters session h
  | evaluate c => exact Condition.keeps_evaluate steps enters session h

end Use

/-- What both kinds of steps preserve holds of a session however it is used. -/
theorem Session.keeps_after (steps : Invariant env allowed inv) {uses : List (Use σ)}
    (enters : ∀ use ∈ uses, use.Enters allowed env) {session : Session σ} (h : inv session) :
    inv (session.after env uses) := by
  induction uses generalizing session with
  | nil => exact h
  | cons use uses ih =>
    exact ih (fun other mem => enters other (List.mem_cons_of_mem use mem))
      (use.keeps_run steps (enters use (by simp)) h)

/-! ### Functions of any kind -/

theorem Procedure.enters_any (arguments : List (Meaning σ)) (p : Procedure σ α)
    (session : Session σ) : p.Enters (fun _ _ => True) env arguments session := by
  induction p generalizing session with
  | done a => trivial
  | ask request next ih => exact ⟨by cases request <;> trivial, ih _ _⟩

theorem Operand.enters_any (a : Operand σ) : a.Enters (fun _ _ => True) env := by
  induction a using Operand.induction with
  | literal l => exact .literal l
  | path text => exact .path text
  | call name arguments returns implementation ih =>
    exact .call ih (implementation.body.enters_any _)

theorem Condition.forall_of_forall {p : α → Prop} (h : ∀ a, p a) (c : Condition α) :
    c.Forall p := by
  induction c using Condition.induction with
  | all items ih => exact .all ih
  | any items ih => exact .any ih
  | and x y ihx ihy => exact .and ihx ihy
  | or x y ihx ihy => exact .or ihx ihy
  | not x ih => exact .not ih
  | compare op a b => exact .compare (h a) (h b)
  | operand a => exact .operand (h a)

theorem Use.enters_any (use : Use σ) : use.Enters (fun _ _ => True) env := by
  cases use with
  | evaluate c => exact c.forall_of_forall Operand.enters_any
  | _ => exact Operand.enters_any _

end Verdict
