import Verdict.Proofs.Evaluation.Agreement

/-!
# Functions that call back

A procedure may ask for its arguments and for paths, and for nothing else that is looked up.  Still a
function can look at operands of its own while it runs, invoke their calls and decide conditions over
them, `Use.run_procedure`, and it can answer with an operand of its own,
`Operand.meaning_call_settle`.  The bodies of the calls are run in place, with `Procedure.inline`,
until the operand has come down to a literal or a path.
-/

namespace Verdict

variable {σ α β : Type} {env : Environment σ}

/-! ### Sources -/

/-- What an operand comes down to when its calls have been run. -/
inductive Source where
  | literal (value : Literal)
  | path (text : String)

namespace Source

/-- The meaning of a source. -/
def meaning (env : Environment σ) : Source → Meaning σ
  | literal l => .ofLiteral l
  | path text => .ofPath env text

/-- The source as the answer of a function. -/
def answer : Source → Answer
  | literal l => .literal l
  | path text => .path text

/-- Looks at a source in the one way if it is a literal, in the other way if it is a path. -/
def view (ofLiteral : Literal → α) (ofValue : Option Json → α) : Source → Procedure σ α
  | literal l => return ofLiteral l
  | path text => do return ofValue (← Procedure.path text)

/-- A source as a number, or the default. -/
def number (default : Float) : Source → Procedure σ Float :=
  view (fun l => l.number?.getD default) fun v => (v.bind Json.number?).getD default

/-- A source as a truth value, or the default. -/
def boolean (default : Bool) : Source → Procedure σ Bool :=
  view (fun l => l.bool?.getD default) fun v => (v.bind Json.bool?).getD default

/-- A source as a string, or the default. -/
def string (default : String) : Source → Procedure σ String :=
  view (fun l => l.string?.getD default) fun v => (v.bind Json.string?).getD default

/-- A source as the literal it stands for. -/
def object : Source → Procedure σ Literal :=
  view id Meaning.literalOf

variable (s : Source) (arguments : List (Meaning σ))

theorem run_number (default : Float) :
    (s.number default).run env arguments = (s.meaning env).number default := by
  cases s <;> rfl

theorem run_boolean (default : Bool) :
    (s.boolean default).run env arguments = (s.meaning env).boolean default := by
  cases s <;> rfl

theorem run_string (default : String) :
    (s.string default).run env arguments = (s.meaning env).string default := by
  cases s <;> rfl

theorem run_object : s.object.run env arguments = (s.meaning env).object := by
  cases s <;> rfl

end Source

/-! ### Operands -/

/-- Answers the request with what these procedures come to in place of the arguments. -/
def Request.inline (operands : List (Procedure σ Source)) :
    (request : Request σ) → Procedure σ request.Reply
  | .arguments => .done operands.length
  | .number i default =>
    match operands[i]? with
    | some p => p >>= Source.number default
    | none => .done default
  | .boolean i default =>
    match operands[i]? with
    | some p => p >>= Source.boolean default
    | none => .done default
  | .string i default =>
    match operands[i]? with
    | some p => p >>= Source.string default
    | none => .done default
  | .object i =>
    match operands[i]? with
    | some p => p >>= Source.object
    | none => .done Literal.null
  | .path text => .request (.path text)
  | .document => .request .document
  | .settings => .request .settings
  | .statistics => .request .statistics
  | .world => .request .world
  | .enter w => .request (.enter w)

/-- The procedure with other procedures in place of its arguments. -/
def Procedure.inline (operands : List (Procedure σ Source)) : Procedure σ α → Procedure σ α
  | .done a => .done a
  | .ask request next => request.inline operands >>= fun reply => (next reply).inline operands

namespace Operand

/-- What an answer comes down to, if these procedures are in place of the arguments. -/
def settleAnswer (operands : List (Procedure σ Source)) : Answer → Procedure σ Source
  | .literal l => .done (.literal l)
  | .path text => .done (.path text)
  | .argument i => operands[i]?.getD (.done (.literal .null))

mutual

/-- Runs the calls that the operand comes down to, one after the other. -/
def settle : Operand σ → Procedure σ Source
  | .literal l => .done (.literal l)
  | .path text => .done (.path text)
  | .call _ arguments _ implementation =>
    let operands := settleAll arguments
    implementation.body.inline operands >>= settleAnswer operands

/-- The procedures of operands. -/
def settleAll : List (Operand σ) → List (Procedure σ Source)
  | [] => []
  | a :: operands => a.settle :: settleAll operands

end

theorem settleAll_eq_map (operands : List (Operand σ)) :
    settleAll operands = operands.map settle := by
  induction operands with
  | nil => rfl
  | cons a operands ih => rw [settleAll, ih, List.map_cons]

end Operand

/-- Whoever runs the procedure, and looks at what it comes down to, sees what the meaning says. -/
structure Procedure.Settles (env : Environment σ) (p : Procedure σ Source) (a : Meaning σ) :
    Prop where
  number : ∀ default arguments,
    (p >>= Source.number default).run env arguments = a.number default
  boolean : ∀ default arguments,
    (p >>= Source.boolean default).run env arguments = a.boolean default
  string : ∀ default arguments,
    (p >>= Source.string default).run env arguments = a.string default
  object : ∀ arguments, (p >>= Source.object).run env arguments = a.object

namespace Procedure

theorem settles_done (s : Source) : (done s).Settles env (s.meaning env) where
  number default arguments := s.run_number arguments default
  boolean default arguments := s.run_boolean arguments default
  string default arguments := s.run_string arguments default
  object arguments := s.run_object arguments

theorem Settles.ofEvaluation_run {p : Procedure σ Source} {a : Meaning σ} (h : p.Settles env a)
    (arguments : List (Meaning σ)) :
    .ofEvaluation (do return (← p.run env arguments).meaning env) = a := by
  have number (default : Float) := h.number default arguments
  have boolean (default : Bool) := h.boolean default arguments
  have string (default : String) := h.string default arguments
  have object := h.object arguments
  simp only [run_bind, Source.run_number, Source.run_boolean, Source.run_string,
    Source.run_object] at number boolean string object
  simp only [Meaning.ofEvaluation, bind_assoc, pure_bind, number, boolean, string, object]

theorem Settles.bind {p : Procedure σ α} {m : Evaluation σ α} {f : α → Procedure σ Source}
    {a : α → Meaning σ} (hp : ∀ arguments, p.run env arguments = m)
    (hf : ∀ x, (f x).Settles env (a x)) :
    (p >>= f).Settles env (.ofEvaluation do return a (← m)) := by
  -- one argument for the four ways to look at what `f` comes down to
  have looked {β : Type} (look : Source → Procedure σ β) (see : Meaning σ → Evaluation σ β)
      (agree : ∀ x arguments, (f x >>= look).run env arguments = see (a x))
      (arguments : List (Meaning σ)) :
      (p >>= f >>= look).run env arguments = (do return a (← m)) >>= see := by
    simp only [run_bind, hp, bind_assoc, pure_bind] at agree ⊢
    simp only [agree]
  exact {
    number := fun default => looked _ (fun a => a.number default) fun x => (hf x).number default
    boolean := fun default => looked _ (fun a => a.boolean default) fun x => (hf x).boolean default
    string := fun default => looked _ (fun a => a.string default) fun x => (hf x).string default
    object := looked _ (fun a => a.object) fun x => (hf x).object }

end Procedure

section Inline

variable {operands : List (Operand σ)}

theorem run_inline_look {look : Source → Procedure σ α} {see : Meaning σ → Evaluation σ α}
    (agree : ∀ a ∈ operands, ∀ arguments,
      (a.settle >>= look).run env arguments = see (a.meaning env))
    (i : Nat) (default : α) (arguments : List (Meaning σ)) :
    Procedure.run env arguments (match (operands.map Operand.settle)[i]? with
      | some p => p >>= look
      | none => .done default) =
    match (operands.map (Operand.meaning env))[i]? with
      | some a => see a
      | none => fun session => (default, session) := by
  rw [List.getElem?_map, List.getElem?_map]
  cases h : operands[i]? with
  | some a => exact agree a (List.mem_of_getElem? h) arguments
  | none => rfl

variable (each : ∀ a ∈ operands, a.settle.Settles env (a.meaning env))
include each

theorem Request.run_inline (request : Request σ) (arguments : List (Meaning σ)) :
    (request.inline (operands.map Operand.settle)).run env arguments =
      request.perform env (operands.map (Operand.meaning env)) := by
  cases request with
  | number i default =>
    exact run_inline_look (fun a mem => (each a mem).number default) i default arguments
  | boolean i default =>
    exact run_inline_look (fun a mem => (each a mem).boolean default) i default arguments
  | string i default =>
    exact run_inline_look (fun a mem => (each a mem).string default) i default arguments
  | object i => exact run_inline_look (fun a mem => (each a mem).object) i .null arguments
  | arguments => simp [inline, perform, Procedure.run]; rfl
  | _ => rfl

theorem Procedure.run_inline (p : Procedure σ α) (arguments : List (Meaning σ)) :
    (p.inline (operands.map Operand.settle)).run env arguments =
      p.run env (operands.map (Operand.meaning env)) := by
  induction p with
  | done a => rfl
  | ask request next ih => simp only [inline, run, run_bind, request.run_inline each, ih]

theorem Operand.settles_settleAnswer (answer : Answer) :
    (settleAnswer (operands.map settle) answer).Settles env
      (.ofAnswer env (operands.map (meaning env)) answer) := by
  cases answer with
  | literal l => exact Procedure.settles_done (.literal l)
  | path text => exact Procedure.settles_done (.path text)
  | argument i =>
    rw [settleAnswer, Meaning.ofAnswer, List.getElem?_map, List.getElem?_map]
    cases h : operands[i]? with
    | some a => exact each a (List.mem_of_getElem? h)
    | none => exact Procedure.settles_done (.literal .null)

end Inline

namespace Operand

/-- An operand means what its procedure comes down to, whoever runs it. -/
theorem settles (a : Operand σ) : a.settle.Settles env (a.meaning env) := by
  induction a using Operand.induction with
  | literal l => exact Procedure.settles_done (.literal l)
  | path text => exact Procedure.settles_done (.path text)
  | call name arguments returns implementation ih =>
    rw [settle, meaning, settleAll_eq_map, meanings_eq_map]
    exact .bind (implementation.body.run_inline ih) (settles_settleAnswer ih)

/-- If a function answers with an operand of its own, its call means what that operand means. -/
theorem meaning_call_settle (a : Operand σ) (name : String) (arguments : List (Operand σ))
    (returns : Kind) (label : String) :
    (call name arguments returns ⟨label, do return (← a.settle).answer⟩).meaning env =
      a.meaning env := by
  have answered (s : Source) :
      Meaning.ofAnswer env (meanings env arguments) s.answer = s.meaning env := by
    cases s <;> rfl
  -- the arguments are there while the body runs, but nothing in it asks for them
  rw [meaning, ← a.settles.ofEvaluation_run (meanings env arguments)]
  simp only [Procedure.run_bind, bind_assoc, ← answered]
  rfl

end Operand

/-! ### Conditions -/

/-- Compares two sources. -/
def Comparison.procedure (op : Comparison) (a b : Procedure σ Source) : Procedure σ Bool :=
  match op with
  | .equal => objects fun l m => l == m
  | .notEqual => objects fun l m => l != m
  | .greater => numbers fun x y => y < x
  | .greaterEqual => numbers fun x y => y ≤ x
  | .less => numbers fun x y => x < y
  | .lessEqual => numbers fun x y => x ≤ y
where
  objects (test : Literal → Literal → Bool) : Procedure σ Bool := do
    let l ← a >>= Source.object
    let m ← b >>= Source.object
    return test l m
  numbers (test : Float → Float → Bool) : Procedure σ Bool := do
    let x ← a >>= Source.number 0.0
    let y ← b >>= Source.number 0.0
    return test x y

theorem Comparison.run_procedure {p q : Procedure σ Source} {a b : Meaning σ}
    (ha : p.Settles env a) (hb : q.Settles env b) (op : Comparison) (arguments : List (Meaning σ)) :
    (op.procedure p q).run env arguments = op.evaluate a b := by
  have objects (test) :
      (procedure.objects p q test).run env arguments = compareObjects test a b := by
    simp only [procedure.objects, Procedure.run_bind _ (p >>= _), Procedure.run_bind _ (q >>= _),
      ha.object, hb.object]
    rfl
  have numbers (test) :
      (procedure.numbers p q test).run env arguments = compareNumbers test a b := by
    simp only [procedure.numbers, Procedure.run_bind _ (p >>= _), Procedure.run_bind _ (q >>= _),
      ha.number, hb.number]
    rfl
  cases op with
  | equal => exact objects _
  | notEqual => exact objects _
  | greater => exact numbers _
  | greaterEqual => exact numbers _
  | less => exact numbers _
  | lessEqual => exact numbers _

namespace Condition

mutual

/-- Decides the condition. -/
def procedure : Condition (Operand σ) → Procedure σ Bool
  | .all items => allProcedure items
  | .any items => someProcedure items
  | .and x y => do
    let x ← x.procedure
    let y ← y.procedure
    return x && y
  | .or x y => do
    let x ← x.procedure
    let y ← y.procedure
    return x || y
  | .not x => do
    let x ← x.procedure
    return !x
  | .compare op a b => op.procedure a.settle b.settle
  | .operand a => a.settle >>= Source.boolean false

/-- Decides whether all conditions hold, as far as needed. -/
def allProcedure : List (Condition (Operand σ)) → Procedure σ Bool
  | [] => return true
  | x :: items => do
    if ← x.procedure then allProcedure items else return false

/-- Decides whether some condition holds, as far as needed. -/
def someProcedure : List (Condition (Operand σ)) → Procedure σ Bool
  | [] => return false
  | x :: items => do
    if ← x.procedure then return true else someProcedure items

end

variable {arguments : List (Meaning σ)}

theorem run_allProcedure {items : List (Condition (Operand σ))}
    (each : ∀ x ∈ items, x.procedure.run env arguments = x.evaluate env) :
    (allProcedure items).run env arguments = allHold env items := by
  induction items with
  | nil => rfl
  | cons x items ih =>
    rw [allProcedure, allHold, Procedure.run_bind, each x (by simp)]
    congr 1
    funext b
    cases b with
    | true => exact ih fun y mem => each y (List.mem_cons_of_mem x mem)
    | false => rfl

theorem run_someProcedure {items : List (Condition (Operand σ))}
    (each : ∀ x ∈ items, x.procedure.run env arguments = x.evaluate env) :
    (someProcedure items).run env arguments = someHolds env items := by
  induction items with
  | nil => rfl
  | cons x items ih =>
    rw [someProcedure, someHolds, Procedure.run_bind, each x (by simp)]
    congr 1
    funext b
    cases b with
    | true => rfl
    | false => exact ih fun y mem => each y (List.mem_cons_of_mem x mem)

theorem run_procedure (c : Condition (Operand σ)) (arguments : List (Meaning σ)) :
    c.procedure.run env arguments = c.evaluate env := by
  induction c using Condition.induction with
  | all items ih =>
    rw [procedure, evaluate]
    exact run_allProcedure ih
  | any items ih =>
    rw [procedure, evaluate]
    exact run_someProcedure ih
  | and x y ihx ihy =>
    simp only [procedure, evaluate, Procedure.run_bind, ihx, ihy]
    rfl
  | or x y ihx ihy =>
    simp only [procedure, evaluate, Procedure.run_bind, ihx, ihy]
    rfl
  | not x ih =>
    simp only [procedure, evaluate, Procedure.run_bind, ih]
    rfl
  | compare op a b =>
    rw [procedure, evaluate]
    exact op.run_procedure a.settles b.settles arguments
  | operand a =>
    rw [procedure, evaluate]
    exact a.settles.boolean false arguments

end Condition

/-! ### Uses of a session -/

namespace Use

/-- Uses the session. -/
def procedure : Use σ → Procedure σ Unit
  | number a default => do
    let _ ← a.settle >>= Source.number default
  | boolean a default => do
    let _ ← a.settle >>= Source.boolean default
  | string a default => do
    let _ ← a.settle >>= Source.string default
  | object a => do
    let _ ← a.settle >>= Source.object
  | invoke (.call _ arguments _ implementation) => do
    let _ ← implementation.body.inline (arguments.map Operand.settle)
  | invoke _ => return
  | evaluate c => do
    let _ ← c.procedure

/-- A function can do whatever can be done with a session, and nothing that is different. -/
theorem run_procedure (use : Use σ) (arguments : List (Meaning σ)) (session : Session σ) :
    (use.procedure.run env arguments session).2 = use.run env session := by
  cases use with
  | number a default =>
    rw [procedure, Procedure.run_bind, a.settles.number]
    rfl
  | boolean a default =>
    rw [procedure, Procedure.run_bind, a.settles.boolean]
    rfl
  | string a default =>
    rw [procedure, Procedure.run_bind, a.settles.string]
    rfl
  | object a =>
    rw [procedure, Procedure.run_bind, a.settles.object]
    rfl
  | invoke a =>
    cases a with
    | literal l => rfl
    | path text => rfl
    | call name operands returns implementation =>
      rw [procedure, Procedure.run_bind, Procedure.run_inline fun a _ => a.settles, run,
        Operand.invoke, Operand.meanings_eq_map]
      rfl
  | evaluate c =>
    rw [procedure, Procedure.run_bind, c.run_procedure]
    rfl

end Use

end Verdict
