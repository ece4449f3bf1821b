import Verdict.Proofs.Evaluation.Builtin

/-!
# Sessions do not change answers

A session may have been used before in any way; still a condition comes out as it does without any
session.  Whatever is done with a session leaves it faithful, whichever functions are called, as long
as those that change the world behind the resolver leave it sound; that is an induction over what was
done.  In a faithful session an operand whose calls were made by the registry that every rule has
stands for its literal, and a condition over such operands comes out as it should; those are
inductions over operands and over conditions.
-/

namespace Verdict

variable {σ : Type} {sound : σ → Prop} {env : Environment σ} {look : Json → String → Option Json}

/-! ### Operands -/

namespace Operand

/-- No function that is called in the operand enters a world that is not sound. -/
inductive Lawful (sound : σ → Prop) : Operand σ → Prop
  | literal (l : Literal) : Lawful sound (.literal l)
  | path (text : String) : Lawful sound (.path text)
  | call {name : String} {arguments : List (Operand σ)} {returns : Kind}
      {implementation : Implementation σ} (inside : ∀ a ∈ arguments, Lawful sound a)
      (body : implementation.body.Respects sound) :
      Lawful sound (.call name arguments returns implementation)

theorem Bound.lawful {a : Operand σ} (bound : a.Bound) : a.Lawful sound := by
  induction bound with
  | literal l => exact .literal l
  | path text => exact .path text
  | call inside made ih =>
    obtain ⟨f, mem, -, rfl⟩ := call_of_bind made
    exact .call ih (respects_builtin sound mem)

theorem mem_meanings {operands : List (Operand σ)} {a : Meaning σ}
    (mem : a ∈ meanings env operands) : ∃ o ∈ operands, o.meaning env = a := by
  rw [meanings_eq_map] at mem
  exact List.mem_map.1 mem

theorem denotes_of_bound (resolves : env.resolver.Pure sound look) {a : Operand σ}
    (bound : a.Bound) :
    (a.meaning env).Denotes sound (look env.document) (some (a.value (look env.document))) := by
  induction bound with
  | literal l => exact Meaning.denotes_ofLiteral l
  | path text => exact Meaning.denotes_ofPath resolves text
  | call inside made ih =>
    obtain ⟨f, mem, -, rfl⟩ := call_of_bind made
    refine Meaning.denotes_ofEvaluation ((answers_builtin ih mem).bind fun answer h => ?_)
    rw [h]
    exact ensures_pure (Meaning.denotes_ofLiteral _)

theorem denotes_ofAnswer (resolves : env.resolver.Pure sound look) {arguments : List (Meaning σ)}
    (given : ∀ a ∈ arguments, a.Denotes sound (look env.document) none) (answer : Answer) :
    (Meaning.ofAnswer env arguments answer).Denotes sound (look env.document) none := by
  cases answer with
  | literal l => exact (Meaning.denotes_ofLiteral l).forget
  | path text => exact (Meaning.denotes_ofPath resolves text).forget
  | argument i =>
    rw [Meaning.ofAnswer]
    cases h : arguments[i]? with
    | some a => exact given a (List.mem_of_getElem? h)
    | none => exact (Meaning.denotes_ofLiteral .null).forget

theorem denotes_of_lawful (resolves : env.resolver.Pure sound look) {a : Operand σ}
    (lawful : a.Lawful sound) : (a.meaning env).Denotes sound (look env.document) none := by
  induction lawful with
  | literal l => exact (Meaning.denotes_ofLiteral l).forget
  | path text => exact (Meaning.denotes_ofPath resolves text).forget
  | @call name arguments returns implementation inside body ih =>
    have given : ∀ a ∈ meanings env arguments, a.Denotes sound (look env.document) none := by
      intro a mem
      obtain ⟨o, here, rfl⟩ := mem_meanings mem
      exact ih o here
    refine Meaning.denotes_ofEvaluation
      ((implementation.body.ensures_run resolves given body).bind fun answer _ => ?_)
    exact ensures_pure (denotes_ofAnswer resolves given answer)

/-- Invoking a call runs its body once. -/
theorem ensures_invoke (resolves : env.resolver.Pure sound look) {a : Operand σ}
    (lawful : a.Lawful sound) :
    Ensures sound (look env.document) (a.invoke env) fun _ => True := by
  cases lawful with
  | literal l => exact ensures_pure trivial
  | path text => exact ensures_pure trivial
  | @call name arguments returns implementation inside body =>
    refine (implementation.body.ensures_run resolves ?_ body).bind fun _ _ => ensures_pure trivial
    intro a mem
    obtain ⟨o, here, rfl⟩ := mem_meanings mem
    exact denotes_of_lawful resolves (inside o here)

end Operand

/-! ### Conditions -/

namespace Condition

/-- Decides conditions up to the first one of the given verdict. -/
def evaluateUntil (env : Environment σ) (verdict : Bool) :
    List (Condition (Operand σ)) → Evaluation σ Bool
  | [] => return !verdict
  | x :: items => do
    let b ← x.evaluate env
    if b = verdict then return verdict else evaluateUntil env verdict items

theorem allHold_eq (items : List (Condition (Operand σ))) :
    allHold env items = evaluateUntil env false items := by
  induction items with
  | nil => rfl
  | cons x items ih =>
    rw [allHold, evaluateUntil, ih]
    congr 1
    funext b
    cases b <;> rfl

theorem someHolds_eq (items : List (Condition (Operand σ))) :
    someHolds env items = evaluateUntil env true items := by
  induction items with
  | nil => rfl
  | cons x items ih =>
    rw [someHolds, evaluateUntil, ih]

theorem evaluate_all (items : List (Condition (Operand σ))) :
    (all items).evaluate env = evaluateUntil env false items := by
  rw [evaluate, allHold_eq]

theorem evaluate_any (items : List (Condition (Operand σ))) :
    (any items).evaluate env = evaluateUntil env true items := by
  rw [evaluate, someHolds_eq]

end Condition

/-- An operator compares literals or else numbers, in a session as without one. -/
theorem Comparison.evaluate_cases (op : Comparison) (a b : Meaning σ) :
    (∃ test, op.evaluate a b = compareObjects test a b ∧ ∀ l m, op.holds l m = test l m) ∨
    ∃ test, op.evaluate a b = compareNumbers test a b ∧
      ∀ l m, op.holds l m = test (l.number?.getD 0.0) (m.number?.getD 0.0) := by
  cases op with
  | equal => exact .inl ⟨_, rfl, fun _ _ => rfl⟩
  | notEqual => exact .inl ⟨_, rfl, fun _ _ => rfl⟩
  | greater => exact .inr ⟨_, rfl, fun _ _ => rfl⟩
  | greaterEqual => exact .inr ⟨_, rfl, fun _ _ => rfl⟩
  | less => exact .inr ⟨_, rfl, fun _ _ => rfl⟩
  | lessEqual => exact .inr ⟨_, rfl, fun _ _ => rfl⟩

theorem Condition.Forall.mono {α : Type} {p q : α → Prop} {c : Condition α} (h : c.Forall p)
    (imp : ∀ a, p a → q a) : c.Forall q := by
  induction h with
  | all inside ih => exact .all ih
  | any inside ih => exact .any ih
  | and left right ihx ihy => exact .and ihx ihy
  | or left right ihx ihy => exact .or ihx ihy
  | not inside ih => exact .not ih
  | compare left right => exact .compare (imp _ left) (imp _ right)
  | operand only => exact .operand (imp _ only)

section Conditions

variable {look : String → Option Json}

theorem ensures_compare {a b : Meaning σ} {known known' : Option Literal}
    (ha : a.Denotes sound look known) (hb : b.Denotes sound look known') (op : Comparison) :
    Ensures sound look (op.evaluate a b)
      fun holds => ∀ l ∈ known, ∀ m ∈ known', holds = op.holds l m := by
  obtain ⟨test, evaluates, holds⟩ | ⟨test, evaluates, holds⟩ := op.evaluate_cases a b
  · rw [evaluates]
    refine ha.object.bind fun l hl => hb.object.bind fun m hm => ensures_pure ?_
    intro l' hl' m' hm'
    rw [holds, hl l' hl', hm m' hm']
  · rw [evaluates]
    refine (ha.number 0.0).bind fun x hx => (hb.number 0.0).bind fun y hy => ensures_pure ?_
    intro l hl m hm
    rw [holds, hx l hl, hy m hm]

/-- Conditions are decided up to the first one of the given verdict; those behind it change nothing. -/
theorem ensures_evaluateUntil {settled : Prop} {items : List (Condition (Operand σ))}
    (each : ∀ x ∈ items, Ensures sound look (x.evaluate env)
      fun b => settled → b = x.holds look) (verdict : Bool) :
    Ensures sound look (Condition.evaluateUntil env verdict items) fun b =>
      settled → b = if verdict ∈ Condition.verdicts look items then verdict else !verdict := by
  induction items with
  | nil => exact ensures_pure fun _ => rfl
  | cons x items ih =>
    rw [Condition.evaluateUntil, Condition.verdicts]
    refine (each x (by simp)).bind fun b hb => ?_
    split
    · rename_i first
      refine ensures_pure fun known => ?_
      rw [if_pos (by simp [← hb known, first])]
    · rename_i other
      refine (ih fun y mem => each y (List.mem_cons_of_mem x mem)).mono fun b' hb' known => ?_
      have behind : verdict ≠ x.holds look := fun same => other ((hb known).trans same.symm)
      rw [hb' known]
      simp only [List.mem_cons, behind, false_or]

/-- A condition leaves sessions faithful if its operands do; and if all of them stand for their
literals, it comes out as it does without a session. -/
theorem ensures_evaluate {p : Operand σ → Prop} {known : Operand σ → Option Literal}
    (denotes : ∀ a, p a → (a.meaning env).Denotes sound look (known a))
    {c : Condition (Operand σ)} (h : c.Forall p) :
    Ensures sound look (c.evaluate env)
      fun b => (∀ a, known a = some (a.value look)) → b = c.holds look := by
  induction h with
  | all inside ih =>
    rw [Condition.evaluate_all, Condition.holds_all]
    exact ensures_evaluateUntil ih false
  | any inside ih =>
    rw [Condition.evaluate_any, Condition.holds_any]
    exact ensures_evaluateUntil ih true
  | and left right ihx ihy =>
    rw [Condition.evaluate, Condition.holds]
    refine ihx.bind fun b hb => ihy.bind fun b' hb' => ensures_pure fun settled => ?_
    rw [hb settled, hb' settled]
  | or left right ihx ihy =>
    rw [Condition.evaluate, Condition.holds]
    refine ihx.bind fun b hb => ihy.bind fun b' hb' => ensures_pure fun settled => ?_
    rw [hb settled, hb' settled]
  | not inside ih =>
    rw [Condition.evaluate, Condition.holds]
    refine ih.bind fun b hb => ensures_pure fun settled => ?_
    rw [hb settled]
  | @compare op a b left right =>
    rw [Condition.evaluate, Condition.holds]
    exact (ensures_compare (denotes a left) (denotes b right) op).mono fun holds hh settled =>
      hh _ (settled a) _ (settled b)
  | @operand a only =>
    rw [Condition.evaluate, Condition.holds]
    exact ((denotes a only).boolean false).mono fun b hb settled => hb _ (settled a)

end Conditions

/-- A condition whose calls were made by the registry that every rule has comes out as it does without
a session. -/
theorem Condition.ensures_holds (resolves : env.resolver.Pure sound look)
    {c : Condition (Operand σ)} (bound : c.Forall Operand.Bound) :
    Ensures sound (look env.document) (c.evaluate env) (· = c.holds (look env.document)) :=
  (ensures_evaluate (fun _ h => Operand.denotes_of_bound resolves h) bound).mono
    fun _ h => h fun _ => rfl

/-! ### Uses of a session -/

/-- What can be done with a session: an operand is looked at as anything, a call is invoked, or a
condition is decided. -/
inductive Use (σ : Type) where
  | number (operand : Operand σ) (default : Float)
  | boolean (operand : Operand σ) (default : Bool)
  | string (operand : Operand σ) (default : String)
  | object (operand : Operand σ)
  | invoke (operand : Operand σ)
  | evaluate (condition : Condition (Operand σ))

namespace Use

/-- No function that is called enters a world that is not sound. -/
def Lawful (sound : σ → Prop) : Use σ → Prop
  | number a _ => a.Lawful sound
  | boolean a _ => a.Lawful sound
  | string a _ => a.Lawful sound
  | object a => a.Lawful sound
  | invoke a => a.Lawful sound
  | evaluate c => c.Forall (Operand.Lawful sound)

/-- The session behind the use. -/
def run (env : Environment σ) (session : Session σ) : Use σ → Session σ
  | number a default => ((a.meaning env).number default session).2
  | boolean a default => ((a.meaning env).boolean default session).2
  | string a default => ((a.meaning env).string default session).2
  | object a => ((a.meaning env).object session).2
  | invoke a => (a.invoke env session).2
  | evaluate c => (c.evaluate env session).2

theorem faithful_run (resolves : env.resolver.Pure sound look) {session : Session σ}
    (faithful : session.Faithful sound (look env.document)) {use : Use σ}
    (lawful : use.Lawful sound) : (use.run env session).Faithful sound (look env.document) := by
  have denotes (a : Operand σ) (lawful : a.Lawful sound) := Operand.denotes_of_lawful resolves lawful
  cases use with
  | number a default => exact ((denotes a lawful).number default session faithful).2
  | boolean a default => exact ((denotes a lawful).boolean default session faithful).2
  | string a default => exact ((denotes a lawful).string default session faithful).2
  | object a => exact ((denotes a lawful).object session faithful).2
  | invoke a => exact (Operand.ensures_invoke resolves lawful session faithful).2
  | evaluate c => exact (ensures_evaluate denotes lawful session faithful).2

end Use

/-- The session after it was used in many ways, one after the other. -/
def Session.after (env : Environment σ) (session : Session σ) (uses : List (Use σ)) : Session σ :=
  uses.foldl (Use.run env) session

theorem Session.faithful_after (resolves : env.resolver.Pure sound look) {session : Session σ}
    (faithful : session.Faithful sound (look env.document)) {uses : List (Use σ)}
    (lawful : ∀ use ∈ uses, use.Lawful sound) :
    (session.after env uses).Faithful sound (look env.document) := by
  induction uses generalizing session with
  | nil => exact faithful
  | cons use uses ih =>
    exact ih (use.faithful_run resolves faithful (lawful use (by simp)))
      fun other mem => lawful other (List.mem_cons_of_mem use mem)

/-- However a session was used before, a condition comes out as it does without any session, and so
as it does in a fresh one. -/
theorem evaluate_after_eq_holds (resolves : env.resolver.Pure sound look) {world : σ}
    (here : sound world) {uses : List (Use σ)} (lawful : ∀ use ∈ uses, use.Lawful sound)
    {root : Condition (Operand σ)} (bound : root.Forall Operand.Bound) :
    (root.evaluate env ((Session.start world).after env uses)).1 = root.holds (look env.document) ∧
    ∀ fresh, sound fresh →
      (root.evaluate env ((Session.start world).after env uses)).1 =
        (root.evaluate env (.start fresh)).1 := by
  have comes_out {session : Session σ} (faithful : session.Faithful sound (look env.document)) :=
    (Condition.ensures_holds resolves bound session faithful).1
  have used := comes_out (Session.faithful_after resolves (Session.faithful_start here) lawful)
  exact ⟨used, fun fresh there => used.trans (comes_out (Session.faithful_start there)).symm⟩

theorem evaluate_after_eq_holds_starts_with :
    let document : Json := .object [("a", .string "abc")]
    let env : Environment Path.Memo := ⟨⟨.default, .jsonPath true 4⟩, document⟩
    let call : Operand Path.Memo :=
      .call "str.starts_with" [.path "$.a", .literal (.string "ab")] .boolean
        ⟨"str.starts_with", Function.onTexts fun s t => t.isPrefixOf s⟩
    let root : Condition (Operand Path.Memo) := .all [.operand call, .not (.operand (.path "$.b"))]
    let used := (Session.start Path.Memo.empty).after env [.evaluate root, .string (.path "$.a") ""]
    (root.evaluate env used).1 = root.holds (Resolver.target true document) ∧
      ∀ fresh, fresh.Sound → (root.evaluate env used).1 = (root.evaluate env (.start fresh)).1 := by
  intro document env call root used
  have made : Registry.default.bind "str.starts_with" [.path "$.a", .literal (.string "ab")] =
      .ok call := by rfl
  have bound : call.Bound := by
    refine .call (fun a mem => ?_) made
    rcases List.mem_cons.1 mem with rfl | mem
    · exact .path _
    · rw [List.mem_singleton.1 mem]
      exact .literal _
  have whole : root.Forall Operand.Bound := by
    refine .all fun x mem => ?_
    rcases List.mem_cons.1 mem with rfl | mem
    · exact .operand bound
    · rw [List.mem_singleton.1 mem]
      exact .not (.operand (.path _))
  refine evaluate_after_eq_holds (Resolver.pure_jsonPath true 4) Path.Memo.sound_empty ?_ whole
  intro use mem
  rcases List.mem_cons.1 mem with rfl | mem
  · exact whole.mono fun _ h => h.lawful
  · rw [List.mem_singleton.1 mem]
    exact .path _

end Verdict
