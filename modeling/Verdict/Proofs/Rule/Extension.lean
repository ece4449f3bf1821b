import Verdict.Rule.Binding
import Verdict.Proofs.Function.Registration

/-!
# Rules in a registry that grows

When more functions are registered, a rule that could be compiled is compiled to the same condition as
before, and one that could not still has the same error; only a call of an unknown function may come
to something else, if there is such a function by now.  `Kept` says that of two outcomes.  It holds of
a call, and it goes through sequences of steps; so it holds of terms, of conditions and of rules,
`compile_after`.
-/

namespace Verdict

variable {σ α β : Type} {r r' : Registry σ}

namespace Registry

/-- Each function of the one registry is the function of its name in the other one too. -/
def Grows (r r' : Registry σ) : Prop :=
  ∀ name f, r.find? name = some f → r'.find? name = some f

theorem grows_after (r : Registry σ) (fs : List (Function σ)) : r.Grows (r.after fs) := by
  intro name f found
  rw [find?_after, found]
  rfl

end Registry

/-! ### Outcomes -/

/-- The second outcome is the first one, unless the first one misses a function that is new. -/
inductive Kept (r r' : Registry σ) :
    Except Function.Error α → Except Function.Error α → Prop
  | same (x : Except Function.Error α) : Kept r r' x x
  | new {name : String} (missing : name ∉ r.names) (there : name ∈ r'.names)
      (y : Except Function.Error α) : Kept r r' (.error (.unknown name)) y

theorem Kept.bind {x y : Except Function.Error α} {f g : α → Except Function.Error β}
    (first : Kept r r' x y) (next : ∀ a, Kept r r' (f a) (g a)) : Kept r r' (x >>= f) (y >>= g) := by
  cases first with
  | same =>
    cases x with
    | error e => exact .same _
    | ok a => exact next a
  | new missing there => exact .new missing there _

/-- What is done with a result has no error of its own. -/
theorem Kept.map {x y : Except Function.Error α} (h : Kept r r' x y) (f : α → β) :
    Kept r r' (do return f (← x)) (do return f (← y)) :=
  h.bind fun _ => .same _

/-! ### Binding -/

/-- A call of a function that is there is made as before, or refused as before; and if the function is
still missing, that is the error as before. -/
theorem Registry.Grows.kept_bind (grows : r.Grows r') (name : String)
    (arguments : List (Operand σ)) : Kept r r' (r.bind name arguments) (r'.bind name arguments) := by
  cases found : r.find? name with
  | some f =>
    rw [bind, bind, found, grows name f found]
    exact .same _
  | none =>
    cases now : r'.find? name with
    | none =>
      rw [bind, bind, found, now]
      exact .same _
    | some f =>
      rw [bind, found]
      exact .new (find?_eq_none_iff.1 found) (mem_names_iff.2 (by rw [now]; rfl)) _

theorem Term.kept_bindAll {terms : List Term} (each : ∀ t ∈ terms, Kept r r' (t.bind r) (t.bind r')) :
    Kept r r' (bindAll r terms) (bindAll r' terms) := by
  induction terms with
  | nil => exact .same _
  | cons t terms ih =>
    rw [bindAll, bindAll]
    exact (each t (by simp)).bind fun operand =>
      (ih fun s mem => each s (List.mem_cons_of_mem t mem)).map (operand :: ·)

theorem Term.kept_bind (grows : r.Grows r') (t : Term) : Kept r r' (t.bind r) (t.bind r') := by
  induction t using Term.induction with
  | literal l => exact .same _
  | path s => exact .same _
  | call name arguments ih =>
    rw [bind, bind]
    exact (Term.kept_bindAll ih).bind (grows.kept_bind name)

theorem Condition.kept_bindAll {items : List (Condition Term)}
    (each : ∀ x ∈ items, Kept r r' (x.bind r) (x.bind r')) :
    Kept r r' (bindAll r items) (bindAll r' items) := by
  induction items with
  | nil => exact .same _
  | cons x items ih =>
    rw [bindAll, bindAll]
    exact (each x (by simp)).bind fun condition =>
      (ih fun y mem => each y (List.mem_cons_of_mem x mem)).map (condition :: ·)

theorem Condition.kept_bind (grows : r.Grows r') (c : Condition Term) :
    Kept r r' (c.bind r) (c.bind r') := by
  have term := Term.kept_bind grows
  induction c using Condition.induction with
  | all items ih =>
    rw [bind, bind]
    exact (Condition.kept_bindAll ih).map Condition.all
  | any items ih =>
    rw [bind, bind]
    exact (Condition.kept_bindAll ih).map Condition.any
  | and x y ihx ihy =>
    rw [bind, bind]
    exact ihx.bind fun x => ihy.map (Condition.and x)
  | or x y ihx ihy =>
    rw [bind, bind]
    exact ihx.bind fun x => ihy.map (Condition.or x)
  | not x ih =>
    rw [bind, bind]
    exact ih.map Condition.not
  | compare op a b =>
    rw [bind, bind]
    exact (term a).bind fun a => (term b).map (Condition.compare op a)
  | operand a =>
    rw [bind, bind]
    exact (term a).map Condition.operand

/-! ### Rules -/

namespace Rule

theorem compile_of_parse {text : String} {c : Condition Term} (h : parse text = .ok c) :
    compile r text = (c.bind r).mapError .call := by
  rw [compile, h]
  cases outcome : c.bind r with
  | ok root =>
    simp only [bind, Except.bind, outcome]
    rfl
  | error cause =>
    simp only [bind, Except.bind, outcome]
    rfl

theorem compile_of_parse_error {text : String} {e : Error} (h : parse text = .error e) :
    compile r text = .error e := by
  rw [compile, h]
  rfl

/-- Whatever functions are registered behind those of a registry, and whichever of them are refused: a
rule is compiled to the same condition, or it has the same error; unless it calls an unknown function
that is there by now. -/
theorem compile_after (r : Registry σ) (fs : List (Function σ)) (text : String) :
    compile (r.after fs) text = compile r text ∨
      ∃ name, compile r text = .error (.call (.unknown name)) ∧
        name ∉ r.names ∧ name ∈ (r.after fs).names := by
  cases read : parse text with
  | error e => exact .inl (by rw [compile_of_parse_error read, compile_of_parse_error read])
  | ok c =>
    have kept := c.kept_bind (r.grows_after fs)
    rw [compile_of_parse read, compile_of_parse read]
    generalize c.bind r = x, c.bind (r.after fs) = y at kept
    cases kept with
    | same => exact .inl rfl
    | new missing there => exact .inr ⟨_, rfl, missing, there⟩

end Rule

end Verdict
