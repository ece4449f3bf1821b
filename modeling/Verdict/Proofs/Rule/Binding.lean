import Verdict.Proofs.Rule.Rendering

/-!
# Binding goes call by call

The calls of a condition are made in the order in which they end in its text: from left to right, the
calls in the arguments of a call before that call.  Binding succeeds just when each of them can be made,
and then it adds nothing but what the registry holds for their names; otherwise the first one that
cannot be made gives the error.  `Settles` says this of any outcome, given the calls that it depends on,
and goes through sequences of steps; `bind_goes_call_by_call` is the result for conditions.
-/

namespace Verdict

variable {σ α β : Type} {r : Registry σ}

/-! ### Calls -/

/-- A call as it stands in the text of a rule. -/
structure Call where
  name : String
  arguments : List Term

mutual

/-- The calls in a term, each behind those in its arguments. -/
def Term.calls : Term → List Call
  | .literal _ => []
  | .path _ => []
  | .call name arguments => Term.callsAll arguments ++ [⟨name, arguments⟩]

/-- The calls in terms, from left to right. -/
def Term.callsAll : List Term → List Call
  | [] => []
  | t :: terms => t.calls ++ Term.callsAll terms

end

mutual

/-- The calls in a condition, from left to right and each behind those in its arguments. -/
def Condition.calls : Condition Term → List Call
  | .all items => Condition.callsAll items
  | .any items => Condition.callsAll items
  | .and x y => x.calls ++ y.calls
  | .or x y => x.calls ++ y.calls
  | .not x => x.calls
  | .compare _ a b => a.calls ++ b.calls
  | .operand a => a.calls

/-- The calls in conditions, from left to right. -/
def Condition.callsAll : List (Condition Term) → List Call
  | [] => []
  | x :: items => x.calls ++ Condition.callsAll items

end

/-- Each call in the operand has the kind of result and the implementation that the registry holds for
its name. -/
inductive Operand.Drawn (r : Registry σ) : Operand σ → Prop
  | literal (l : Literal) : Drawn r (.literal l)
  | path (text : String) : Drawn r (.path text)
  | call {name : String} {arguments : List (Operand σ)} {f : Function σ}
      (inside : ∀ a ∈ arguments, Drawn r a) (held : r.find? name = some f) :
      Drawn r (.call name arguments f.signature.returns f.implementation)

namespace Operand

theorem eq_of_terms {operands others : List (Operand σ)}
    (each : ∀ a ∈ operands, ∀ b ∈ others, a.term = b.term → a = b)
    (same : terms operands = terms others) : operands = others := by
  induction operands generalizing others with
  | nil =>
    cases others with
    | nil => rfl
    | cons b others => cases same
  | cons a operands ih =>
    cases others with
    | nil => cases same
    | cons b others =>
      rw [terms, terms] at same
      obtain ⟨first, rest⟩ := List.cons.inj same
      rw [each a (by simp) b (by simp) first]
      rw [ih (fun c mem d mem' => each c (by simp [mem]) d (by simp [mem'])) rest]

/-- The registry leaves no choice of an operand for a term. -/
theorem Drawn.eq_of_term {a b : Operand σ} (ha : a.Drawn r) (hb : b.Drawn r)
    (same : a.term = b.term) : a = b := by
  induction ha generalizing b with
  | literal l =>
    cases hb with
    | literal m => rw [Term.literal.inj same]
    | path => cases same
    | call => cases same
  | path text =>
    cases hb with
    | literal => cases same
    | path text' => rw [Term.path.inj same]
    | call => cases same
  | @call name arguments f inside held ih =>
    cases hb with
    | literal => cases same
    | path => cases same
    | @call name' others g inside' held' =>
      obtain ⟨rfl, terms_eq⟩ := Term.call.inj same
      obtain rfl : f = g := Option.some.inj (held.symm.trans held')
      rw [eq_of_terms (fun a mem b mem' => ih a mem (inside' b mem')) terms_eq]

end Operand

/-- The operands have the given terms, and their calls what the registry holds. -/
structure Draws (r : Registry σ) (operands : List (Operand σ)) (terms : List Term) : Prop where
  terms_eq : Operand.terms operands = terms
  drawn : ∀ a ∈ operands, a.Drawn r

theorem Draws.unique {operands others : List (Operand σ)} {terms : List Term}
    (h : Draws r operands terms) (h' : Draws r others terms) : operands = others :=
  Operand.eq_of_terms (fun a mem b mem' => (h.drawn a mem).eq_of_term (h'.drawn b mem'))
    (h.terms_eq.trans h'.terms_eq.symm)

namespace Call

/-- The registry makes the call. -/
def Binds (r : Registry σ) (call : Call) : Prop :=
  ∃ operands o, Draws r operands call.arguments ∧ r.bind call.name operands = .ok o

/-- The registry refuses to make the call and gives the error. -/
def Refuses (r : Registry σ) (call : Call) (e : Function.Error) : Prop :=
  ∃ operands, Draws r operands call.arguments ∧ r.bind call.name operands = .error e

variable {call : Call} {e e' : Function.Error}

theorem Refuses.not_binds (h : call.Refuses r e) : ¬ call.Binds r := by
  rintro ⟨others, o, draws', made⟩
  obtain ⟨operands, draws, refused⟩ := h
  rw [draws.unique draws', made] at refused
  cases refused

theorem Refuses.unique (h : call.Refuses r e) (h' : call.Refuses r e') : e = e' := by
  obtain ⟨operands, draws, refused⟩ := h
  obtain ⟨others, draws', refused'⟩ := h'
  rw [draws.unique draws', refused'] at refused
  exact (Except.error.inj refused).symm

end Call

/-! ### Outcomes -/

/-- The first of the calls that the registry refuses gives the error. -/
def FirstRefused (r : Registry σ) (calls : List Call) (e : Function.Error) : Prop :=
  ∃ before call after, calls = before ++ call :: after ∧ (∀ k ∈ before, k.Binds r) ∧
    call.Refuses r e

theorem FirstRefused.not_all {calls : List Call} {e : Function.Error}
    (h : FirstRefused r calls e) : ¬ ∀ k ∈ calls, k.Binds r := by
  obtain ⟨before, call, after, rfl, -, refused⟩ := h
  exact fun all => refused.not_binds (all call (by simp))

theorem FirstRefused.unique {calls : List Call} {e e' : Function.Error}
    (h : FirstRefused r calls e) (h' : FirstRefused r calls e') : e = e' := by
  obtain ⟨before, call, after, rfl, made, refused⟩ := h
  obtain ⟨before', call', after', split, made', refused'⟩ := h'
  -- neither of the two stands among the calls before the other one, since those can be made
  obtain ⟨rest, rfl, same⟩ | ⟨rest, rfl, same⟩ := List.append_eq_append_iff.1 split
  · cases rest with
    | nil =>
      obtain ⟨rfl, -⟩ := List.cons.inj same
      exact refused.unique refused'
    | cons k rest =>
      obtain ⟨rfl, -⟩ := List.cons.inj same
      exact absurd (made' call (by simp)) refused.not_binds
  · cases rest with
    | nil =>
      obtain ⟨rfl, -⟩ := List.cons.inj same
      exact refused.unique refused'
    | cons k rest =>
      obtain ⟨rfl, -⟩ := List.cons.inj same
      exact absurd (made call' (by simp)) refused'.not_binds

/-- Either all calls are made and the result has the property, or the first call that is refused gives
the error. -/
inductive Settles (r : Registry σ) (calls : List Call) (holds : α → Prop) :
    Except Function.Error α → Prop
  | ok {a : α} (made : ∀ k ∈ calls, k.Binds r) (found : holds a) : Settles r calls holds (.ok a)
  | error {e : Function.Error} (refused : FirstRefused r calls e) :
    Settles r calls holds (.error e)

namespace Settles

variable {calls calls' : List Call} {holds : α → Prop} {goal : β → Prop}
  {x : Except Function.Error α}

theorem bind {f : α → Except Function.Error β} (first : Settles r calls holds x)
    (next : ∀ a, holds a → Settles r calls' goal (f a)) :
    Settles r (calls ++ calls') goal (x >>= f) := by
  cases first with
  | @error e refused =>
    obtain ⟨before, call, after, rfl, made, refused⟩ := refused
    exact .error ⟨before, call, after ++ calls', by simp, made, refused⟩
  | @ok a made found =>
    have second := next a found
    change Settles r (calls ++ calls') goal (f a)
    generalize f a = y at second ⊢
    cases second with
    | ok made' found' =>
      exact .ok (fun k mem => (List.mem_append.1 mem).elim (made k) (made' k)) found'
    | error refused =>
      obtain ⟨before, call, after, rfl, made', refused⟩ := refused
      refine .error ⟨calls ++ before, call, after, by simp, fun k mem => ?_, refused⟩
      exact (List.mem_append.1 mem).elim (made k) (made' k)

/-- What is done with a result makes no calls. -/
theorem map {f : α → β} (h : Settles r calls holds x) (image : ∀ a, holds a → goal (f a)) :
    Settles r calls goal (do return f (← x)) := by
  cases h with
  | ok made found => exact .ok made (image _ found)
  | error refused => exact .error refused

theorem exists_ok_iff (h : Settles r calls holds x) :
    (∃ a, x = .ok a) ↔ ∀ k ∈ calls, k.Binds r := by
  cases h with
  | ok made found => exact ⟨fun _ => made, fun _ => ⟨_, rfl⟩⟩
  | error refused => exact ⟨fun ⟨_, h⟩ => (nomatch h), fun all => absurd all refused.not_all⟩

theorem error_iff (h : Settles r calls holds x) (e : Function.Error) :
    x = .error e ↔ FirstRefused r calls e := by
  cases h with
  | ok made found => exact ⟨fun h => (nomatch h), fun refused => absurd made refused.not_all⟩
  | error refused =>
    constructor
    · intro h
      exact Except.error.inj h ▸ refused
    · intro refused'
      rw [refused.unique refused']

theorem holds_of_ok {a : α} (h : Settles r calls holds (.ok a)) : holds a := by
  cases h with
  | ok made found => exact found

end Settles

/-! ### Terms and conditions -/

namespace Term

theorem settles_bindAll {terms : List Term}
    (each : ∀ t ∈ terms, Settles r t.calls (fun o => o.term = t ∧ o.Drawn r) (t.bind r)) :
    Settles r (callsAll terms) (fun operands => Draws r operands terms) (bindAll r terms) := by
  induction terms with
  | nil => exact .ok (by simp [callsAll]) ⟨rfl, by simp⟩
  | cons t terms ih =>
    rw [callsAll, bindAll]
    refine (each t (by simp)).bind fun o first => ?_
    refine (ih fun s mem => each s (List.mem_cons_of_mem t mem)).map fun operands others => ?_
    exact ⟨by rw [Operand.terms, first.1, others.terms_eq],
      List.forall_mem_cons.2 ⟨first.2, others.drawn⟩⟩

/-- A call of operands is the last one that is made. -/
theorem settles_call {name : String} {arguments : List Term} {operands : List (Operand σ)}
    (draws : Draws r operands arguments) :
    Settles r [⟨name, arguments⟩] (fun o => o.term = .call name arguments ∧ o.Drawn r)
      (r.bind name operands) := by
  cases outcome : r.bind name operands with
  | error e => exact .error ⟨[], _, [], rfl, by simp, operands, draws, outcome⟩
  | ok o =>
    refine .ok (List.forall_mem_singleton.2 ⟨operands, o, draws, outcome⟩) ?_
    obtain ⟨f, held, -, -, rfl⟩ := Registry.bind_eq_ok_iff.1 outcome
    exact ⟨by rw [Operand.term, draws.terms_eq], .call draws.drawn held⟩

theorem settles_bind (r : Registry σ) (t : Term) :
    Settles r t.calls (fun o => o.term = t ∧ o.Drawn r) (t.bind r) := by
  induction t using Term.induction with
  | literal l => exact .ok (by simp [calls]) ⟨rfl, .literal l⟩
  | path s => exact .ok (by simp [calls]) ⟨rfl, .path s⟩
  | call name arguments ih =>
    rw [calls, bind]
    exact (settles_bindAll ih).bind fun operands draws => settles_call draws

end Term

namespace Condition

/-- The condition is the given one with operands in place of its terms, and they are what the registry
draws from them. -/
structure Lowered (r : Registry σ) (c : Condition Term) (d : Condition (Operand σ)) : Prop where
  map_eq : d.map Operand.term = c
  drawn : d.Forall (Operand.Drawn r)

theorem settles_bindAll {items : List (Condition Term)}
    (each : ∀ c ∈ items, Settles r c.calls (Lowered r c) (c.bind r)) :
    Settles r (callsAll items)
      (fun bound => mapAll Operand.term bound = items ∧ ∀ d ∈ bound, d.Forall (Operand.Drawn r))
      (bindAll r items) := by
  induction items with
  | nil => exact .ok (by simp [callsAll]) ⟨rfl, by simp⟩
  | cons c items ih =>
    rw [callsAll, bindAll]
    refine (each c (by simp)).bind fun d first => ?_
    refine (ih fun s mem => each s (List.mem_cons_of_mem c mem)).map fun bound others => ?_
    exact ⟨by rw [mapAll, first.map_eq, others.1],
      List.forall_mem_cons.2 ⟨first.drawn, others.2⟩⟩

theorem settles_bind (r : Registry σ) (c : Condition Term) :
    Settles r c.calls (Lowered r c) (c.bind r) := by
  have term := Term.settles_bind r
  induction c using Condition.induction with
  | all items ih =>
    rw [calls, bind]
    exact (settles_bindAll ih).map fun bound h => ⟨by rw [map, h.1], .all h.2⟩
  | any items ih =>
    rw [calls, bind]
    exact (settles_bindAll ih).map fun bound h => ⟨by rw [map, h.1], .any h.2⟩
  | and x y ihx ihy =>
    rw [calls, bind]
    exact ihx.bind fun a ha => ihy.map fun b hb =>
      ⟨by rw [map, ha.map_eq, hb.map_eq], .and ha.drawn hb.drawn⟩
  | or x y ihx ihy =>
    rw [calls, bind]
    exact ihx.bind fun a ha => ihy.map fun b hb =>
      ⟨by rw [map, ha.map_eq, hb.map_eq], .or ha.drawn hb.drawn⟩
  | not x ih =>
    rw [calls, bind]
    exact ih.map fun a ha => ⟨by rw [map, ha.map_eq], .not ha.drawn⟩
  | compare op a b =>
    rw [calls, bind]
    exact (term a).bind fun o ho => (term b).map fun o' ho' =>
      ⟨by rw [map, ho.1, ho'.1], .compare ho.2 ho'.2⟩
  | operand a =>
    rw [calls, bind]
    exact (term a).map fun o ho => ⟨by rw [map, ho.1], .operand ho.2⟩

/-- A condition is bound just when each of its calls can be made.  The bound condition is the same one
in every respect, and each call in it has what the registry holds for its name.  Otherwise the error is
the one for the first call that cannot be made, from left to right and arguments before their call. -/
theorem bind_goes_call_by_call (r : Registry σ) (c : Condition Term) :
    ((∃ d, c.bind r = .ok d) ↔ ∀ call ∈ c.calls, call.Binds r) ∧
    (∀ d, c.bind r = .ok d → d.map Operand.term = c ∧ d.Forall (Operand.Drawn r)) ∧
    ∀ e, c.bind r = .error e ↔ FirstRefused r c.calls e := by
  have settles := settles_bind r c
  refine ⟨settles.exists_ok_iff, fun d bound => ?_, settles.error_iff⟩
  rw [bound] at settles
  obtain ⟨map_eq, drawn⟩ := settles.holds_of_ok
  exact ⟨map_eq, drawn⟩

theorem bind_goes_call_by_call_of_two_refused :
    let r : Registry Path.Memo := .default
    let lower : Term := .call "str.lower" [.path "$.a"]
    let fine : Condition Term := .not (.compare .less (.call "str.len" [lower]) (.path "$.b"))
    let bad : Condition Term := .and (.operand lower)
      (.all [.operand (.call "str.len" [.call "abs" [.path "$.a"]]), .operand (.call "nope" [lower])])
    let e : Function.Error := .argumentKind "str.len" 1 .string "call to abs returning number"
    ((∃ d, fine.bind r = .ok d ∧ d.map Operand.term = fine ∧ d.Forall (Operand.Drawn r)) ∧
      ∀ call ∈ fine.calls, call.Binds r) ∧
    bad.bind r = .error e ∧ FirstRefused r bad.calls e := by
  intro r lower fine bad e
  obtain ⟨accepted, lowered, -⟩ := bind_goes_call_by_call r fine
  obtain ⟨-, -, refused⟩ := bind_goes_call_by_call r bad
  have bound : ∃ d, fine.bind r = .ok d := ⟨_, rfl⟩
  have unbound : bad.bind r = .error e := rfl
  obtain ⟨d, hd⟩ := bound
  exact ⟨⟨⟨d, hd, lowered d hd⟩, accepted.1 ⟨d, hd⟩⟩, unbound, (refused e).1 unbound⟩

end Condition

end Verdict
