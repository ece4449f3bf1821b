import Verdict.Proofs.Evaluation.Cache
import Verdict.Proofs.Function.Registry

/-!
# The functions that every rule can call

The body of such a function answers with the literal that `Function.result` gives, `answers_builtin`,
as soon as its arguments stand for literals.  The functions come in a few shapes; each shape asks for
its arguments from left to right and answers at the end.
-/

namespace Verdict

variable {σ α β : Type} {sound : σ → Prop} {env : Environment σ}

/-! ### Requests -/

theorem Procedure.run_bind (arguments : List (Meaning σ)) (p : Procedure σ α)
    (f : α → Procedure σ β) :
    (p >>= f).run env arguments = p.run env arguments >>= fun a => (f a).run env arguments := by
  induction p with
  | done a => rfl
  | ask request next ih =>
    change (Procedure.ask request fun reply => next reply >>= f).run env arguments = _
    simp only [Procedure.run, ih, bind_assoc]

namespace Operand

theorem meanings_eq_map (operands : List (Operand σ)) :
    meanings env operands = operands.map (meaning env) := by
  induction operands with
  | nil => rfl
  | cons a operands ih => rw [meanings, ih, List.map_cons]

end Operand

variable {look : String → Option Json} {operands : List (Operand σ)}

/-- The operands stand for the literals that they stand for without a session. -/
def Stand (sound : σ → Prop) (look : String → Option Json) (env : Environment σ)
    (operands : List (Operand σ)) : Prop :=
  ∀ a ∈ operands, (a.meaning env).Denotes sound look (some (a.value look))

theorem Procedure.run_number (arguments : List (Meaning σ)) (i : Nat) (default : Float) :
    (Procedure.number i default).run env arguments =
      match arguments[i]? with
      | some a => a.number default
      | none => pure default :=
  bind_pure _

theorem Procedure.run_string (arguments : List (Meaning σ)) (i : Nat) (default : String) :
    (Procedure.string i default).run env arguments =
      match arguments[i]? with
      | some a => a.string default
      | none => pure default :=
  bind_pure _

theorem Procedure.run_object (arguments : List (Meaning σ)) (i : Nat) :
    (Procedure.object i).run env arguments =
      match arguments[i]? with
      | some a => a.object
      | none => pure Literal.null :=
  bind_pure _

theorem ensures_number (stand : Stand sound look env operands) (i : Nat) :
    Ensures sound look ((Procedure.number i 0.0).run env (Operand.meanings env operands))
      (· = Function.numberAt (Operand.values look operands) i) := by
  rw [Procedure.run_number, Operand.meanings_eq_map, Operand.values_eq_map, Function.numberAt,
    List.getElem?_map, List.getElem?_map]
  cases h : operands[i]? with
  | some a =>
    refine ((stand a (List.mem_of_getElem? h)).number 0.0).mono fun x hx => ?_
    simpa using hx
  | none => exact ensures_pure rfl

theorem ensures_string (stand : Stand sound look env operands) (i : Nat) :
    Ensures sound look ((Procedure.string i "").run env (Operand.meanings env operands))
      fun s => s.toList = Function.textAt (Operand.values look operands) i := by
  rw [Procedure.run_string, Operand.meanings_eq_map, Operand.values_eq_map, Function.textAt,
    List.getElem?_map, List.getElem?_map]
  cases h : operands[i]? with
  | some a =>
    refine ((stand a (List.mem_of_getElem? h)).string "").mono fun s hs => ?_
    simp [hs]
  | none => exact ensures_pure rfl

theorem ensures_object (stand : Stand sound look env operands) (i : Nat) :
    Ensures sound look ((Procedure.object i).run env (Operand.meanings env operands))
      (· = Function.literalAt (Operand.values look operands) i) := by
  rw [Procedure.run_object, Operand.meanings_eq_map, Operand.values_eq_map, Function.literalAt,
    List.getElem?_map, List.getElem?_map]
  cases h : operands[i]? with
  | some a =>
    refine (stand a (List.mem_of_getElem? h)).object.mono fun l hl => ?_
    simpa using hl
  | none => exact ensures_pure rfl

/-- The body of a function answers with the literal that is given. -/
def Answers (sound : σ → Prop) (look : String → Option Json) (env : Environment σ)
    (operands : List (Operand σ)) (body : Procedure σ Answer) (l : Literal) : Prop :=
  Ensures sound look (body.run env (Operand.meanings env operands)) (· = .literal l)

theorem answers_onNumber (stand : Stand sound look env operands) (f : Float → Float) :
    Answers sound look env operands (Function.onNumber f)
      (.number (f (Function.numberAt (Operand.values look operands) 0))) := by
  unfold Answers Function.onNumber
  rw [Procedure.run_bind]
  refine (ensures_number stand 0).bind fun x hx => ensures_pure ?_
  rw [hx, Function.ofNumber]

theorem answers_onNumbers (stand : Stand sound look env operands) (f : Float → Float → Float) :
    Answers sound look env operands (Function.onNumbers f)
      (.number (f (Function.numberAt (Operand.values look operands) 0)
        (Function.numberAt (Operand.values look operands) 1))) := by
  unfold Answers Function.onNumbers
  rw [Procedure.run_bind]
  refine (ensures_number stand 0).bind fun x hx => ?_
  rw [Procedure.run_bind]
  refine (ensures_number stand 1).bind fun y hy => ensures_pure ?_
  rw [hx, hy, Function.ofNumber]

theorem answers_onText (stand : Stand sound look env operands) (f : List Char → Literal) :
    Answers sound look env operands (Function.onText fun s => .literal (f s))
      (f (Function.textAt (Operand.values look operands) 0)) := by
  unfold Answers Function.onText
  rw [Procedure.run_bind]
  refine (ensures_string stand 0).bind fun s hs => ensures_pure ?_
  rw [hs]

theorem answers_onTexts (stand : Stand sound look env operands)
    (f : List Char → List Char → Bool) :
    Answers sound look env operands (Function.onTexts f)
      (.bool (f (Function.textAt (Operand.values look operands) 0)
        (Function.textAt (Operand.values look operands) 1))) := by
  unfold Answers Function.onTexts
  rw [Procedure.run_bind]
  refine (ensures_string stand 0).bind fun s hs => ?_
  rw [Procedure.run_bind]
  refine (ensures_string stand 1).bind fun t ht => ensures_pure ?_
  rw [hs, ht, Function.ofBool]

theorem answers_arrayLength (stand : Stand sound look env operands) :
    Answers sound look env operands Function.arrayLength
      (.number (Float.ofNat
        (Function.length (Function.literalAt (Operand.values look operands) 0)))) := by
  unfold Answers Function.arrayLength
  rw [Procedure.run_bind]
  refine (ensures_object stand 0).bind fun l hl => ensures_pure ?_
  rw [hl, Function.ofNumber]

theorem answers_arrayContains (stand : Stand sound look env operands) :
    Answers sound look env operands Function.arrayContains
      (.bool (Function.contains (Function.literalAt (Operand.values look operands) 0)
        (Function.literalAt (Operand.values look operands) 1))) := by
  unfold Answers Function.arrayContains
  rw [Procedure.run_bind]
  refine (ensures_object stand 0).bind fun l hl => ?_
  rw [Procedure.run_bind]
  refine (ensures_object stand 1).bind fun m hm => ensures_pure ?_
  rw [hl, hm, Function.ofBool]

/-- A call of such a function comes to what is said of its name. -/
theorem answers_builtin (stand : Stand sound look env operands) {f : Function σ}
    (mem : f ∈ Function.builtins) :
    Answers sound look env operands f.implementation.body
      (Function.result f.name (Operand.values look operands)) := by
  simp only [Function.builtins, List.mem_cons, List.not_mem_nil, or_false] at mem
  rcases mem with rfl | rfl | rfl | rfl | rfl | rfl | rfl | rfl | rfl | rfl | rfl | rfl | rfl | rfl
  · exact answers_onNumber stand Float.abs
  · exact answers_onNumber stand Decimal.ceiling
  · exact answers_onNumber stand Decimal.floor
  · exact answers_onNumber stand Decimal.round
  · exact answers_onNumbers stand Float.add
  · exact answers_onNumbers stand Float.sub
  · exact answers_onText stand fun s => .number (Float.ofNat s.length)
  · exact answers_onText stand fun s => .string (String.ofList (Text.lower s))
  · exact answers_onText stand fun s => .string (String.ofList (Text.upper s))
  · exact answers_onTexts stand fun s t => t.isPrefixOf s
  · exact answers_onTexts stand fun s t => t.isSuffixOf s
  · exact answers_onTexts stand fun s t => Text.occursIn t s
  · exact answers_arrayLength stand
  · exact answers_arrayContains stand

/-! ### The registry -/

theorem mem_builtins_of_find? {name : String} {f : Function σ}
    (h : Registry.default.find? name = some f) : f ∈ Function.builtins ∧ f.name = name := by
  have mem : f ∈ (Registry.default : Registry σ).functions := List.mem_of_find?_eq_some h
  rw [Registry.default_eq_after] at mem
  exact ⟨(Registry.mem_of_mem_after mem).resolve_right (by simp [Registry.empty]),
    Registry.name_of_find? h⟩

/-- A call that the registry makes is one of a function of its name, with as many arguments as the
function has parameters. -/
theorem call_of_bind {name : String} {arguments : List (Operand σ)} {operand : Operand σ}
    (made : Registry.default.bind name arguments = .ok operand) :
    ∃ f : Function σ, f ∈ Function.builtins ∧
      arguments.length = f.signature.parameters.length ∧
      operand = .call f.name arguments f.signature.returns f.implementation := by
  obtain ⟨f, found, arity, -, rfl⟩ := Registry.bind_eq_ok_iff.1 made
  obtain ⟨mem, rfl⟩ := mem_builtins_of_find? found
  exact ⟨f, mem, arity, rfl⟩

/-- The functions that every rule can call enter no world at all. -/
theorem respects_builtin (sound : σ → Prop) {f : Function σ} (mem : f ∈ Function.builtins) :
    f.implementation.body.Respects sound := by
  simp only [Function.builtins, List.mem_cons, List.not_mem_nil, or_false] at mem
  rcases mem with rfl | rfl | rfl | rfl | rfl | rfl | rfl | rfl | rfl | rfl | rfl | rfl | rfl | rfl
  all_goals first
    | exact ⟨trivial, fun _ _ => trivial⟩
    | exact ⟨trivial, fun _ _ => ⟨trivial, fun _ _ => trivial⟩⟩

end Verdict
