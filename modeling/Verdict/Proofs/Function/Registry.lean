import Verdict.Function.Builtin

/-!
# Registries that were filled

Functions get into a registry by being registered, and in no other way.  So each of them has a proper
name, and can be found under it.  `Registry.after` registers one function after another, as it is done
for the registry that every rule has.
-/

namespace Verdict.Registry

variable {σ : Type} {r r' : Registry σ} {f g : Function σ} {fs : List (Function σ)} {name : String}
  {arguments : List (Operand σ)} {o : Operand σ}

/-! ### One function -/

theorem find?_insert (new : r.find? f.name = none) : (r.insert f new).find? f.name = some f := by
  have others : ∀ g ∈ r.functions, g.name ≠ f.name := by
    simpa using List.find?_eq_none.1 new
  suffices ∀ fs : List (Function σ), (∀ g ∈ fs, g.name ≠ f.name) →
      (f.place fs).find? (fun g => g.name == f.name) = some f from this _ others
  intro fs
  induction fs with
  | nil => simp [Function.place]
  | cons g gs ih =>
    intro others
    obtain ⟨other, behind⟩ := List.forall_mem_cons.1 others
    rw [Function.place]
    split
    · simp
    · rw [List.find?_cons_of_neg (by simpa using other)]
      exact ih behind

theorem isName_of_register (h : r.register f = .ok r') : Function.isName f.name = true := by
  unfold register at h
  split at h
  · assumption
  · cases h

theorem mem_of_mem_register (h : r.register f = .ok r') (mem : g ∈ r'.functions) :
    g = f ∨ g ∈ r.functions := by
  unfold register at h
  split at h
  · split at h
    · obtain rfl := Except.ok.inj h
      exact mem_place.1 mem
    · split at h
      · simp at h
      · split at h
        · simp at h
        · obtain rfl := Except.ok.inj h
          exact .inr mem
  · simp at h

/-! ### One function after another -/

/-- The registry after functions were registered one after another, without those that are refused. -/
def after (r : Registry σ) (fs : List (Function σ)) : Registry σ :=
  fs.foldl (fun r f => (r.register f).toOption.getD r) r

theorem default_eq_after : (default : Registry σ) = empty.after Function.builtins := rfl

theorem after_cons (r : Registry σ) (f : Function σ) (fs : List (Function σ)) :
    r.after (f :: fs) = (r.after [f]).after fs := rfl

theorem after_append (r : Registry σ) (fs gs : List (Function σ)) :
    r.after (fs ++ gs) = (r.after fs).after gs :=
  List.foldl_append

theorem after_of_register (h : r.register f = .ok r') : r.after [f] = r' := by
  simp [after, h, Except.toOption]

theorem after_of_refused (h : ¬ ∃ r', r.register f = .ok r') : r.after [f] = r := by
  cases refused : r.register f with
  | error e => simp [after, refused, Except.toOption]
  | ok r' => exact absurd ⟨r', refused⟩ h

/-- What every registration keeps holds in the end, whichever functions are refused. -/
theorem after_induction {motive : Registry σ → Prop} (start : motive r)
    (step : ∀ r r', ∀ f ∈ fs, r.register f = .ok r' → motive r → motive r') :
    motive (r.after fs) := by
  refine List.foldlRecOn fs _ start fun r here f mem => ?_
  cases h : r.register f with
  | error e => simpa [Except.toOption] using here
  | ok r' => simpa [Except.toOption] using step r r' f mem h here

/-- Registering one function after another brings in no others. -/
theorem mem_of_mem_after (mem : g ∈ (r.after fs).functions) : g ∈ fs ∨ g ∈ r.functions := by
  refine after_induction (motive := fun r' => g ∈ r'.functions → g ∈ fs ∨ g ∈ r.functions) .inr
    (fun r₁ r₂ f mem done before here => ?_) mem
  rcases mem_of_mem_register done here with rfl | here
  · exact .inl mem
  · exact before here

/-- The registry was filled by registering functions, one after another. -/
inductive Filled : Registry σ → Prop
  | empty : Filled .empty
  | register {r r' : Registry σ} {f : Function σ} (before : Filled r)
      (done : r.register f = .ok r') : Filled r'

theorem Filled.isName (filled : r.Filled) (mem : f ∈ r.functions) :
    Function.isName f.name = true := by
  induction filled with
  | empty => simp [Registry.empty] at mem
  | register before done ih =>
    rcases mem_of_mem_register done mem with rfl | mem
    · exact isName_of_register done
    · exact ih mem

theorem filled_default : (default : Registry σ).Filled := by
  rw [default_eq_after]
  exact after_induction .empty fun _ _ _ _ done before => .register before done

theorem Filled.insert (filled : r.Filled) (isName : Function.isName f.name = true)
    (new : r.find? f.name = none) : (r.insert f new).Filled := by
  refine .register filled (f := f) ?_
  unfold Registry.register
  rw [if_pos isName]
  split
  · rfl
  · simp_all

/-- Only what has a name can be called. -/
theorem Filled.isName_of_bind (filled : r.Filled) (made : r.bind name arguments = .ok o) :
    Function.isName name = true := by
  obtain ⟨f, found, -⟩ := bind_eq_ok_iff.1 made
  exact name_of_find? found ▸ filled.isName (List.mem_of_find?_eq_some found)

end Verdict.Registry
