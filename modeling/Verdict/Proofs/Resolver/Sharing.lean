import Verdict.Proofs.Resolver.Memo

/-!
# A memo that is shared

A resolver may be asked by many, one after the other or all at the same time.  However it was asked
before, its world is one that asking *leads* to; and a resolver whose answers depend on nothing else
is still in a sound world then.

What others ask at the same time, as `Interruption` has it, shows in no answer, `pure_among`; and the
memo is left as if all had asked one after the other, `leads_among`.
-/

namespace Verdict.Resolver

variable {σ : Type} {resolver : Resolver σ}

/-! ### Asking one after the other -/

/-- Asking the resolver leads from a world to another one. -/
def Leads (resolver : Resolver σ) (world w : σ) : Prop :=
  ∃ requests, ((resolver.answerAll requests).run world).2 = w

theorem leads_answerAll (requests : List (Json × String)) (world : σ) :
    resolver.Leads world ((resolver.answerAll requests).run world).2 :=
  ⟨requests, rfl⟩

theorem leads_refl (world : σ) : resolver.Leads world world :=
  ⟨[], rfl⟩

theorem leads_resolve (document : Json) (text : String) (world : σ) :
    resolver.Leads world ((resolver.resolve document text).run world).2 :=
  ⟨[(document, text)], rfl⟩

theorem run_answerAll_append (requests others : List (Json × String)) (world : σ) :
    ((resolver.answerAll (requests ++ others)).run world).2 =
      ((resolver.answerAll others).run ((resolver.answerAll requests).run world).2).2 := by
  induction requests generalizing world with
  | nil => rfl
  | cons request requests ih => exact ih _

theorem Leads.trans {a b c : σ} (first : resolver.Leads a b) (second : resolver.Leads b c) :
    resolver.Leads a c := by
  obtain ⟨requests, rfl⟩ := first
  obtain ⟨others, rfl⟩ := second
  exact ⟨requests ++ others, run_answerAll_append requests others a⟩

/-- Asking leads from sound worlds to sound worlds only. -/
theorem Pure.sound_of_leads {sound : σ → Prop} {look : Json → String → Option Json}
    (h : resolver.Pure sound look) {world w : σ} (here : sound world)
    (leads : resolver.Leads world w) : sound w := by
  obtain ⟨requests, rfl⟩ := leads
  induction requests generalizing world with
  | nil => exact here
  | cons request requests ih => exact ih (h.stays request.1 request.2 world here)

/-! ### Asking at the same time -/

theorem run_compileAmong (pointers : Bool) (capacity : Nat) (others : Interruption) (text : String)
    (memo : Path.Memo) :
    let asked := (((jsonPath pointers capacity).answerAll others.before).run memo).2
    (compileAmong pointers capacity others text).run memo =
      match asked.find? text with
      | some path => (path, asked)
      | none => ((Path.parse text).toOption,
          (((jsonPath pointers capacity).answerAll others.between).run asked).2.insert capacity text
            (Path.parse text).toOption) := by
  intro asked
  change StateT.run (match asked.find? text with
    | some path => pure path
    | none => do
      let _ ← (jsonPath pointers capacity).answerAll others.between
      modify (·.insert capacity text (Path.parse text).toOption)
      pure (Path.parse text).toOption) asked = _
  cases asked.find? text <;> rfl

theorem among_none (pointers : Bool) (capacity : Nat) :
    among pointers capacity (fun _ => .none) = jsonPath pointers capacity := by
  rw [among, jsonPath]
  congr 1
  funext text
  refine StateT.ext fun memo => ?_
  rw [run_compileAmong, run_compile]
  rfl

section Among

variable {pointers : Bool} {capacity : Nat} {others : String → Interruption}

/-- What others ask shows in no answer. -/
theorem pure_among : (among pointers capacity others).Pure Path.Memo.Sound (target pointers) := by
  refine pure_reading pointers fun text memo here => ?_
  have sound_of_leads {a b : Path.Memo} (here : a.Sound)
      (leads : (jsonPath pointers capacity).Leads a b) : b.Sound :=
    (pure_jsonPath pointers capacity).sound_of_leads here leads
  have asked := sound_of_leads here (leads_answerAll (others text).before memo)
  rw [run_compileAmong]
  cases found : Path.Memo.find? _ text with
  | some path => exact ⟨asked.find? found, asked⟩
  | none =>
    exact ⟨rfl, (sound_of_leads asked (leads_answerAll (others text).between _)).insert capacity text⟩

/-- The memo is never left otherwise than by those who ask one after the other. -/
theorem leads_among (document : Json) (text : String) (memo : Path.Memo) :
    (jsonPath pointers capacity).Leads memo
      (((among pointers capacity others).resolve document text).run memo).2 := by
  rw [among, world_run_reading]
  by_cases path : isPath text
  · -- inserting what the text reads as is what asking about the text comes to
    have inserted (memo : Path.Memo) : (jsonPath pointers capacity).Leads memo
        (memo.insert capacity text (Path.parse text).toOption) := by
      have asked : (jsonPath pointers capacity).Leads memo _ := leads_resolve document text memo
      rwa [memo_run_resolve, if_pos path] at asked
    rw [if_pos path, run_compileAmong]
    refine (leads_answerAll (others text).before memo).trans ?_
    cases Path.Memo.find? _ text with
    | some path => exact leads_refl _
    | none => exact (leads_answerAll (others text).between _).trans (inserted _)
  · rw [if_neg path]
    exact leads_refl memo

end Among

end Verdict.Resolver
