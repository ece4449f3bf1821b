import Verdict.Proofs.Evaluation.Lookups

/-!
# Strict operators and lists of two

Where a strict operator decides both sides, a list of the same two conditions leaves out the second one
if the first one decides.  `Condition.lazy` puts such lists in place of all strict operators.  That does
not change what the condition comes to, and of its references some may go, but none comes in or
changes its place.
-/

namespace Verdict

variable {σ α : Type} {look : String → Option Json}

namespace Condition

mutual

/-- The condition with lists of two in place of the strict operators. -/
def lazy : Condition α → Condition α
  | .all items => .all (lazyAll items)
  | .any items => .any (lazyAll items)
  | .and x y => .all [x.lazy, y.lazy]
  | .or x y => .any [x.lazy, y.lazy]
  | .not x => .not x.lazy
  | .compare op a b => .compare op a b
  | .operand a => .operand a

/-- The conditions with lists of two in place of the strict operators. -/
def lazyAll : List (Condition α) → List (Condition α)
  | [] => []
  | x :: items => x.lazy :: lazyAll items

end

theorem lazyAll_eq_map (items : List (Condition α)) : lazyAll items = items.map lazy := by
  induction items with
  | nil => rfl
  | cons x items ih => rw [lazyAll, ih, List.map_cons]

theorem Forall.lazy {p : α → Prop} {c : Condition α} (h : c.Forall p) : c.lazy.Forall p := by
  have list {items : List (Condition α)} (each : ∀ x ∈ items, x.lazy.Forall p) :
      ∀ x ∈ lazyAll items, x.Forall p := by
    simpa only [lazyAll_eq_map, List.forall_mem_map] using each
  have two {x y : Condition α} (hx : x.Forall p) (hy : y.Forall p) : ∀ z ∈ [x, y], z.Forall p := by
    simpa using ⟨hx, hy⟩
  induction h with
  | all inside ih => exact .all (list ih)
  | any inside ih => exact .any (list ih)
  | and left right ihx ihy => exact .all (two ihx ihy)
  | or left right ihx ihy => exact .any (two ihx ihy)
  | not inside ih => exact .not ih
  | compare left right => exact .compare left right
  | operand only => exact .operand only

/-! ### What it comes to -/

theorem verdicts_lazyAll {items : List (Condition (Operand σ))}
    (each : ∀ x ∈ items, x.lazy.holds look = x.holds look) :
    verdicts look (lazyAll items) = verdicts look items := by
  induction items with
  | nil => rfl
  | cons x items ih =>
    rw [lazyAll, verdicts, verdicts, each x (by simp),
      ih fun y mem => each y (List.mem_cons_of_mem x mem)]

theorem holds_lazy (c : Condition (Operand σ)) : c.lazy.holds look = c.holds look := by
  induction c using Condition.induction with
  | all items ih => rw [lazy, holds, holds, verdicts_lazyAll ih]
  | any items ih => rw [lazy, holds, holds, verdicts_lazyAll ih]
  | and x y ihx ihy => simp [lazy, holds, verdicts, ihx, ihy]
  | or x y ihx ihy => simp [lazy, holds, verdicts, ihx, ihy]
  | not x ih => rw [lazy, holds, holds, ih]
  | compare op a b => rfl
  | operand a => rfl

/-! ### What it refers to -/

theorem references_lazyAll {items : List (Condition (Operand σ))}
    (each : ∀ x ∈ items, (x.lazy.references look).Sublist (x.references look)) (verdict : Bool) :
    (referencesUntil look verdict (lazyAll items)).Sublist (referencesUntil look verdict items) := by
  induction items with
  | nil => exact .refl _
  | cons x items ih =>
    -- the same condition decides in both lists, so the same conditions are left out
    rw [lazyAll, referencesUntil, referencesUntil, holds_lazy]
    refine (each x (by simp)).append ?_
    split
    · exact .refl _
    · exact ih fun y mem => each y (List.mem_cons_of_mem x mem)

/-- A list of two refers to the first condition, and to the second one or to nothing more. -/
theorem references_two {x y : Condition (Operand σ)} {texts texts' : List String}
    (hx : (x.references look).Sublist texts) (hy : (y.references look).Sublist texts')
    (verdict : Bool) : (referencesUntil look verdict [x, y]).Sublist (texts ++ texts') := by
  rw [referencesUntil, referencesUntil, referencesUntil, ite_self, List.append_nil]
  refine hx.append ?_
  split
  · exact List.nil_sublist _
  · exact hy

theorem references_lazy (c : Condition (Operand σ)) :
    (c.lazy.references look).Sublist (c.references look) := by
  induction c using Condition.induction with
  | all items ih =>
    rw [lazy, references, references]
    exact references_lazyAll ih false
  | any items ih =>
    rw [lazy, references, references]
    exact references_lazyAll ih true
  | and x y ihx ihy =>
    rw [lazy, references, references]
    exact references_two ihx ihy false
  | or x y ihx ihy =>
    rw [lazy, references, references]
    exact references_two ihx ihy true
  | not x ih =>
    rw [lazy, references, references]
    exact ih
  | compare op a b => exact .refl _
  | operand a => exact .refl _

end Condition

/-- With lists of two in place of the strict operators a condition comes to the same, while it refers
to some of the paths only, in the same order.  So the resolver is asked about no other texts, and not
about more of them. -/
theorem lazy_saves_lookups {e : Evaluator σ} {sound : σ → Prop} {look : Json → String → Option Json}
    (resolves : e.resolver.Pure sound look) {world world' : σ} (here : sound world)
    (there : sound world') {root : Condition (Operand σ)} (bound : root.Forall Operand.Bound)
    (document : Json) :
    let eager := e.sessionAfter root document world
    let lazy := e.sessionAfter root.lazy document world'
    let found := (e.examine root document world).1
    let found' := (e.examine root.lazy document world').1
    found'.holds = found.holds ∧
    (lazy.texts.Sublist eager.texts ∧ lazy.asked ⊆ eager.asked) ∧
    (∀ record : σ → List String,
      (∀ text w, record ((e.resolver.resolve document text).run w).2 = record w ++ [text]) →
      record world = [] → record world' = [] → record lazy.world ⊆ record eager.world) ∧
    found'.lookups ≤ found.lookups ∧
    found'.lookups + found'.hits ≤ found.lookups + found.hits := by
  intro eager lazy found found'
  obtain ⟨texts, comes⟩ : eager.texts = _ ∧ found = _ :=
    Evaluator.examine_of_pure resolves here bound
  obtain ⟨texts', comes'⟩ : lazy.texts = _ ∧ found' = _ :=
    Evaluator.examine_of_pure resolves there bound.lazy
  have fewer : lazy.texts.Sublist eager.texts := by
    rw [texts, texts']
    exact root.references_lazy
  have asked : lazy.asked ⊆ eager.asked := by
    have exact : eager.Exact := Evaluator.exact_sessionAfter
    have exact' : lazy.Exact := Evaluator.exact_sessionAfter
    intro text mem
    rw [exact'.asked_eq, List.mem_eraseDups] at mem
    rw [exact.asked_eq, List.mem_eraseDups]
    exact fewer.subset mem
  refine ⟨?_, ⟨fewer, asked⟩, fun record records empty empty' => ?_, ?_⟩
  · rw [comes, comes']
    exact root.holds_lazy
  · rw [Evaluator.record_sessionAfter bound.lazy records, Evaluator.record_sessionAfter bound records,
      empty, empty']
    exact asked
  · rw [comes, comes', Finding.lookups_add_hits, Finding.lookups_add_hits, ← texts, ← texts']
    have distinct : lazy.texts.toFinset ⊆ eager.texts.toFinset := fun text mem =>
      List.mem_toFinset.2 (fewer.subset (List.mem_toFinset.1 mem))
    exact ⟨Finset.card_le_card distinct, fewer.length_le⟩

theorem lazy_saves_lookups_of_missing :
    let inner : Resolver (List String) :=
      ⟨"recording", fun document text w =>
        (if text = "$.a" then some document else none, w ++ [text])⟩
    let e : Evaluator (List String) := ⟨.default, inner⟩
    let root : Condition (Operand (List String)) :=
      .or (.not (.and (.operand (.path "$.b")) (.operand (.path "$.a")))) (.operand (.path "$.c"))
    let found := (e.examine root (.bool true) []).1
    let found' := (e.examine root.lazy (.bool true) []).1
    (e.resolver.Pure (fun _ => True) (fun document text =>
        if text = "$.a" then some document else none) ∧ root.Forall Operand.Bound) ∧
    found'.holds = found.holds ∧ found'.lookups ≤ found.lookups ∧
      found = ⟨true, 3, 0⟩ ∧ found' = ⟨true, 1, 0⟩ := by
  intro inner e root found found'
  have resolves : e.resolver.Pure (fun _ => True) (fun document text =>
      if text = "$.a" then some document else none) :=
    ⟨fun _ _ _ _ => rfl, fun _ _ _ _ => trivial⟩
  have bound : root.Forall Operand.Bound :=
    .or (.not (.and (.operand (.path _)) (.operand (.path _)))) (.operand (.path _))
  have anywhere (world : List String) : (fun _ : List String => True) world := trivial
  obtain ⟨same, -, -, fewer, -⟩ :=
    lazy_saves_lookups resolves (anywhere []) (anywhere []) bound (.bool true)
  exact ⟨⟨resolves, bound⟩, same, fewer, by decide +kernel, by decide +kernel⟩

end Verdict
