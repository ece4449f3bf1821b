import Verdict.Proofs.Evaluation.Agreement
import Verdict.Proofs.Related

/-!
# Paths and the literals that they refer to

A path operand stands for the literal that it refers to, and for null if it refers to nothing.  So the
one can be put in the place of the other, in any of the places where the path stands, arguments of
calls included.  `Operand.Differs` and `Condition.Related` say what is changed; if the parts that are
exchanged stand for the same literals, then so do the whole operands, and the conditions come to the
same.
-/

namespace Verdict

variable {σ : Type} {look : String → Option Json}

/-! ### Changes -/

namespace Operand

/-- The operands are the same but for some of their parts, in the place of each of which the other one
has a part that it may be exchanged for. -/
inductive Differs (exchanged : Operand σ → Operand σ → Prop) : Operand σ → Operand σ → Prop
  | same (a : Operand σ) : Differs exchanged a a
  | here {a b : Operand σ} (change : exchanged a b) : Differs exchanged a b
  | call {name : String} {arguments others : List (Operand σ)} {returns : Kind}
      {implementation : Implementation σ}
      (inside : List.Forall₂ (Differs exchanged) arguments others) :
      Differs exchanged (.call name arguments returns implementation)
        (.call name others returns implementation)

end Operand

/-- The conditions have the same shape, and their operands are related one by one. -/
inductive Condition.Related {α β : Type} (rel : α → β → Prop) : Condition α → Condition β → Prop
  | all {items : List (Condition α)} {others : List (Condition β)}
      (inside : List.Forall₂ (Related rel) items others) : Related rel (.all items) (.all others)
  | any {items : List (Condition α)} {others : List (Condition β)}
      (inside : List.Forall₂ (Related rel) items others) : Related rel (.any items) (.any others)
  | and {x y : Condition α} {z w : Condition β} (left : Related rel x z) (right : Related rel y w) :
      Related rel (.and x y) (.and z w)
  | or {x y : Condition α} {z w : Condition β} (left : Related rel x z) (right : Related rel y w) :
      Related rel (.or x y) (.or z w)
  | not {x : Condition α} {y : Condition β} (inside : Related rel x y) : Related rel (.not x) (.not y)
  | compare {op : Comparison} {a b : α} {c d : β} (left : rel a c) (right : rel b d) :
      Related rel (.compare op a b) (.compare op c d)
  | operand {a : α} {b : β} (only : rel a b) : Related rel (.operand a) (.operand b)

/-! ### What they come to -/

/-- If parts that are exchanged stand for the same literals, then so do the operands. -/
theorem Operand.Differs.value_eq {exchanged : Operand σ → Operand σ → Prop}
    (same : ∀ a b, exchanged a b → a.value look = b.value look) {a b : Operand σ}
    (h : a.Differs exchanged b) : a.value look = b.value look := by
  induction a using Operand.induction generalizing b with
  | literal l =>
    cases h with
    | same => rfl
    | here change => exact same _ _ change
  | path text =>
    cases h with
    | same => rfl
    | here change => exact same _ _ change
  | call name arguments returns implementation ih =>
    cases h with
    | same => rfl
    | here change => exact same _ _ change
    | call inside =>
      rename_i others
      have each : List.Forall₂ (fun a b : Operand σ => a.value look = b.value look) arguments others :=
        rel_of_mem inside fun a mem _ => ih a mem
      rw [value, value, values_eq_map, values_eq_map]
      refine congrArg (Function.result name) (List.forall₂_eq_eq_eq ▸ ?_)
      rwa [List.forall₂_map_left_iff, List.forall₂_map_right_iff]

namespace Condition

variable {rel : Operand σ → Operand σ → Prop}

/-- If the operands stand for the same literals one by one, then the conditions come to the same. -/
theorem Related.holds_eq (same : ∀ a b, rel a b → a.value look = b.value look)
    {c d : Condition (Operand σ)} (h : c.Related rel d) : c.holds look = d.holds look := by
  induction c using Condition.induction generalizing d with
  | all items ih =>
    cases h with
    | all inside =>
      rw [holds, holds, verdicts_eq_of_forall₂ (rel_of_mem inside fun x mem _ => ih x mem)]
  | any items ih =>
    cases h with
    | any inside =>
      rw [holds, holds, verdicts_eq_of_forall₂ (rel_of_mem inside fun x mem _ => ih x mem)]
  | and x y ihx ihy =>
    cases h with
    | and left right => rw [holds, holds, ihx left, ihy right]
  | or x y ihx ihy =>
    cases h with
    | or left right => rw [holds, holds, ihx left, ihy right]
  | not x ih =>
    cases h with
    | not inside => rw [holds, holds, ih inside]
  | compare op a b =>
    cases h with
    | compare left right => rw [holds, holds, same _ _ left, same _ _ right]
  | operand a =>
    cases h with
    | operand only => rw [holds, holds, same _ _ only]

theorem Related.forall {p q : Operand σ → Prop} (imp : ∀ a b, rel a b → p a → q b)
    {c d : Condition (Operand σ)} (h : c.Related rel d) (hc : c.Forall p) : d.Forall q := by
  have list {items others : List (Condition (Operand σ))}
      (inside : List.Forall₂ (Related rel) items others)
      (each : ∀ x ∈ items, ∀ y, x.Related rel y → y.Forall q) : ∀ y ∈ others, y.Forall q := by
    intro y mem
    obtain ⟨x, mem', h⟩ := exists_rel_of_mem inside mem
    exact each x mem' y h
  induction hc generalizing d with
  | all _ ih =>
    cases h with
    | all inside => exact .all (list inside fun x mem _ => ih x mem)
  | any _ ih =>
    cases h with
    | any inside => exact .any (list inside fun x mem _ => ih x mem)
  | and _ _ ihx ihy =>
    cases h with
    | and left right => exact .and (ihx left) (ihy right)
  | or _ _ ihx ihy =>
    cases h with
    | or left right => exact .or (ihx left) (ihy right)
  | not _ ih =>
    cases h with
    | not inside => exact .not (ih inside)
  | compare ha hb =>
    cases h with
    | compare left right => exact .compare (imp _ _ left ha) (imp _ _ right hb)
  | operand ha =>
    cases h with
    | operand only => exact .operand (imp _ _ only ha)

end Condition

/-! ### Calls that can still be made -/

namespace Registry

variable {arguments others : List (Operand σ)}

/-- Where arguments are accepted, those that are accepted alike are accepted too. -/
theorem misfit?_eq_none (each : List.Forall₂ (fun a b => ∀ kind : Kind, kind.accepts a = kind.accepts b)
    arguments others) {position : Nat} {kinds : List Kind}
    (fit : misfit? position kinds arguments = none) : misfit? position kinds others = none := by
  induction each generalizing position kinds with
  | nil => exact fit
  | cons first _ ih =>
    cases kinds with
    | nil => rfl
    | cons kind kinds =>
      rw [misfit?] at fit ⊢
      rw [← first kind]
      split at fit
      · rw [if_pos ‹_›]
        exact ih fit
      · cases fit

theorem bind_of_accepts {r : Registry σ} {name : String} {returns : Kind}
    {implementation : Implementation σ}
    (each : List.Forall₂ (fun a b => ∀ kind : Kind, kind.accepts a = kind.accepts b) arguments others)
    (made : r.bind name arguments = .ok (.call name arguments returns implementation)) :
    r.bind name others = .ok (.call name others returns implementation) := by
  obtain ⟨f, found, arity, fit, same⟩ := bind_eq_ok_iff.1 made
  obtain ⟨-, -, rfl, rfl⟩ := Operand.call.inj same
  exact bind_eq_ok_iff.2 ⟨f, found, each.length_eq ▸ arity, misfit?_eq_none each fit, rfl⟩

end Registry

namespace Operand

variable {exchanged : Operand σ → Operand σ → Prop}

theorem Differs.accepts
    (alike : ∀ a b, exchanged a b → ∀ kind : Kind, kind.accepts a = kind.accepts b)
    {a b : Operand σ} (h : a.Differs exchanged b) (kind : Kind) :
    kind.accepts a = kind.accepts b := by
  cases h with
  | same => rfl
  | here change => exact alike _ _ change kind
  | call inside => rfl

/-- If parts that are exchanged are accepted alike, then the calls around them can still be made. -/
theorem Differs.bound
    (alike : ∀ a b, exchanged a b → ∀ kind : Kind, kind.accepts a = kind.accepts b)
    (new : ∀ a b, exchanged a b → b.Bound) {a b : Operand σ} (h : a.Differs exchanged b)
    (bound : a.Bound) : b.Bound := by
  induction bound generalizing b with
  | literal l =>
    cases h with
    | same => exact .literal l
    | here change => exact new _ _ change
  | path text =>
    cases h with
    | same => exact .path text
    | here change => exact new _ _ change
  | @call name arguments operand inside made ih =>
    obtain ⟨f, -, -, -, rfl⟩ := Registry.bind_eq_ok_iff.1 made
    cases h with
    | same => exact .call inside made
    | here change => exact new _ _ change
    | call each =>
      refine .call (fun b mem => ?_)
        (Registry.bind_of_accepts (rel_of_mem each fun a _ b h => h.accepts alike) made)
      obtain ⟨a, mem', h⟩ := exists_rel_of_mem each mem
      exact ih a mem' h

/-- A path, and the literal that it refers to. -/
inductive Resolved (look : String → Option Json) : Operand σ → Operand σ → Prop
  | intro (text : String) : Resolved look (.path text) (.literal (Meaning.literalOf (look text)))

/-- Null, or a path that refers to nothing or to null. -/
inductive Nothing (look : String → Option Json) : Operand σ → Prop
  | null : Nothing look (.literal .null)
  | absent {text : String} (refers : look text = none) : Nothing look (.path text)
  | path {text : String} (refers : look text = some .null) : Nothing look (.path text)

theorem Resolved.value_eq {a b : Operand σ} (h : a.Resolved look b) :
    a.value look = b.value look := by
  cases h
  rfl

theorem Nothing.value_eq {a : Operand σ} (h : a.Nothing look) : a.value look = .null := by
  cases h with
  | null => rfl
  | absent refers =>
    rw [value, refers]
    rfl
  | path refers =>
    rw [value, refers]
    rfl

theorem Nothing.accepts {a : Operand σ} (h : a.Nothing look) (kind : Kind) :
    kind.accepts a = true := by
  cases h with
  | null => cases kind <;> rfl
  | absent refers => rfl
  | path refers => rfl

theorem Nothing.bound {a : Operand σ} (h : a.Nothing look) : a.Bound := by
  cases h with
  | null => exact .literal .null
  | absent refers => exact .path _
  | path refers => exact .path _

end Operand

/-! ### Evaluation -/

/-- A condition comes to the same if some of its paths, wherever they stand, are replaced by the literals
that they refer to, and by null if they refer to nothing, as long as the calls can be made with these
arguments.  And wherever there is null, or a path that refers to nothing or to null, there can just as
well be another of these: all calls can be made with it, and the condition comes to the same.  This
holds in any two sessions that remember what the resolver answers, and so in fresh ones. -/
theorem resolved_paths_are_interchangeable {sound : σ → Prop} {env : Environment σ}
    {look : Json → String → Option Json} (resolves : env.resolver.Pure sound look)
    {root : Condition (Operand σ)} (bound : root.Forall Operand.Bound) {session session' : Session σ}
    (faithful : session.Faithful sound (look env.document))
    (faithful' : session'.Faithful sound (look env.document)) :
    (∀ root', root.Related (Operand.Differs (Operand.Resolved (look env.document))) root' →
      root'.Forall Operand.Bound →
      (root'.evaluate env session').1 = (root.evaluate env session).1) ∧
    ∀ root', root.Related (Operand.Differs fun a b =>
        a.Nothing (look env.document) ∧ b.Nothing (look env.document)) root' →
      root'.Forall Operand.Bound ∧
        (root'.evaluate env session').1 = (root.evaluate env session).1 := by
  have same {root' : Condition (Operand σ)} (bound' : root'.Forall Operand.Bound)
      (holds : root.holds (look env.document) = root'.holds (look env.document)) :
      (root'.evaluate env session').1 = (root.evaluate env session).1 := by
    rw [(Condition.ensures_holds resolves bound' session' faithful').1,
      (Condition.ensures_holds resolves bound session faithful).1, holds]
  constructor
  · intro root' related bound'
    refine same bound' (related.holds_eq fun a b h => ?_)
    exact h.value_eq fun _ _ change => change.value_eq
  · intro root' related
    have bound' : root'.Forall Operand.Bound := by
      refine related.forall (fun a b h => ?_) bound
      refine h.bound (fun a b change kind => ?_) fun a b change => change.2.bound
      rw [change.1.accepts, change.2.accepts]
    refine ⟨bound', same bound' (related.holds_eq fun a b h => ?_)⟩
    refine h.value_eq fun a b change => ?_
    rw [change.1.value_eq, change.2.value_eq]

theorem resolved_paths_are_interchangeable_of_list :
    let document : Json := .object [("a", .array [.null, .bool true]), ("n", .null)]
    let env : Environment Unit := ⟨⟨.default, .pointer⟩, document⟩
    let look (text : String) : Option Json :=
      if Resolver.isPointer text then document.pointer? text.toList else none
    let call (list : Operand Unit) : Operand Unit :=
      .call "arr.contains" [list, .path "/n"] .boolean ⟨"arr.contains", Function.arrayContains⟩
    let root : Condition (Operand Unit) :=
      .any [.not (.operand (call (.path "/a"))), .operand (.path "/b")]
    let root' : Condition (Operand Unit) :=
      .any [.not (.operand (call (.literal (.node (.array [.null, .bool true]))))),
        .operand (.literal .null)]
    let root'' : Condition (Operand Unit) :=
      .any [.not (.operand (call (.path "/a"))), .operand (.path "/n")]
    let session : Session Unit := ⟨[("/n", some .null)], 1, 0, [], ()⟩
    (env.resolver.Pure (fun _ => True) fun document text =>
        if Resolver.isPointer text then document.pointer? text.toList else none) ∧
      root.Forall Operand.Bound ∧ root'.Forall Operand.Bound ∧
      (Session.start ()).Faithful (fun _ => True) look ∧ session.Faithful (fun _ => True) look ∧
      root.Related (Operand.Differs (Operand.Resolved look)) root' ∧
      root.Related (Operand.Differs fun a b => a.Nothing look ∧ b.Nothing look) root'' ∧
    (root'.evaluate env session).1 = (root.evaluate env (.start ())).1 ∧
    (root''.evaluate env session).1 = (root.evaluate env (.start ())).1 := by
  intro document env look call root root' root'' session
  have resolves : env.resolver.Pure (fun _ => True) fun document text =>
      if Resolver.isPointer text then document.pointer? text.toList else none :=
    ⟨fun _ _ _ _ => rfl, fun _ _ _ _ => trivial⟩
  have bound {list : Operand Unit} (h : list.Bound)
      (made : Registry.default.bind "arr.contains" [list, .path "/n"] = .ok (call list))
      {other : Operand Unit} (h' : other.Bound) :
      Condition.Forall Operand.Bound (.any [.not (.operand (call list)), .operand other]) := by
    have called : (call list).Bound := .call (by simpa using ⟨h, .path "/n"⟩) made
    exact .any (by simpa using ⟨.not (.operand called), .operand h'⟩)
  have here : root.Forall Operand.Bound := bound (.path _) (by rfl) (.path _)
  have there : root'.Forall Operand.Bound := bound (.literal _) (by rfl) (.literal _)
  have fresh : (Session.start ()).Faithful (fun _ => True) look := Session.faithful_start trivial
  have used : session.Faithful (fun _ => True) look :=
    ⟨by simpa [session] using (by rfl : some Json.null = look "/n"), trivial⟩
  have related : root.Related (Operand.Differs (Operand.Resolved look)) root' :=
    .any (.cons (.not (.operand (.call (.cons (.here (.intro "/a")) (.cons (.same _) .nil)))))
      (.cons (.operand (.here (.intro "/b"))) .nil))
  have exchanged : root.Related (Operand.Differs fun a b => a.Nothing look ∧ b.Nothing look) root'' :=
    .any (.cons (.not (.operand (.same _)))
      (.cons (.operand (.here ⟨.absent (by rfl), .path (by rfl)⟩)) .nil))
  obtain ⟨resolved, nothing⟩ := resolved_paths_are_interchangeable resolves here fresh used
  exact ⟨resolves, here, there, fresh, used, related, exchanged, resolved root' related there,
    (nothing root'' exchanged).2⟩

end Verdict
