import Verdict.Proofs.Evaluation.Mentions
import Verdict.Proofs.Rule.Contents
import Verdict.Proofs.Rule.Printing

/-!
# The paths of a rule can be resolved

A path in a rule is cut out of the text of the rule, and later read again by itself.  Both readings
agree, `finds_path`: the text of a path ends where its last segment does, so that nothing is cut off
from it, and a derivation is the only one of its text.  So a resolver that allows JSON Pointers never
gives up on a text that an evaluation looks up, unless a function mentions that text,
`resolves_of_parse`.
-/

namespace Verdict

/-! ### Paths in the text of a rule -/

/-- A path text that was found in the text of a rule.  It is a JSON Pointer without blanks and without
the characters that end one, or it is a path: it stands somewhere in the text as what is read there,
and read by itself, or as far as its own end in front of anything else, it has the same segments. -/
inductive FoundIn (rule : List Char) (text : String) : Prop
  | pointer (names : List Char) (written : text.toList = '/' :: names)
      (plain : ∀ c ∈ names, Text.isBlank c = false ∧
        c ∉ ['(', ')', ',', '=', '!', '<', '>', '&', '|'])
  | path (segments : Path) (before after : List Char) (begins : text.toList.head? = some '$')
      (stands : rule = before ++ (text.toList ++ after))
      (there : Path.path (text.toList ++ after) = .ok segments after)
      (anywhere : ∀ p r, Path.path (text.toList ++ r) = .ok p r → p = segments)
      (alone : Path.parse text = .ok segments)

namespace Path

theorem trimmed_text (d : Derivation) : Text.Trimmed d.text := by
  refine ⟨fun c hc => ?_, (Rule.closes_path d).last⟩
  obtain rfl : '$' = c := by simpa [Derivation.text] using hc
  decide

/-- A path that is read in front of a text is the same when it is read by itself. -/
theorem parse_text (d : Derivation) : parse (String.ofList d.text) = .ok d.path := by
  rw [parse_eq_ok_iff, String.toList_ofList, (trimmed_text d).trim]
  exact path_run d

theorem path_of_append {d : Derivation} {p : Path} {r : List Char}
    (h : path (d.text ++ r) = .ok p r) : p = d.path := by
  obtain ⟨d', same, rfl⟩ := derivation_of_path h
  rw [text_injective (List.append_cancel_right same)]

end Path

namespace Rule

open Verdict.Parser

theorem foundIn_of_path {rule s r : List Char} {p : Path} (here : s <:+ rule)
    (h : Path.path s = .ok p r) :
    FoundIn rule (String.ofList (s.take (s.length - r.length))) := by
  obtain ⟨d, rfl, rfl⟩ := Path.derivation_of_path h
  obtain ⟨before, stands⟩ := here
  have cut : (d.text ++ r).take ((d.text ++ r).length - r.length) = d.text := by simp
  rw [cut]
  have written : (String.ofList d.text).toList = d.text := String.toList_ofList
  exact .path d.path before r (by rw [written]; rfl) (by rw [written, stands]) (by rwa [written])
    (fun p r h => Path.path_of_append (by rwa [written] at h)) (Path.parse_text d)

theorem foundIn_of_pointer {rule s u r : List Char} (h : pointer s = .ok u r) :
    FoundIn rule (String.ofList u) := by
  unfold pointer at h
  simp only [bind_eq_ok_iff, takeWhile_eq_ok_iff, char_eq_ok_iff, pure_apply, Reply.ok.injEq] at h
  obtain ⟨_, m, ⟨-, rfl⟩, names, _, ⟨-, plain, -⟩, rfl, -⟩ := h
  refine .pointer names (String.toList_ofList) fun c hc => ?_
  simpa [endsPointer] using plain c hc

/-- Whatever is read as a path, at any end of the text of a rule. -/
theorem finds_path {rule : List Char} :
    Finds rule (Term.Forall (fun _ => True) (FoundIn rule)) path := by
  intro s t r here h
  obtain ⟨u, rfl, -⟩ := path_of_ok h
  refine ⟨(List.suffix_append u r).trans here, ?_⟩
  unfold path at h
  simp only [bind_eq_ok_iff, orElse_eq_ok_iff, read_eq_ok_iff, pure_apply, Reply.ok.injEq] at h
  obtain ⟨v, m, ⟨p, hp, rfl⟩ | ⟨-, hv⟩, rfl, rfl⟩ := h
  · exact .path (foundIn_of_path here hp)
  · exact .path (foundIn_of_pointer hv)

end Rule

/-! ### Compiled rules -/

section Bind

open Rule

variable {σ : Type} {r : Registry σ}

theorem forall_bindAll_terms {good : Operand σ → Prop} {terms : List Term}
    (each : ∀ t ∈ terms, ∀ o, t.bind r = .ok o → good o) {operands : List (Operand σ)}
    (h : Term.bindAll r terms = .ok operands) : ∀ o ∈ operands, good o := by
  induction terms generalizing operands with
  | nil =>
    obtain rfl : [] = operands := Except.ok.inj h
    simp
  | cons t terms ih =>
    obtain ⟨o, operands, ho, hos, rfl⟩ := of_bind_bind_pure h
    refine List.forall_mem_cons.2 ⟨each t (by simp) o ho, ?_⟩
    exact ih (fun t' mem => each t' (List.mem_cons_of_mem t mem)) hos

theorem forall_bindAll {good : Condition (Operand σ) → Prop} {items : List (Condition Term)}
    (each : ∀ c ∈ items, ∀ d, c.bind r = .ok d → good d) {bound : List (Condition (Operand σ))}
    (h : Condition.bindAll r items = .ok bound) :
    bound.length = items.length ∧ ∀ d ∈ bound, good d := by
  induction items generalizing bound with
  | nil =>
    obtain rfl : [] = bound := Except.ok.inj h
    simp
  | cons c items ih =>
    obtain ⟨d, bound, hd, hds, rfl⟩ := of_bind_bind_pure h
    obtain ⟨same, others⟩ := ih (fun c' mem => each c' (List.mem_cons_of_mem c mem)) hds
    refine ⟨by simp [same], List.forall_mem_cons.2 ⟨each c (by simp) d hd, others⟩⟩

/-- The paths of the term stay, and the calls get functions of the registry. -/
theorem Term.Forall.mentions_of_bind {literals : Literal → Prop} {paths known : String → Prop}
    (functions : ∀ f ∈ r.functions, f.implementation.body.Mentions known)
    (wider : ∀ text, paths text → known text) {t : Term} (h : t.Forall literals paths)
    {o : Operand σ} (bound : t.bind r = .ok o) : o.Mentions known := by
  induction h generalizing o with
  | literal here =>
    obtain rfl := Except.ok.inj bound
    exact .literal _
  | path here =>
    obtain rfl := Except.ok.inj bound
    exact .path (wider _ here)
  | @call name arguments inside ih =>
    obtain ⟨operands, given, made⟩ := except_bind_eq_ok_iff.1 bound
    obtain ⟨f, found, -, -, rfl⟩ := Registry.bind_eq_ok_iff.1 made
    exact .call (forall_bindAll_terms (fun t mem o h => ih t mem h) given)
      (functions f (List.mem_of_find?_eq_some found))

/-- Binding makes no needless lists. -/
theorem Condition.Normal.of_bind {c : Condition Term} (h : c.Normal) {d : Condition (Operand σ)}
    (bound : c.bind r = .ok d) : d.Normal := by
  induction h generalizing d with
  | all several inside ih =>
    obtain ⟨ds, hds, rfl⟩ := of_bind_pure bound
    obtain ⟨same, each⟩ := forall_bindAll (fun c mem d => ih c mem) hds
    exact .all (same ▸ several) each
  | any several inside ih =>
    obtain ⟨ds, hds, rfl⟩ := of_bind_pure bound
    obtain ⟨same, each⟩ := forall_bindAll (fun c mem d => ih c mem) hds
    exact .any (same ▸ several) each
  | and left right ihx ihy =>
    obtain ⟨a, b, ha, hb, rfl⟩ := of_bind_bind_pure bound
    exact .and (ihx ha) (ihy hb)
  | or left right ihx ihy =>
    obtain ⟨a, b, ha, hb, rfl⟩ := of_bind_bind_pure bound
    exact .or (ihx ha) (ihy hb)
  | not inside ih =>
    obtain ⟨a, ha, rfl⟩ := of_bind_pure bound
    exact .not (ih ha)
  | compare op a b =>
    obtain ⟨o, o', ho, ho', rfl⟩ := of_bind_bind_pure bound
    exact .compare op o o'
  | operand a =>
    obtain ⟨o, ho, rfl⟩ := of_bind_pure bound
    exact .operand o

/-- What holds of the terms of a condition holds of its operands, if binding keeps it. -/
theorem Condition.Forall.of_bind {fine : Term → Prop} {good : Operand σ → Prop}
    (image : ∀ t o, fine t → t.bind r = .ok o → good o) {c : Condition Term} (h : c.Forall fine)
    {d : Condition (Operand σ)} (bound : c.bind r = .ok d) : d.Forall good := by
  induction h generalizing d with
  | all inside ih =>
    obtain ⟨ds, hds, rfl⟩ := of_bind_pure bound
    exact .all (forall_bindAll (fun c mem d => ih c mem) hds).2
  | any inside ih =>
    obtain ⟨ds, hds, rfl⟩ := of_bind_pure bound
    exact .any (forall_bindAll (fun c mem d => ih c mem) hds).2
  | and left right ihx ihy =>
    obtain ⟨a, b, ha, hb, rfl⟩ := of_bind_bind_pure bound
    exact .and (ihx ha) (ihy hb)
  | or left right ihx ihy =>
    obtain ⟨a, b, ha, hb, rfl⟩ := of_bind_bind_pure bound
    exact .or (ihx ha) (ihy hb)
  | not inside ih =>
    obtain ⟨a, ha, rfl⟩ := of_bind_pure bound
    exact .not (ih ha)
  | compare left right =>
    obtain ⟨o, o', ho, ho', rfl⟩ := of_bind_bind_pure bound
    exact .compare (image _ o left ho) (image _ o' right ho')
  | operand only =>
    obtain ⟨o, ho, rfl⟩ := of_bind_pure bound
    exact .operand (image _ o only ho)

end Bind

section Bound

open Rule

variable {σ : Type}

/-- What the registry of the functions that every rule can call makes of a term. -/
theorem Term.bound_of_bind {t : Term} {o : Operand σ} (bound : t.bind .default = .ok o) : o.Bound := by
  induction t using Term.induction generalizing o with
  | literal l =>
    obtain rfl := Except.ok.inj bound
    exact .literal l
  | path text =>
    obtain rfl := Except.ok.inj bound
    exact .path text
  | call name arguments ih =>
    obtain ⟨operands, given, made⟩ := except_bind_eq_ok_iff.1 bound
    exact .call (forall_bindAll_terms (fun t mem o h => ih t mem h) given) made

theorem Rule.bound_of_ofText {text : String} {rule : Rule σ}
    (read : ofText .default text = .ok rule) : rule.root.Forall Operand.Bound := by
  obtain ⟨root, compiled, rfl⟩ := of_bind_pure read
  obtain ⟨c, -, bound⟩ := compile_eq_ok_iff.1 compiled
  exact (c.forall_of_forall fun _ => trivial).of_bind (fun t o _ ho => Term.bound_of_bind ho) bound

end Bound

/-! ### Resolving -/

namespace Resolver

/-- Does the resolver give up on the text?  It does if the text begins like a path and is none, and if
it is neither a path nor a JSON Pointer that is allowed. -/
def givesUp (pointers : Bool) (capacity : Nat) (text : String) (memo : Path.Memo) : Bool :=
  if isPath text then ((compile capacity text).run memo).1.isNone else !(pointers && isPointer text)

theorem resolve_of_givesUp {pointers : Bool} {capacity : Nat} {text : String} {memo : Path.Memo}
    (h : givesUp pointers capacity text memo = true) (document : Json) :
    (((jsonPath pointers capacity).resolve document text).run memo).1 = none := by
  unfold givesUp at h
  unfold jsonPath reading
  by_cases path : isPath text = true
  · rw [if_pos path, Option.isNone_iff_eq_none] at h
    simp only [path, if_true, StateT.run_bind]
    exact congrArg (Option.bind · fun path => path.query document) h
  · rw [if_neg path, Bool.not_eq_true'] at h
    simp only [path, h]
    rfl

/-- A text that was found in a rule is understood, whatever is remembered of other texts. -/
theorem givesUp_of_foundIn {rule : List Char} {text : String} (found : FoundIn rule text)
    (capacity : Nat) {memo : Path.Memo} (sound : memo.Sound) :
    givesUp true capacity text memo = false := by
  unfold givesUp
  cases found with
  | pointer names written plain =>
    simp [isPath, isPointer, written]
  | path segments before after begins stands there anywhere alone =>
    have path : isPath text = true := by
      unfold isPath
      cases h : text.toList with
      | nil => simp [h] at begins
      | cons c cs => simpa [h] using begins
    rw [if_pos path, (compile_of_sound sound capacity text).1, alone]
    rfl

end Resolver

/-- A rule has no lists of less than two conditions, and each of its paths was found in its text.  The
rule that is compiled of it has no such lists either, and when it is decided about a document, each text
that is looked up was found in the text of the rule or is mentioned by a function that is called; on
those that were found a resolver that allows JSON Pointers never gives up. -/
theorem Rule.resolves_of_parse {text : String} {c : Condition Term} (accepted : parse text = .ok c) :
    c.Normal ∧ c.Forall (Term.Forall (fun _ => True) (FoundIn (Text.trim text.toList))) ∧
    ∀ (r : Registry Path.Memo) (root : Condition (Operand Path.Memo)), compile r text = .ok root →
      root.Normal ∧
      ∀ (known : String → Prop), (∀ f ∈ r.functions, f.implementation.body.Mentions known) →
      ∀ (settings : Settings) (capacity : Nat) (document : Json) (memo : Path.Memo),
      ∀ asked ∈ (Evaluator.sessionAfter ⟨settings, .jsonPath true capacity⟩ root document memo).texts,
        known asked ∨ FoundIn (Text.trim text.toList) asked ∧
          ∀ now : Path.Memo, now.Sound → Resolver.givesUp true capacity asked now = false := by
  obtain ⟨normal, found⟩ := good_of_parse accepted ends_constant ends_number ends_string finds_path
  refine ⟨normal, found, fun r root compiled => ?_⟩
  obtain ⟨c', read, bound⟩ := compile_eq_ok_iff.1 compiled
  obtain rfl : c = c' := Except.ok.inj (accepted.symm.trans read)
  refine ⟨normal.of_bind bound, fun known functions settings capacity document memo asked mem => ?_⟩
  have mentions : root.Forall (Operand.Mentions fun asked =>
      known asked ∨ FoundIn (Text.trim text.toList) asked) := by
    refine found.of_bind (fun t o ht ho => ht.mentions_of_bind ?_ (fun _ => .inr) ho) bound
    exact fun f mem => (functions f mem).mono fun _ => .inl
  have told := Evaluator.told_of_mentions ⟨settings, .jsonPath true capacity⟩ mentions document memo
  refine (told asked mem).imp_right fun here => ⟨here, fun now sound => ?_⟩
  exact Resolver.givesUp_of_foundIn here capacity sound

theorem Rule.resolves_of_parse_two_paths :
    let c : Condition Term := .all [.operand (.path "$.a[ 0 ]"), .operand (.path "/b")]
    let root : Condition (Operand Path.Memo) := .all [.operand (.path "$.a[ 0 ]"), .operand (.path "/b")]
    let e : Evaluator Path.Memo := ⟨.default, .jsonPath true 4⟩
    parse " $.a[ 0 ]&&/b" = .ok c ∧
      (c.Normal ∧ c.Forall (Term.Forall (fun _ => True) (FoundIn "$.a[ 0 ]&&/b".toList))) ∧
      ∀ document, ∀ asked ∈ (e.sessionAfter root document .empty).texts,
        Resolver.givesUp true 4 asked .empty = false := by
  intro c root e
  have path : Written NotCalledNot (.term (.path "$.a[ 0 ]")) "$.a[ 0 ]".toList :=
    .path (p := [.child (.key "a"), .child (.index 0)]) (by rfl)
  have pointer : Written NotCalledNot (.term (.path "/b")) "/b".toList :=
    .pointer (List.forall_mem_singleton.2 (by decide))
  have blank : Verdict.Parser.Blank [] := Verdict.Parser.blank_nil
  have several := Written.sole (.alternative (.all (by decide) (.requirements blank blank
    (.unary (.operand (by trivial) path)) (.requirement (.unary (.operand (by trivial) pointer))))))
  have read : parse " $.a[ 0 ]&&/b" = .ok c := by
    have one : ∀ x ∈ [' '], Text.isBlank x = true := List.all_eq_true.1 (by decide)
    have none : ∀ x ∈ ([] : List Char), Text.isBlank x = true := by simp
    have read := parse_of_safe safe_notCalledNot several one none
    rw [show " $.a[ 0 ]&&/b" = String.ofList _ from rfl]
    exact read
  have trim : Text.trim " $.a[ 0 ]&&/b".toList = "$.a[ 0 ]&&/b".toList := by decide +kernel
  obtain ⟨normal, found, resolves⟩ := resolves_of_parse read
  rw [trim] at found
  refine ⟨read, ⟨normal, found⟩, fun document asked mem => ?_⟩
  have compiled : compile Registry.default " $.a[ 0 ]&&/b" = .ok root :=
    compile_eq_ok_iff.2 ⟨c, read, rfl⟩
  have none : ∀ f ∈ (Registry.default : Registry Path.Memo).functions,
      f.implementation.body.Mentions fun _ => False := by
    intro f mem
    rw [Registry.default_eq_after] at mem
    rcases Registry.mem_of_mem_after mem with builtin | nothing
    · exact mentions_builtin builtin
    · simp [Registry.empty] at nothing
  obtain nothing | ⟨-, understood⟩ :=
    (resolves Registry.default root compiled).2 _ none .default 4 document .empty asked mem
  · exact nothing.elim
  · exact understood .empty Path.Memo.sound_empty

end Verdict
