import Verdict.Proofs.Rule.Phrase

/-!
# Written rules are read

Whatever way a condition is written, the parser of rules reads it, and reads that condition.  Each
phrase is read on its own, `reads_of_written`; that is an induction over how it is written, with one
lemma for each way.
-/

namespace Verdict.Rule

open Verdict.Parser

variable {free : Term → Prop} {ph : Phrase} {s r u v a b : List Char}

/-! ### Negations and comparisons -/

/-- A negation, mark first. -/
def negated : Parser (Condition Term) := do
  negationMark
  let inner ← negation
  return .not inner

theorem negation_eq_orElse : negation = (negated <|> parenthesised negation <|> compared) :=
  negation_eq

/-- Nothing in front of a term that is free to stand there is taken for a negation. -/
def Safe (free : Term → Prop) : Prop :=
  ∀ t u, free t → Written free (.term t) u → ∀ r, Misses negated (u ++ r)

section Conditions

variable {t t' : Term} {x y c : Condition Term} {cs : List (Condition Term)} {m : List Char}

theorem misses_parenthesised {f : Char} (h : startsTerm f = true) :
    Misses (parenthesised negation) (f :: s) := by
  have open_ : f ≠ '(' := by
    rintro rfl
    revert h
    decide
  have blank := isSpacing_of_startsRule (show startsRule f = true by simp [startsRule, h])
  refine Misses.bind (misses_spaced_char ?_)
  rw [skip_cons blank]
  simpa using open_

/-- Where no negation is read in front of a term, comparisons are. -/
theorem negation_of_term (miss : Misses negated (u ++ r)) (h : Written free (.term t) u) :
    negation (u ++ r) = compared (u ++ r) := by
  rw [negation_eq_orElse, orElse_of_misses miss]
  obtain ⟨f, v, rfl, hf⟩ := h.starts
  exact orElse_of_misses (misses_parenthesised hf)

theorem compared_of_term (hr : EndsNegation r) (ih : Reads (.term t) u) :
    compared (u ++ r) = .ok (.operand t) (skip r) := by
  have none : Misses (spaced comparison) (skip r) := by
    refine misses_spaced_iff.2 ?_
    rw [skip_skip]
    exact hr.comparison
  unfold compared
  rw [bind_of_ok (ih r hr.term), bind_of_ok (optional_of_misses none.bind), pure_apply]

theorem reads_operand (safe : Safe free) (ht : free t) (h : Written free (.term t) u)
    (ih : Reads (.term t) u) : Reads (.negation (.operand t)) u := by
  intro r hr
  rw [negation_of_term (safe t u ht h r) h]
  exact compared_of_term hr ih

theorem comparison_run (op : Comparison) (hs : s.head? ≠ some '=') :
    comparison (op.sign ++ s) = .ok op s := by
  have one {u t : List Char} {op : Comparison} :
      (do token u; return op : Parser Comparison) (u ++ t) = .ok op t := by
    rw [bind_of_ok (token_append u t), pure_apply]
  have other {d f : Char} {u t : List Char} {op : Comparison} (h : f ≠ d) :
      Misses (do token (d :: u); return op : Parser Comparison) (f :: t) :=
    (misses_token_cons h).bind
  have longer {d : Char} {op : Comparison} :
      Misses (do token [d, '=']; return op : Parser Comparison) (d :: s) := by
    refine Misses.bind (misses_token_iff.2 fun hp => hs ?_)
    obtain ⟨t, ht⟩ := hp
    rw [← (List.cons.inj ht).2]
    rfl
  unfold comparison
  cases op with
  | equal => exact orElse_of_ok one
  | notEqual => exact (orElse_of_misses (other (by decide))).trans (orElse_of_ok one)
  | greaterEqual =>
    exact (orElse_of_misses (other (by decide))).trans ((orElse_of_misses (other (by decide))).trans
      (orElse_of_ok one))
  | lessEqual =>
    exact (orElse_of_misses (other (by decide))).trans ((orElse_of_misses (other (by decide))).trans
      ((orElse_of_misses (other (by decide))).trans (orElse_of_ok one)))
  | greater =>
    exact (orElse_of_misses (other (by decide))).trans ((orElse_of_misses (other (by decide))).trans
      ((orElse_of_misses longer).trans ((orElse_of_misses (other (by decide))).trans
        (orElse_of_ok one))))
  | less =>
    exact (orElse_of_misses (other (by decide))).trans ((orElse_of_misses (other (by decide))).trans
      ((orElse_of_misses (other (by decide))).trans ((orElse_of_misses longer).trans
        ((orElse_of_misses (other (by decide))).trans one))))

theorem Comparison.sign_cons (op : Comparison) :
    ∃ f w, op.sign = f :: w ∧ f ∈ ['=', '!', '<', '>'] := by
  cases op <;> exact ⟨_, _, rfl, by decide⟩

theorem reads_compare (safe : Safe free) (op : Comparison) (ha : Blank a) (hb : Blank b)
    (ht : free t) (h : Written free (.term t) u) (h' : Written free (.term t') v)
    (ih : Reads (.term t) u) (ih' : Reads (.term t') v) :
    Reads (.negation (.compare op t t')) (u ++ (a ++ (op.sign ++ (b ++ v)))) := by
  intro r hr
  obtain ⟨f, w, hop, hf⟩ := Comparison.sign_cons op
  have mark : f ∈ termEnds ∧ Text.isSpacing f = false := by
    simp only [List.mem_cons, List.not_mem_nil, or_false] at hf
    rcases hf with rfl | rfl | rfl | rfl <;> decide
  have ends : EndsTerm (a ++ (op.sign ++ (b ++ (v ++ r)))) := by
    rw [hop]
    exact endsTerm_append ha (endsTerm_cons.2 mark.1)
  have front : skip (a ++ (op.sign ++ (b ++ (v ++ r)))) = op.sign ++ (b ++ (v ++ r)) := by
    rw [hop]
    exact skip_blank_cons ha mark.2
  have behind : (b ++ (v ++ r)).head? ≠ some '=' := by
    cases b with
    | nil =>
      obtain ⟨d, v, rfl, hd⟩ := h'.starts
      intro hc
      obtain rfl : d = '=' := by simpa using hc
      exact absurd (show startsTerm '=' = true from hd) (by decide)
    | cons d b =>
      rcases isSpacing_cases (hb d (by simp)) with rfl | rfl | rfl | rfl <;> simp
  have mark : spaced comparison (op.sign ++ (b ++ (v ++ r))) = .ok op (v ++ r) := by
    rw [spaced_apply, ← front, skip_skip, front, comparison_run op behind]
    simp only [h'.skip_append hb]
  simp only [List.append_assoc]
  rw [negation_of_term (safe t u ht h _) h]
  unfold compared
  rw [bind_of_ok (ih _ ends), front]
  have rest : (do let op ← spaced comparison; let right ← term; return (op, right) :
      Parser (Comparison × Term)) (op.sign ++ (b ++ (v ++ r))) = .ok (op, t') (skip r) := by
    rw [bind_of_ok mark, bind_of_ok (ih' r hr.term), pure_apply]
  rw [bind_of_ok (optional_of_ok rest), pure_apply]

theorem negationMark_bang : negationMark ('!' :: s) = .ok () (skip s) :=
  spaced_of_ok (by
    rw [skip_cons rfl]
    exact orElse_of_ok (token_append ['!'] s))

theorem negationMark_word (hs : EndsRun isWordChar s) :
    negationMark ('n' :: 'o' :: 't' :: s) = .ok () (skip s) :=
  spaced_of_ok (by
    rw [skip_cons rfl, orElse_of_misses (misses_token_cons (by decide))]
    exact keyword_run ['n', 'o', 't'] hs)

theorem negation_of_mark (mark : negationMark s = .ok () m) (h : negation m = .ok c r) :
    negation s = .ok (.not c) r := by
  rw [negation_eq_orElse]
  refine orElse_of_ok ?_
  unfold negated
  rw [bind_of_ok mark, bind_of_ok h, pure_apply]

theorem reads_bang (ha : Blank a) (h : Written free (.negation c) u)
    (ih : Reads (.negation c) u) : Reads (.negation (.not c)) ('!' :: (a ++ u)) := by
  intro r hr
  have mark := negationMark_bang (s := a ++ (u ++ r))
  rw [h.skip_append ha] at mark
  simp only [List.cons_append, List.append_assoc]
  exact negation_of_mark mark (ih r hr)

theorem endsRun_isWordChar_blank (ha : Blank a) (some : a ≠ []) : EndsRun isWordChar (a ++ s) := by
  obtain ⟨d, a, rfl⟩ := List.exists_cons_of_ne_nil some
  refine endsRun_cons.2 ?_
  rcases isSpacing_cases (ha d (by simp)) with rfl | rfl | rfl | rfl <;> decide

theorem reads_word (ha : Blank a) (some : a ≠ []) (h : Written free (.negation c) u)
    (ih : Reads (.negation c) u) : Reads (.negation (.not c)) ('n' :: 'o' :: 't' :: (a ++ u)) := by
  intro r hr
  have mark := negationMark_word (endsRun_isWordChar_blank (s := u ++ r) ha some)
  rw [h.skip_append ha] at mark
  simp only [List.cons_append, List.append_assoc]
  exact negation_of_mark mark (ih r hr)

theorem misses_negationMark_open : Misses negationMark ('(' :: s) := by
  refine misses_spaced_iff.2 ?_
  rw [skip_cons rfl]
  exact (misses_token_cons (by decide)).orElse (misses_keyword_cons (by decide))

/-- An opening parenthesis is read together with the blanks around it. -/
theorem Written.open_run (ha : Blank a) (hb : Blank b) (h : Written free ph u) :
    spaced (char '(') (a ++ '(' :: (b ++ (u ++ r))) = .ok '(' (u ++ r) := by
  rw [spaced_char_run ha rfl, h.skip_append hb]

theorem reads_parenthesised (ha : Blank a) (hb : Blank b) (h : Written free (.rule c) u)
    (ih : Reads (.rule c) u) : Reads (.negation c) ('(' :: (a ++ (u ++ (b ++ [')'])))) := by
  intro r _
  have open_ := h.open_run blank_nil ha (r := b ++ ')' :: r)
  have inside := ih (b ++ ')' :: r) (endsRule_closing hb)
  rw [skip_blank_cons hb rfl] at inside
  have close := spaced_char_run (a := []) (c := ')') (s := r) blank_nil rfl
  simp only [List.cons_append, List.append_assoc, List.nil_append] at open_ close ⊢
  have mark : Misses negated ('(' :: (a ++ (u ++ (b ++ ')' :: r)))) := misses_negationMark_open.bind
  rw [negation_eq_orElse, orElse_of_misses mark]
  refine orElse_of_ok ?_
  unfold parenthesised
  rw [bind_of_ok open_, bind_of_ok inside, bind_of_ok close, pure_apply]

/-! ### Strict operators -/

theorem reads_unary (ih : Reads (.negation c) u) : Reads (.strict c) u := by
  intro r m others hr h
  rw [strict_eq, bind_of_ok (ih r hr), bind_of_ok h, pure_apply]

theorem strictOperator_and (hs : EndsRun isWordChar s) :
    strictOperator ('a' :: 'n' :: 'd' :: s) = .ok .and (skip s) :=
  spaced_of_ok (by
    rw [skip_cons rfl]
    refine orElse_of_ok ?_
    rw [bind_of_ok (show keyword ['a', 'n', 'd'] ('a' :: 'n' :: 'd' :: s) = .ok () s from
      keyword_run _ hs), pure_apply])

theorem strictOperator_or (hs : EndsRun isWordChar s) :
    strictOperator ('o' :: 'r' :: s) = .ok .or (skip s) :=
  spaced_of_ok (by
    rw [skip_cons rfl, orElse_of_misses (misses_keyword_cons (by decide)).bind,
      bind_of_ok (show keyword ['o', 'r'] ('o' :: 'r' :: s) = .ok () s from keyword_run _ hs),
      pure_apply])

/-- One more strict operator on the left of what is still to come. -/
theorem reads_join {join : Condition Term → Condition Term → Condition Term} {f : Char}
    (word : List Char) (hf : f = 'a' ∨ f = 'o')
    (operator : ∀ s, EndsRun isWordChar s → strictOperator (f :: (word ++ s)) = .ok join (skip s))
    (ha : Blank a) (hb : Blank b) (some : a ≠ []) (some' : b ≠ [])
    (right : Written free (.negation y) v) (ih : Reads (.strict x) u) (ih' : Reads (.negation y) v) :
    Reads (.strict (join x y)) (u ++ (a ++ f :: (word ++ (b ++ v)))) := by
  intro r m others hr h
  have front : skip (a ++ f :: (word ++ (b ++ (v ++ r)))) = f :: (word ++ (b ++ (v ++ r))) := by
    refine skip_blank_cons ha ?_
    rcases hf with rfl | rfl <;> rfl
  have step : strictStep (f :: (word ++ (b ++ (v ++ r)))) = .ok (join, y) (skip r) := by
    have mark := operator (b ++ (v ++ r)) (endsRun_isWordChar_blank hb some')
    rw [right.skip_append hb] at mark
    unfold strictStep
    rw [bind_of_ok mark, bind_of_ok (ih' r hr), pure_apply]
  have progress : (skip r).length < (f :: (word ++ (b ++ (v ++ r)))).length := by
    have := (skip_suffix r).length_le
    simp only [List.length_cons, List.length_append]
    omega
  simp only [List.append_assoc, List.cons_append]
  refine ih _ m ((join, y) :: others) (endsNegation_operator ha some hf) ?_
  rw [front]
  exact many_of_ok step progress h

/-! ### Lists -/

theorem misses_spaced_skip {α : Type} {p : Parser α} (h : Misses (spaced p) r) :
    Misses (spaced p) (skip r) := by
  rw [misses_spaced_iff, skip_skip]
  exact misses_spaced_iff.1 h

/-- A mark between two items is read together with the blanks around it. -/
theorem mark_run {f d : Char} (ha : Blank a) (hb : Blank b) (hf : Text.isSpacing f = false)
    (h : Written free ph v) :
    spaced (token [f, d]) (skip (a ++ f :: d :: (b ++ (v ++ r)))) = .ok () (v ++ r) := by
  have mark : token [f, d] (f :: d :: (b ++ (v ++ r))) = .ok () (b ++ (v ++ r)) :=
    token_append [f, d] _
  rw [spaced_apply, skip_skip, skip_blank_cons ha hf, mark]
  simp only [h.skip_append hb]

theorem reads_requirement (ih : Reads (.strict c) u) : Reads (.requirements [c]) u := by
  intro r hr
  have finished : many strictStep (skip r) = .ok [] (skip r) :=
    many_of_misses (misses_spaced_skip hr.operator).bind
  exact sepBy1_of_misses (ih r _ [] hr.toEndsNegation finished) (misses_spaced_skip hr.requirement)

theorem reads_requirements (ha : Blank a) (hb : Blank b) (h : Written free (.requirements cs) v)
    (ih : Reads (.strict c) u) (ih' : Reads (.requirements cs) v) :
    Reads (.requirements (c :: cs)) (u ++ (a ++ '&' :: '&' :: (b ++ v))) := by
  intro r hr
  have ends : EndsStrict (a ++ '&' :: '&' :: (b ++ (v ++ r))) := endsStrict_ampersands ha
  have finished := many_of_misses (p := strictStep) (misses_spaced_skip ends.operator).bind
  simp only [List.append_assoc, List.cons_append]
  exact sepBy1_cons (shortens_strict shortens_negation) (consumes_token (by decide)).spaced
    (ih _ _ [] ends.toEndsNegation finished) (mark_run ha hb rfl h) (ih' r hr)

theorem reads_conjunction (join : collect .all cs = c) (ih : Reads (.requirements cs) u) :
    Reads (.conjunction c) u := by
  intro r hr
  unfold requirements
  rw [bind_of_ok (ih r hr), pure_apply, join]

theorem reads_alternative (ih : Reads (.conjunction c) u) : Reads (.alternatives [c]) u := by
  intro r hr
  exact sepBy1_of_misses (ih r hr.toEndsConjunction) (misses_spaced_skip hr.alternative)

theorem reads_alternatives (ha : Blank a) (hb : Blank b) (h : Written free (.alternatives cs) v)
    (ih : Reads (.conjunction c) u) (ih' : Reads (.alternatives cs) v) :
    Reads (.alternatives (c :: cs)) (u ++ (a ++ '|' :: '|' :: (b ++ v))) := by
  intro r hr
  have first := ih _ (endsConjunction_bars ha (s := b ++ (v ++ r)))
  simp only [List.append_assoc, List.cons_append]
  exact sepBy1_cons (shortens_requirements shortens_negation) (consumes_token (by decide)).spaced
    first (mark_run ha hb rfl h) (ih' r hr)

theorem reads_rule (join : collect .any cs = c) (ih : Reads (.alternatives cs) u) :
    Reads (.rule c) u := by
  intro r hr
  unfold alternatives
  rw [bind_of_ok (ih r hr), pure_apply, join]

theorem collect_of_several {join : List (Condition Term) → Condition Term} (h : 2 ≤ cs.length) :
    collect join cs = join cs := by
  match cs, h with
  | x :: y :: cs, _ => rfl

end Conditions

/-! ### All phrases -/

/-- Every phrase is read as it is written. -/
theorem reads_of_written (safe : Safe free) (h : Written free ph u) : Reads ph u := by
  induction h with
  | null =>
    exact reads_constant (.null : Written free _ _) fun r hr =>
      constant_eq_ok_iff.2 ⟨hr, .inl ⟨rfl, rfl⟩⟩
  | isTrue =>
    exact reads_constant (.isTrue : Written free _ _) fun r hr =>
      constant_eq_ok_iff.2 ⟨hr, .inr (.inl ⟨rfl, rfl⟩)⟩
  | isFalse =>
    exact reads_constant (.isFalse : Written free _ _) fun r hr =>
      constant_eq_ok_iff.2 ⟨hr, .inr (.inr ⟨rfl, rfl⟩)⟩
  | number t => exact reads_number t
  | string t => exact reads_string t
  | path whole => exact reads_path whole
  | pointer plain => exact reads_pointer plain
  | callNone isName ha hb => exact reads_callNone isName ha hb
  | call isName ha hb hd inside ih => exact reads_call isName ha hb hd inside ih
  | argument only ih => exact reads_argument ih
  | arguments ha hb first others ih ih' => exact reads_arguments ha hb others ih ih'
  | operand ht only ih => exact reads_operand safe ht only ih
  | compare op ha hb ht left right ih ih' =>
    exact reads_compare safe op ha hb ht left right ih ih'
  | parenthesised ha hb inside ih => exact reads_parenthesised ha hb inside ih
  | bang ha inside ih => exact reads_bang ha inside ih
  | word ha some inside ih => exact reads_word ha some inside ih
  | unary only ih => exact reads_unary ih
  | and ha hb some some' left right ih ih' =>
    exact reads_join ['n', 'd'] (.inl rfl) (fun s => strictOperator_and) ha hb some some'
      right ih ih'
  | or ha hb some some' left right ih ih' =>
    exact reads_join ['r'] (.inr rfl) (fun s => strictOperator_or) ha hb some some'
      right ih ih'
  | requirement only ih => exact reads_requirement ih
  | requirements ha hb first others ih ih' => exact reads_requirements ha hb others ih ih'
  | single only ih => exact reads_conjunction rfl ih
  | all several inside ih => exact reads_conjunction (collect_of_several several) ih
  | alternative only ih => exact reads_alternative ih
  | alternatives ha hb first others ih ih' => exact reads_alternatives ha hb others ih ih'
  | sole only ih => exact reads_rule rfl ih
  | any several inside ih => exact reads_rule (collect_of_several several) ih

end Verdict.Rule
