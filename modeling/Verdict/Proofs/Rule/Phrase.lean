import Verdict.Proofs.Rule.Term

/-!
# Written terms are read

`Reads phrase text` says that a phrase is read from the front of a text, whatever may stand behind it.
Strict operators associate to the left while the parser collects them from the left and folds at the
end, so that for them the statement speaks of the operators still to come.  This file shows it of
terms, given that it holds of their arguments.
-/

namespace Verdict.Rule

open Verdict.Parser

variable {free : Term → Prop} {ph : Phrase} {s r u v a b : List Char}

/-! ### How phrases begin -/

/-- The characters that begin a condition. -/
def startsRule (c : Char) : Bool :=
  startsTerm c || c == '(' || c == '!'

/-- The characters that begin a phrase. -/
def Phrase.starts : Phrase → Char → Bool
  | term _ | arguments _ => startsTerm
  | _ => startsRule

theorem startsRule_of_starts {c : Char} (h : ph.starts c = true) : startsRule c = true := by
  cases ph <;> first | exact h | exact (by simp [startsRule, show startsTerm c = true from h])

theorem isSpacing_of_startsRule {c : Char} (h : startsRule c = true) : Text.isSpacing c = false := by
  by_contra hc
  rcases isSpacing_cases (by simpa using hc) with rfl | rfl | rfl | rfl <;> revert h <;> decide

theorem NumberText.starts (t : NumberText) : ∃ c v, t.text = c :: v ∧ startsNumber c = true := by
  obtain ⟨o, whole, fraction, exp, ho, hw, hf, hne⟩ := t
  cases o with
  | some c =>
    refine ⟨c, _, rfl, ?_⟩
    rcases ho c rfl with rfl | rfl <;> rfl
  | none =>
    cases whole with
    | cons d whole => exact ⟨d, _, rfl, by simp [startsNumber, hw d (by simp)]⟩
    | nil =>
      obtain ⟨f, rfl, -⟩ := hne.resolve_left (by simp)
      exact ⟨'.', _, rfl, rfl⟩

theorem CallName.starts {name : List Char} (h : CallName name) :
    ∃ c v, name = c :: v ∧ Function.isNameStart c = true := by
  obtain ⟨c, v, rfl⟩ := List.exists_cons_of_ne_nil h.nonempty
  exact ⟨c, v, rfl, h.start c rfl⟩

theorem Written.starts (h : Written free ph u) : ∃ c v, u = c :: v ∧ ph.starts c = true := by
  have front {p q : Phrase} {u v : List Char} (h : ∃ c v, u = c :: v ∧ p.starts c = true)
      (sub : ∀ c, p.starts c = true → q.starts c = true) :
      ∃ c w, u ++ v = c :: w ∧ q.starts c = true := by
    obtain ⟨c, w, rfl, hc⟩ := h
    exact ⟨c, w ++ v, rfl, sub c hc⟩
  have same {p : Phrase} {u v : List Char} (h : ∃ c v, u = c :: v ∧ p.starts c = true) :
      ∃ c w, u ++ v = c :: w ∧ p.starts c = true :=
    front h fun _ hc => hc
  induction h with
  | null => exact ⟨_, _, rfl, rfl⟩
  | isTrue => exact ⟨_, _, rfl, rfl⟩
  | isFalse => exact ⟨_, _, rfl, rfl⟩
  | number t =>
    obtain ⟨c, v, ht, hc⟩ := t.starts
    exact ⟨c, v, ht, by simp [Phrase.starts, startsTerm, hc]⟩
  | string t =>
    refine ⟨t.quote, _, rfl, ?_⟩
    rcases t.isQuote with hq | hq <;> rw [hq] <;> rfl
  | path whole =>
    obtain ⟨d, rfl, -⟩ := Path.derivation_of_path whole
    exact ⟨'$', _, rfl, rfl⟩
  | pointer plain => exact ⟨_, _, rfl, rfl⟩
  | callNone isName ha hb =>
    obtain ⟨c, v, rfl, hc⟩ := isName.starts
    exact ⟨c, _, rfl, by simp [Phrase.starts, startsTerm, hc]⟩
  | call isName ha hb hd inside =>
    obtain ⟨c, v, rfl, hc⟩ := isName.starts
    exact ⟨c, _, rfl, by simp [Phrase.starts, startsTerm, hc]⟩
  | argument only ih => exact ih
  | arguments ha hb first others ih => exact same ih
  | operand safe only ih =>
    obtain ⟨c, v, rfl, hc⟩ := ih
    exact ⟨c, v, rfl, startsRule_of_starts hc⟩
  | compare op ha hb safe left right ih => exact front ih fun c hc => startsRule_of_starts hc
  | parenthesised ha hb inside => exact ⟨_, _, rfl, rfl⟩
  | bang ha inside => exact ⟨_, _, rfl, rfl⟩
  | word ha some inside => exact ⟨_, _, rfl, rfl⟩
  | unary only ih => exact ih
  | and ha hb some some' left right ih => exact same ih
  | or ha hb some some' left right ih => exact same ih
  | requirement only ih => exact ih
  | requirements ha hb first others ih => exact same ih
  | single only ih => exact ih
  | all several inside ih => exact ih
  | alternative only ih => exact ih
  | alternatives ha hb first others ih => exact same ih
  | sole only ih => exact ih
  | any several inside ih => exact ih

theorem Written.endsRun_isSpacing (h : Written free ph u) : EndsRun Text.isSpacing (u ++ r) := by
  obtain ⟨c, v, rfl, hc⟩ := h.starts
  exact endsRun_cons.2 (isSpacing_of_startsRule (startsRule_of_starts hc))

theorem Written.skip_append (h : Written free ph u) (ha : Blank a) :
    skip (a ++ (u ++ r)) = u ++ r := by
  rw [Parser.skip_append ha, skip_of_endsRun h.endsRun_isSpacing]

/-! ### Blanks in front -/

/-- Blanks in front of a text change nothing. -/
def Skips {α : Type} (p : Parser α) : Prop :=
  ∀ w s, Blank w → p (w ++ s) = p s

theorem Skips.skip {α : Type} {p : Parser α} (h : Skips p) (s : List Char) : p (skip s) = p s := by
  obtain ⟨w, hw, hs⟩ := exists_blank_append_skip s
  conv_rhs => rw [hs]
  rw [h w _ hw]

theorem skips_spaced {α : Type} (p : Parser α) : Skips (spaced p) := by
  intro w s hw
  rw [spaced_apply, spaced_apply, Parser.skip_append hw]

theorem Skips.bind {α β : Type} {p : Parser α} (h : Skips p) (f : α → Parser β) :
    Skips (p >>= f) := by
  intro w s hw
  rw [bind_apply, bind_apply, h w s hw]

theorem Skips.orElse {α : Type} {p q : Parser α} (hp : Skips p) (hq : Skips q) :
    Skips (p <|> q) := by
  intro w s hw
  rw [orElse_apply, orElse_apply, hp w s hw, hq w s hw]

theorem skips_term : Skips term := by
  rw [term_eq_spaced]
  exact skips_spaced bare

theorem skips_negation : Skips negation := by
  rw [negation_eq]
  exact ((skips_spaced _).bind _).orElse (((skips_spaced _).bind _).orElse (skips_term.bind _))

/-! ### What is read of a phrase -/

/-- A comma between arguments. -/
abbrev comma : Parser Char :=
  spaced (char ',')

/-- A strict operator and the condition behind it. -/
def strictStep : Parser ((Condition Term → Condition Term → Condition Term) × Condition Term) := do
  let join ← strictOperator
  let right ← negation
  return (join, right)

/-- Joins conditions from the left. -/
def joined (first : Condition Term)
    (others : List ((Condition Term → Condition Term → Condition Term) × Condition Term)) :
    Condition Term :=
  others.foldl (fun left other => other.1 left other.2) first

theorem strict_eq : strict negation = (do
    let first ← negation
    let others ← many strictStep
    return joined first others) := rfl

/-- The phrase is read in front of whatever may stand behind it. -/
def Reads : Phrase → List Char → Prop
  | .term t, u => ∀ r, EndsTerm r → term (u ++ r) = .ok t (skip r)
  | .arguments ts, u => ∀ r, EndsTerm r → Misses comma r →
    sepBy1 term comma (u ++ r) = .ok ts (skip r)
  | .negation c, u => ∀ r, EndsNegation r → negation (u ++ r) = .ok c (skip r)
  | .strict c, u => ∀ r m others, EndsNegation r → many strictStep (skip r) = .ok others m →
    strict negation (u ++ r) = .ok (joined c others) m
  | .requirements cs, u => ∀ r, EndsConjunction r →
    sepBy1 (strict negation) (spaced (token ['&', '&'])) (u ++ r) = .ok cs (skip r)
  | .conjunction c, u => ∀ r, EndsConjunction r → requirements negation (u ++ r) = .ok c (skip r)
  | .alternatives cs, u => ∀ r, EndsRule r →
    sepBy1 (requirements negation) (spaced (token ['|', '|'])) (u ++ r) = .ok cs (skip r)
  | .rule c, u => ∀ r, EndsRule r → alternatives negation (u ++ r) = .ok c (skip r)

/-! ### Terms -/

section Terms

variable {t : Term} {ts : List Term} {name d : List Char}

theorem reads_term (h : Written free (.term t) u)
    (read : ∀ r, EndsTerm r → ∃ m, bare (u ++ r) = .ok t m ∧ skip m = skip r) :
    Reads (.term t) u := by
  intro r hr
  obtain ⟨m, hm, same⟩ := read r hr
  rw [term_of_bare h.endsRun_isSpacing hm, same]

theorem reads_constant {l : Literal} (h : Written free (.term (.literal l)) u)
    (read : ∀ r, EndsRun isWordChar r → constant (u ++ r) = .ok l r) :
    Reads (.term (.literal l)) u :=
  reads_term h fun r hr => ⟨r, bare_of_constant (read r (hr.endsRun (by decide))), rfl⟩

theorem reads_number (t : NumberText) : Reads (.term (.literal (.number t.numeral.toFloat))) t.text := by
  refine reads_term (Written.number t : Written (fun _ => True) _ _) fun r hr => ⟨r, ?_, rfl⟩
  have read := numeral_run t ⟨hr.endsRun (by decide),
    fun _ _ hc => by simpa [termEnds] using hr '.' hc, fun _ => hr.endsRun (by decide)⟩
  obtain ⟨c, v, ht, hc⟩ := t.starts
  rw [ht] at read ⊢
  exact bare_of_number hc read

theorem reads_string (t : StringText) : Reads (.term (.literal (.string t.value))) t.text := by
  refine reads_term (Written.string t : Written (fun _ => True) _ _) fun r _ => ⟨r, ?_, rfl⟩
  exact bare_of_string t.isQuote (string_run t)

theorem reads_path {p : Path} (whole : Path.path u = .ok p []) :
    Reads (.term (.path (String.ofList u))) u := by
  refine reads_term (Written.path whole : Written (fun _ => True) _ _) fun r hr => ⟨r, ?_, rfl⟩
  have finished : Misses Path.segment r := by
    cases r with
    | nil => exact ⟨[], rfl⟩
    | cons c r =>
      have hc := endsTerm_cons.1 hr
      refine Path.misses_segment ?_ ?_
      · rintro rfl
        revert hc
        decide
      · rintro rfl
        revert hc
        decide
  have read := path_run whole (hr.endsRun (by decide)) finished
  obtain ⟨d, rfl, -⟩ := Path.derivation_of_path whole
  exact bare_of_path (.inl rfl) read

theorem reads_pointer (plain : ∀ c ∈ u, endsPointer c = false) :
    Reads (.term (.path (String.ofList ('/' :: u)))) ('/' :: u) := by
  refine reads_term (Written.pointer plain : Written (fun _ => True) _ _) fun r hr => ⟨r, ?_, rfl⟩
  have ends : ∀ c ∈ termEnds, endsPointer c = true := List.all_eq_true.1 (by decide)
  exact bare_of_path (.inr rfl) (pointer_run plain fun c hc => ends c (hr c hc))

/-- A name ends in front of a parenthesis, with or without blanks between them. -/
theorem endsRun_open {accepts : Char → Bool} (ha : Blank a)
    (none : [' ', '\t', '\r', '\n', '('].any accepts = false) : EndsRun accepts (a ++ '(' :: s) := by
  have apart (c : Char) (mem : c ∈ [' ', '\t', '\r', '\n', '(']) : accepts c = false :=
    eq_false_of_ne_true (List.any_eq_false.1 none c mem)
  cases a with
  | nil => exact endsRun_cons.2 (apart '(' (by simp))
  | cons c a =>
    refine endsRun_cons.2 (apart c ?_)
    rcases isSpacing_cases (ha c (by simp)) with rfl | rfl | rfl | rfl <;> simp

theorem functionName_run (h : CallName name) (hr : EndsRun Function.isNameChar r) :
    functionName (name ++ r) = .ok name r :=
  functionName_eq_ok_iff.2
    ⟨rfl, h.nonempty, h.start, fun c hc => h.plain c (List.mem_of_mem_tail hc), hr⟩

theorem spaced_char_run {c : Char} (ha : Blank a) (hc : Text.isSpacing c = false) :
    spaced (char c) (a ++ c :: s) = .ok c (skip s) := by
  refine spaced_of_ok ?_
  rw [skip_blank_cons ha hc]
  exact char_cons c s

theorem call_run (isName : CallName name) (ha : Blank a) (hd : Blank d)
    (inside : sepBy term comma (skip s) = .ok ts (d ++ ')' :: r)) :
    call term (name ++ (a ++ '(' :: s)) = .ok (.call (String.ofList name) ts) (skip r) := by
  unfold call
  rw [bind_of_ok (functionName_run isName (endsRun_open ha (by decide))),
    bind_of_ok (spaced_char_run ha rfl), bind_of_ok inside, bind_of_ok (spaced_char_run hd rfl),
    pure_apply]

theorem bare_of_name (isName : CallName name) (ha : Blank a)
    (h : call term (name ++ (a ++ '(' :: s)) = .ok t r) :
    bare (name ++ (a ++ '(' :: s)) = .ok t r :=
  bare_of_call (misses_constant_name isName (endsRun_open ha (by decide))) h

theorem reads_callNone (isName : CallName name) (ha : Blank a) (hb : Blank b) :
    Reads (.term (.call (String.ofList name) [])) (name ++ (a ++ '(' :: (b ++ [')']))) := by
  refine reads_term (Written.callNone isName ha hb : Written (fun _ => True) _ _) fun r _ =>
    ⟨skip r, ?_, skip_skip r⟩
  have none : sepBy term comma (')' :: r) = .ok [] (')' :: r) :=
    orElse_of_misses (misses_term (endsRun_cons.2 rfl)).bind
  simp only [List.append_assoc, List.cons_append, List.nil_append]
  refine bare_of_name isName ha (call_run (d := []) isName ha blank_nil ?_)
  rw [skip_blank_cons hb rfl]
  exact none

theorem reads_call (isName : CallName name) (ha : Blank a) (hb : Blank b) (hd : Blank d)
    (inside : Written free (.arguments ts) u) (ih : Reads (.arguments ts) u) :
    Reads (.term (.call (String.ofList name) ts))
      (name ++ (a ++ '(' :: (b ++ (u ++ (d ++ [')']))))) := by
  refine reads_term (.call isName ha hb hd inside) fun r _ => ⟨skip r, ?_, skip_skip r⟩
  have last := ih (d ++ ')' :: r) (endsRule_closing hd).term
    (misses_spaced_char (by rw [skip_blank_cons hd rfl]; simp))
  rw [skip_blank_cons hd rfl] at last
  simp only [List.append_assoc, List.cons_append, List.nil_append]
  refine bare_of_name isName ha (call_run (d := []) isName ha blank_nil ?_)
  rw [inside.skip_append hb]
  exact orElse_of_ok last

theorem reads_argument (ih : Reads (.term t) u) : Reads (.arguments [t]) u := by
  intro r hr finished
  have finished : Misses comma (skip r) := by
    refine misses_spaced_iff.2 ?_
    rw [skip_skip]
    exact misses_spaced_iff.1 finished
  exact sepBy1_of_misses (ih r hr) finished

theorem reads_arguments (ha : Blank a) (hb : Blank b) (others : Written free (.arguments ts) v)
    (ih : Reads (.term t) u) (ih' : Reads (.arguments ts) v) :
    Reads (.arguments (t :: ts)) (u ++ (a ++ ',' :: (b ++ v))) := by
  intro r hr finished
  have first := ih (a ++ ',' :: (b ++ (v ++ r)))
    (endsTerm_append ha (endsTerm_cons.2 (by decide)))
  have next : comma (skip (a ++ ',' :: (b ++ (v ++ r)))) = .ok ',' (v ++ r) := by
    have read := spaced_char_run (a := []) (c := ',') (s := b ++ (v ++ r)) blank_nil rfl
    rw [others.skip_append hb] at read
    rw [skip_blank_cons ha rfl]
    exact read
  simp only [List.append_assoc, List.cons_append]
  exact sepBy1_cons shortens_term (consumes_char ',').spaced first next (ih' r hr finished)

end Terms

end Verdict.Rule
