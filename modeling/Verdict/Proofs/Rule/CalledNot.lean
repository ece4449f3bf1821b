import Verdict.Proofs.Parser.Alike
import Verdict.Proofs.Rule.Parse

/-!
# Terms in front of which a negation could be read

A call of a function named `not`, or `not` and a point, begins like a negation.  Whether it is taken
for one depends on its name and on its arguments: `not(1, 2)` is a call, since no rule in parentheses
stands behind the mark, while `not(1)` is a negation.  It does not depend on how the call is written
or on what stands behind it.  To see that, two ways to write one term are read side by side: at each
step both readings have come to the end of the term, or are still in its name or at its parenthesis.
`Free` says of a term that it is never taken for a negation, and `free_of_misses` that it is enough to
see this once.
-/

namespace Verdict.Rule

open Verdict.Parser

variable {free : Term → Prop} {s t u v w r q x y m n : List Char}

/-! ### Names and numbers up to a parenthesis -/

/-- What may stand behind a name that is called. -/
def opens (c : Char) : Bool :=
  Text.isSpacing c || c == '('

theorem apart_of_opens {accepts : Char → Bool}
    (h : [' ', '\t', '\r', '\n', '('].any accepts = false) (c : Char) (hc : opens c = true) :
    accepts c = false := by
  have mem : c ∈ [' ', '\t', '\r', '\n', '('] := by
    simp only [opens, Bool.or_eq_true, beq_iff_eq] at hc
    rcases hc with hc | rfl
    · rcases isSpacing_cases hc with rfl | rfl | rfl | rfl <;> simp
    · simp
  simpa using List.any_eq_false.1 h c mem

theorem local_sign : Local opens sign sign :=
  (local_satisfy (apart_of_opens (by decide))).optional.bind fun _ _ => local_pure _ _

theorem local_digits : Local opens digits digits := by
  have point : Local opens (char '.') (char '.') := local_satisfy (apart_of_opens (by decide))
  have run : Local opens (takeWhile Char.isDigit) (takeWhile Char.isDigit) :=
    local_takeWhile (apart_of_opens (by decide))
  have run1 : Local opens (takeWhile1 Char.isDigit) (takeWhile1 Char.isDigit) :=
    local_takeWhile1 (apart_of_opens (by decide))
  refine Local.orElse ?_ (point.bind fun _ _ => run1.bind fun _ _ => local_pure _ _)
  exact run1.bind fun _ _ => (point.bind fun _ _ => run).optional.bind fun _ _ => local_pure _ _

theorem local_exponent (s t : List Char) : Local opens (exponent s) (exponent t) := by
  have run : Local opens (exponentDigits s) (exponentDigits t) :=
    (local_takeWhile1 (apart_of_opens (by decide))).orElse fun _ _ _ _ _ => .abort
  exact (local_satisfy (apart_of_opens (by decide))).bind fun _ _ => local_sign.bind fun _ _ =>
    run.bind fun _ _ => local_pure _ _

theorem local_numeral : Local opens numeral numeral := by
  intro u x y hx hy
  exact (local_sign.bind fun _ _ => local_digits.bind fun _ _ =>
    (local_exponent (u ++ x) (u ++ y)).optional.bind fun _ _ => local_pure _ _) u x y hx hy

theorem local_token {word : List Char} (h : ∀ c ∈ word, opens c = false) :
    Local opens (token word) (token word) := by
  intro u x y hx hy
  by_cases hw : word <+: u
  · obtain ⟨v, rfl⟩ := hw
    rw [List.append_assoc, List.append_assoc, token_append, token_append]
    exact .ok ⟨v, List.suffix_append word v, rfl, rfl⟩
  · have miss {z : List Char} (hz : Stops opens z) : Misses (token word) (u ++ z) := by
      refine misses_token_iff.2 fun hp => ?_
      obtain ⟨c, hc, stop⟩ := hz
      rcases Nat.le_total word.length u.length with short | long
      · exact hw (List.prefix_of_prefix_length_le hp (List.prefix_append u z) short)
      · obtain ⟨v, rfl⟩ := List.prefix_of_prefix_length_le (List.prefix_append u z) hp long
        rw [List.prefix_append_right_inj] at hp
        cases v with
        | nil => simp at hw
        | cons d v =>
          obtain ⟨z, rfl⟩ := hp
          obtain rfl : d = c := by simpa using hc
          simp [h d (by simp)] at stop
    exact alike_of_misses (miss hx) (miss hy)

/-- The rest of a name, in front of what stands behind it, begins with no character of a word. -/
def Loose (u x y m n : List Char) : Prop :=
  Shared u x y m n ∧ EndsRun isWordChar m ∧ EndsRun isWordChar n

theorem alike_keyword {word : List Char} (h : ∀ c ∈ word, opens c = false) (hx : Stops opens x)
    (hy : Stops opens y) : Alike (Loose u x y) (keyword word (u ++ x)) (keyword word (u ++ y)) := by
  refine (local_token h u x y hx hy).bind ?_
  rintro _ _ _ _ ⟨v, hv, rfl, rfl⟩
  have ends {z : List Char} (hz : Stops opens z) : EndsRun isWordChar z :=
    hz.endsRun (apart_of_opens (by decide))
  have same : EndsRun isWordChar (v ++ x) ↔ EndsRun isWordChar (v ++ y) := by
    cases v with
    | nil => simp [ends hx, ends hy]
    | cons c v => simp
  by_cases hvx : EndsRun isWordChar (v ++ x)
  · have hvy := same.1 hvx
    have read {z : List Char} (hz : EndsRun isWordChar z) : notBefore isWordChar z = .ok () z :=
      notBefore_eq_ok_iff.2 ⟨rfl, hz⟩
    change Alike _ (notBefore isWordChar _) (notBefore isWordChar _)
    rw [read hvx, read hvy]
    exact .ok ⟨⟨v, hv, rfl, rfl⟩, hvx, hvy⟩
  · exact alike_of_misses (misses_notBefore_iff.2 hvx) (misses_notBefore_iff.2 (mt same.2 hvx))

/-! ### Calls in two ways -/

/-- No restriction on terms. -/
abbrev anyTerm : Term → Prop :=
  fun _ => True

/-- The arguments of a call, with the parentheses around them and the blanks in front, and what stands
behind. -/
inductive Group : List Term → List Char → List Char → Prop
  | none {a b r : List Char} (ha : Blank a) (hb : Blank b) :
      Group [] r (a ++ '(' :: (b ++ ')' :: r))
  | some {ts : List Term} {a b d u r : List Char} (ha : Blank a) (hb : Blank b) (hd : Blank d)
      (inside : Written anyTerm (.arguments ts) u) :
      Group ts r (a ++ '(' :: (b ++ (u ++ (d ++ ')' :: r))))

variable {ts : List Term} {t' : Term} {name : String}

theorem Group.skip (h : Group ts r x) : ∃ s, skip x = '(' :: s := by
  cases h with
  | none ha hb => exact ⟨_, skip_blank_cons ha rfl⟩
  | some ha hb hd inside => exact ⟨_, skip_blank_cons ha rfl⟩

theorem Group.stops (h : Group ts r x) : Stops opens x := by
  have front {a s : List Char} (ha : Blank a) : Stops opens (a ++ '(' :: s) := by
    cases a with
    | nil => exact ⟨'(', rfl, rfl⟩
    | cons c a => exact ⟨c, rfl, by simp [opens, ha c (by simp)]⟩
  cases h with
  | none ha hb => exact front ha
  | some ha hb hd inside => exact front ha

/-- A call is its name and a group. -/
theorem Written.exists_group (h : Written anyTerm (.term (.call name ts)) u) :
    ∃ f, name = String.ofList f ∧ CallName f ∧ ∀ r, ∃ x, u ++ r = f ++ x ∧ Group ts r x := by
  cases h with
  | callNone isName ha hb =>
    exact ⟨_, rfl, isName, fun r => ⟨_, by simp, .none ha hb⟩⟩
  | call isName ha hb hd inside =>
    exact ⟨_, rfl, isName, fun r => ⟨_, by simp, .some ha hb hd inside⟩⟩

/-- The first argument of a group stands in front of the closing parenthesis or of a comma. -/
theorem Group.first {t : Term} (h : Group (t :: ts) r x) :
    ∃ a b u z, x = a ++ '(' :: (b ++ (u ++ z)) ∧ Blank a ∧ Blank b ∧
      Written anyTerm (.term t) u ∧ EndsTerm z ∧
      (ts = [] ∧ Parser.skip z = ')' :: r ∨ ts ≠ [] ∧ ∃ z', Parser.skip z = ',' :: z') := by
  cases h with
  | @some _ a b d u r ha hb hd inside =>
    cases inside with
    | argument only =>
      refine ⟨a, b, u, d ++ ')' :: r, rfl, ha, hb, only,
        endsTerm_append hd (endsTerm_cons.2 (by decide)), .inl ⟨rfl, skip_blank_cons hd rfl⟩⟩
    | @arguments _ _ u v a' b' ha' hb' first others =>
      refine ⟨a, b, u, a' ++ ',' :: (b' ++ (v ++ (d ++ ')' :: r))), by simp, ha, hb, first,
        endsTerm_append ha' (endsTerm_cons.2 (by decide)), .inr ⟨?_, _, skip_blank_cons ha' rfl⟩⟩
      rintro rfl
      cases others

/-! ### Groups -/

/-- No closing parenthesis comes next. -/
def Stuck (m : List Char) : Prop :=
  (skip m).head? ≠ some ')'

/-- Both readings have come to the end of the term, or neither is in front of a closing parenthesis. -/
def Fate (r q m n : List Char) : Prop :=
  m = skip r ∧ n = skip q ∨ Stuck m ∧ Stuck n

/-- A rule that is read from the front of the term goes equally far, however the term is written. -/
def Uniform (t : Term) : Prop :=
  ∀ u v r q, Written anyTerm (.term t) u → Written anyTerm (.term t) v → EndsRule r → EndsRule q →
    Alike (Fate r q) (alternatives negation (u ++ r)) (alternatives negation (v ++ q))

theorem misses_alternatives (h : Misses negation s) : Misses (alternatives negation) s :=
  h.bind.bind.bind.bind.bind

theorem misses_negation_closing : Misses negation (')' :: s) := by
  have mark : Misses negated (')' :: s) := by
    refine Misses.bind (misses_spaced_iff.2 ?_)
    rw [skip_cons rfl]
    exact (misses_token_cons (by decide)).orElse (misses_keyword_cons (by decide))
  have open_ : Misses (parenthesised negation) (')' :: s) := by
    refine Misses.bind (misses_spaced_char ?_)
    rw [skip_cons rfl]
    simp
  have term : Misses term (')' :: s) := by
    refine misses_term ?_
    rw [skip_cons rfl]
    exact endsRun_cons.2 (by decide)
  rw [negation_eq_orElse]
  exact mark.orElse (open_.orElse term.bind)

theorem misses_parenthesised_none (ha : Blank u) (hb : Blank v) :
    Misses (parenthesised negation) (u ++ '(' :: (v ++ ')' :: r)) := by
  unfold parenthesised
  refine (misses_bind_of_ok (spaced_char_run ha rfl)).2 (misses_alternatives ?_).bind
  rw [skip_blank_cons hb rfl]
  exact misses_negation_closing

theorem spaced_closing_of_skip (h : skip m = ')' :: r) :
    spaced (char ')') (skip m) = .ok ')' (skip r) := by
  refine spaced_of_ok ?_
  rw [skip_skip, h]
  exact char_cons ')' r

theorem misses_spaced_closing (h : skip m = ',' :: n) : Misses (spaced (char ')')) (skip m) := by
  refine misses_spaced_char ?_
  rw [skip_skip, h]
  simp

/-- Behind the first argument a rule has come to its end. -/
theorem endsRule_of_next (hm : EndsTerm m) (next : ts = [] ∧ skip m = ')' :: r ∨
    ts ≠ [] ∧ ∃ n, skip m = ',' :: n) : EndsRule m := by
  refine endsRule_of_head hm ?_
  rcases next with ⟨-, h⟩ | ⟨-, n, h⟩
  · simp [h]
  · simp [h]

/-- A group is taken for a rule in parentheses or not, however it is written. -/
theorem alike_parenthesised (args : ∀ t ∈ ts, Uniform t) (hx : Group ts r x) (hy : Group ts q y) :
    Alike (fun m n => m = skip r ∧ n = skip q) (parenthesised negation x)
      (parenthesised negation y) := by
  cases ts with
  | nil =>
    cases hx with
    | none ha hb =>
      cases hy with
      | none ha' hb' =>
        exact alike_of_misses (misses_parenthesised_none ha hb) (misses_parenthesised_none ha' hb')
      | some _ _ _ inside => cases inside
    | some _ _ _ inside => cases inside
  | cons t ts =>
    obtain ⟨a, b, u, z, rfl, ha, hb, hu, hz, next⟩ := hx.first
    obtain ⟨a', b', u', z', rfl, ha', hb', hu', hz', next'⟩ := hy.first
    have ends := endsRule_of_next hz next
    have ends' := endsRule_of_next hz' next'
    unfold parenthesised
    rw [bind_of_ok (hu.open_run ha hb), bind_of_ok (hu'.open_run ha' hb')]
    refine (args t (by simp) u u' z z' hu hu' ends ends').bind ?_
    rintro _ _ _ _ (⟨rfl, rfl⟩ | ⟨hm, hn⟩)
    · rcases next with ⟨last, h⟩ | ⟨more, w, h⟩
      · obtain ⟨-, h'⟩ := next'.resolve_right fun h' => h'.1 last
        rw [bind_of_ok (spaced_closing_of_skip h), bind_of_ok (spaced_closing_of_skip h')]
        exact .ok ⟨rfl, rfl⟩
      · obtain ⟨-, w', h'⟩ := next'.resolve_left fun h' => more h'.1
        exact alike_of_misses (misses_spaced_closing h).bind (misses_spaced_closing h').bind
    · exact alike_of_misses (misses_spaced_char hm).bind (misses_spaced_char hn).bind

/-! ### What stands behind the mark -/

/-- Two readings have both come to the end of the call, or to the same place in its name. -/
def Abreast (ts : List Term) (r q m n : List Char) : Prop :=
  m = skip r ∧ n = skip q ∨
    ∃ v x y, (∀ c ∈ v, Function.isNameChar c = true) ∧ Group ts r x ∧ Group ts q y ∧
      m = skip (v ++ x) ∧ n = skip (v ++ y)

theorem isSpacing_of_isNameChar {c : Char} (h : Function.isNameChar c = true) :
    Text.isSpacing c = false := by
  by_contra hc
  rcases isSpacing_cases (by simpa using hc) with rfl | rfl | rfl | rfl <;> revert h <;> decide

theorem skip_name_append {c : Char} (h : ∀ d ∈ c :: v, Function.isNameChar d = true) (x : List Char) :
    skip (c :: v ++ x) = c :: v ++ x :=
  skip_cons (isSpacing_of_isNameChar (h c (by simp)))

/-- Within a call comes a character of its name or its parenthesis. -/
theorem exists_skip_name (hv : ∀ c ∈ v, Function.isNameChar c = true) (hx : Group ts r x) :
    ∃ c s, skip (v ++ x) = c :: s ∧ (Function.isNameChar c = true ∨ c = '(') := by
  cases v with
  | nil =>
    obtain ⟨s, hs⟩ := hx.skip
    exact ⟨'(', s, hs, .inr rfl⟩
  | cons c v => exact ⟨c, v ++ x, skip_name_append hv x, .inl (hv c (by simp))⟩

theorem endsRun_skip_name {accepts : Char → Bool} (hv : ∀ c ∈ v, Function.isNameChar c = true)
    (hx : Group ts r x) (name : ∀ c, Function.isNameChar c = true → accepts c = false)
    (open_ : accepts '(' = false) : EndsRun accepts (skip (v ++ x)) := by
  obtain ⟨c, s, hs, hc⟩ := exists_skip_name hv hx
  rw [hs]
  rcases hc with hc | rfl
  · exact endsRun_cons.2 (name c hc)
  · exact endsRun_cons.2 open_

theorem alike_term_name (hv : ∀ c ∈ v, Function.isNameChar c = true) (hp : v.head? = some '.')
    (hx : Stops opens x) (hy : Stops opens y) :
    Alike (fun m n => ∃ w, w <:+ v ∧ m = skip (w ++ x) ∧ n = skip (w ++ y)) (term (v ++ x))
      (term (v ++ y)) := by
  obtain ⟨v, rfl⟩ : ∃ v', v = '.' :: v' := by cases v <;> simp_all
  have number := (local_numeral.bind (f := fun n => pure (Literal.number n.toFloat))
    (g := fun n => pure (Literal.number n.toFloat)) fun _ _ => local_pure _ _).map
      (f := Term.literal) (g := Term.literal) ('.' :: v) x y hx hy
  have bare : Alike (Shared ('.' :: v) x y) (bare ('.' :: v ++ x)) (bare ('.' :: v ++ y)) := by
    have noString (z : List Char) : Misses (Term.literal <$> string) ('.' :: v ++ z) :=
      misses_map_iff.2 (misses_string_cons (by decide) (by decide))
    rw [List.cons_append, List.cons_append, bare_eq_of_startsNumber rfl,
      bare_eq_of_startsNumber rfl]
    exact number.orElse fun _ _ => alike_of_misses (noString x) (noString y)
  rw [← skip_name_append hv x, ← skip_name_append hv y] at bare
  rw [term_eq_spaced]
  refine bare.spaced ?_
  rintro _ _ ⟨w, hw, rfl, rfl⟩
  exact ⟨w, hw, rfl, rfl⟩

theorem misses_negated_of_point : Misses negated ('.' :: s) :=
  (misses_negationMark rfl (misses_keyword_cons (by decide))).bind

theorem Group.misses_negated (h : Group ts r x) : Misses negated x := by
  obtain ⟨s, hs⟩ := h.skip
  have open_ := misses_spaced_iff.1 (misses_negationMark_open (s := s))
  rw [skip_cons rfl, ← hs] at open_
  exact Misses.bind (misses_spaced_iff.2 open_)

theorem Group.misses_compared (h : Group ts r x) : Misses compared x := by
  obtain ⟨s, hs⟩ := h.skip
  refine Misses.bind (misses_term ?_)
  rw [hs]
  exact endsRun_cons.2 (by decide)

theorem Group.misses_comparison (h : Group ts r x) (hv : ∀ c ∈ v, Function.isNameChar c = true) :
    Misses (spaced comparison) (Parser.skip (v ++ x)) := by
  refine misses_spaced_iff.2 (Rule.misses_comparison ?_)
  rw [skip_skip]
  refine endsRun_skip_name hv h (fun c hc => ?_) (by decide)
  have apart : ['=', '!', '<', '>'].any Function.isNameChar = false := by decide
  by_contra hn
  have mark : c ∈ ['=', '!', '<', '>'] := List.contains_iff_mem.1 (eq_true_of_ne_false hn)
  exact List.any_eq_false.1 apart c mark hc

/-- What a mark of negation in front of a name would negate. -/
theorem alike_negation (args : ∀ t ∈ ts, Uniform t) (hx : Group ts r x) (hy : Group ts q y)
    (hv : ∀ c ∈ v, Function.isNameChar c = true) (loose : EndsRun isWordChar (v ++ x)) :
    Alike (Abreast ts r q) (negation (v ++ x)) (negation (v ++ y)) := by
  rw [negation_eq_orElse]
  cases v with
  | nil =>
    refine (alike_of_misses hx.misses_negated hy.misses_negated).orElse fun _ _ => ?_
    refine ((alike_parenthesised args hx hy).mono ?_).orElse fun _ _ => ?_
    · exact fun m n h => .inl h
    · exact alike_of_misses hx.misses_compared hy.misses_compared
  | cons c v =>
    obtain rfl : c = '.' :=
      (isWordChar_of_isNameChar (hv c (by simp))).resolve_left (by simpa using endsRun_cons.1 loose)
    refine (alike_of_misses misses_negated_of_point misses_negated_of_point).orElse fun _ _ => ?_
    refine (alike_of_misses (misses_parenthesised (by decide))
      (misses_parenthesised (by decide))).orElse fun _ _ => ?_
    refine (alike_term_name hv rfl hx.stops hy.stops).bind ?_
    rintro _ _ _ _ ⟨w, hw, rfl, rfl⟩
    have hw' : ∀ c ∈ w, Function.isNameChar c = true := fun c hc => hv c (hw.subset hc)
    rw [bind_of_ok (optional_of_misses (hx.misses_comparison hw').bind),
      bind_of_ok (optional_of_misses (hy.misses_comparison hw').bind)]
    exact .ok (.inr ⟨w, x, y, hw', hx, hy, rfl, rfl⟩)

/-! ### How far the rule goes on -/

theorem alike_strictOperator (hx : Group ts r x) (hy : Group ts q y)
    (hv : ∀ c ∈ v, Function.isNameChar c = true) :
    Alike (fun m n => ∃ w, (∀ c ∈ w, Function.isNameChar c = true) ∧
        EndsRun isWordChar (w ++ x) ∧ m = skip (w ++ x) ∧ n = skip (w ++ y))
      (strictOperator (skip (v ++ x))) (strictOperator (skip (v ++ y))) := by
  cases v with
  | nil =>
    have none {x r : List Char} (hx : Group ts r x) : Misses strictOperator (skip x) := by
      obtain ⟨s, hs⟩ := hx.skip
      refine misses_strictOperator ?_
      rw [skip_skip, hs]
      exact endsRun_cons.2 (by decide)
    exact alike_of_misses (none hx) (none hy)
  | cons c v =>
    have word {u : List Char} (hu : u.any opens = false)
        (join : Condition Term → Condition Term → Condition Term) :
        Alike (Loose (c :: v) x y)
          ((do keyword u; return join : Parser _) (skip (skip (c :: v ++ x))))
          ((do keyword u; return join : Parser _) (skip (skip (c :: v ++ y)))) := by
      rw [skip_skip, skip_skip, skip_name_append hv, skip_name_append hv]
      have apart : ∀ c ∈ u, opens c = false := by simpa using hu
      exact (alike_keyword apart hx.stops hy.stops).bind fun _ _ _ _ h => .ok h
    refine ((word (by decide) .and).orElse fun _ _ => word (by decide) .or).spaced ?_
    rintro _ _ ⟨⟨w, hw, rfl, rfl⟩, loose, -⟩
    exact ⟨w, fun d hd => hv d (hw.subset hd), loose, rfl, rfl⟩

theorem alike_strictStep (args : ∀ t ∈ ts, Uniform t) (hr : EndsRule r) (hq : EndsRule q)
    (h : Abreast ts r q m n) : Alike (Abreast ts r q) (strictStep m) (strictStep n) := by
  rcases h with ⟨rfl, rfl⟩ | ⟨v, x, y, hv, hx, hy, rfl, rfl⟩
  · exact alike_of_misses (misses_spaced_skip hr.operator).bind (misses_spaced_skip hq.operator).bind
  · refine (alike_strictOperator hx hy hv).bind ?_
    rintro _ _ _ _ ⟨w, hw, loose, rfl, rfl⟩
    have next := alike_negation args hx hy hw loose
    rw [← skips_negation.skip, ← skips_negation.skip (w ++ y)] at next
    exact next.bind fun _ _ _ _ h => .ok h

theorem consumes_strictStep : Consumes strictStep :=
  consumes_strictOperator.bind fun _ => shortens_negation.bind fun _ => shortens_pure _

theorem misses_mark_name {c : Char} (hx : Group ts r x)
    (hv : ∀ d ∈ v, Function.isNameChar d = true) (hc : Function.isNameChar c = false) (open_ : c ≠ '(') :
    Misses (spaced (token (c :: w))) (skip (v ++ x)) := by
  refine misses_spaced_token ?_
  obtain ⟨d, s, hs, hd⟩ := exists_skip_name hv hx
  rw [skip_skip, hs]
  rintro h
  obtain rfl : d = c := by simpa using h
  rcases hd with hd | rfl
  · simp [hc] at hd
  · exact open_ rfl

/-- Once a negation is read in front of a call, the rest of the rule is alike too. -/
theorem alike_alternatives (args : ∀ t ∈ ts, Uniform t) (hr : EndsRule r) (hq : EndsRule q)
    (h : Alike (Abreast ts r q) (negation s) (negation t)) :
    Alike (Abreast ts r q) (alternatives negation s) (alternatives negation t) := by
  have strict : Alike (Abreast ts r q) (strict negation s) (strict negation t) := by
    rw [strict_eq]
    refine h.bind fun _ _ m n same => ?_
    refine (Alike.many consumes_strictStep consumes_strictStep
      (fun s t => alike_strictStep args hr hq) same).bind ?_
    exact fun _ _ _ _ same => .ok same
  have requirements : Alike (Abreast ts r q) (requirements negation s) (requirements negation t) := by
    refine (strict.sepBy1_of_misses ?_).bind fun _ _ _ _ same => .ok same
    rintro m n (⟨rfl, rfl⟩ | ⟨v, x, y, hv, hx, hy, rfl, rfl⟩)
    · exact ⟨misses_spaced_skip hr.requirement, misses_spaced_skip hq.requirement⟩
    · exact ⟨misses_mark_name hx hv (by decide) (by decide),
        misses_mark_name hy hv (by decide) (by decide)⟩
  refine (requirements.sepBy1_of_misses ?_).bind fun _ _ _ _ same => .ok same
  rintro m n (⟨rfl, rfl⟩ | ⟨v, x, y, hv, hx, hy, rfl, rfl⟩)
  · exact ⟨misses_spaced_skip hr.alternative, misses_spaced_skip hq.alternative⟩
  · exact ⟨misses_mark_name hx hv (by decide) (by decide),
      misses_mark_name hy hv (by decide) (by decide)⟩

/-! ### Whether a negation is read -/

theorem exists_name_of_not (h : ¬ NotCalledNot t') :
    ∃ v ts, t' = .call (String.ofList ('n' :: 'o' :: 't' :: v)) ts ∧ ∀ c ∈ v.head?, c = '.' := by
  cases t' with
  | literal l => exact absurd trivial h
  | path p => exact absurd trivial h
  | call name ts =>
    have hs : stem name.toList = ['n', 'o', 't'] := by simpa [NotCalledNot] using h
    refine ⟨name.toList.dropWhile (· != '.'), ts, ?_, fun c hc => ?_⟩
    · have split := List.takeWhile_append_dropWhile (p := (· != '.')) (l := name.toList)
      rw [stem] at hs
      rw [hs] at split
      have joined : 'n' :: 'o' :: 't' :: name.toList.dropWhile (· != '.') = name.toList := split
      rw [joined, String.ofList_toList]
    · simpa using endsRun_dropWhile (· != '.') name.toList c hc

/-- Whether a negation is read in front of a term does not depend on how the term is written. -/
theorem alike_negated (args : ∀ name ts, t' = .call name ts → ∀ a ∈ ts, Uniform a)
    (hu : Written anyTerm (.term t') u) (hv : Written anyTerm (.term t') v) (r q : List Char) :
    ∃ ts, (∀ a ∈ ts, Uniform a) ∧
      Alike (Abreast ts r q) (negated (u ++ r)) (negated (v ++ q)) := by
  by_cases ht : NotCalledNot t'
  · exact ⟨[], by simp, alike_of_misses (misses_negated_of_notCalledNot ht hu r)
      (misses_negated_of_notCalledNot ht hv q)⟩
  · obtain ⟨w, ts, rfl, hw⟩ := exists_name_of_not ht
    obtain ⟨f, hf, isName, hu⟩ := hu.exists_group
    obtain ⟨g, hg, -, hv⟩ := hv.exists_group
    obtain ⟨x, hx, groupx⟩ := hu r
    obtain ⟨y, hy, groupy⟩ := hv q
    obtain rfl := String.ofList_injective hf
    obtain rfl := String.ofList_injective hg
    have loose {x r : List Char} (group : Group ts r x) : EndsRun isWordChar (w ++ x) := by
      cases w with
      | nil => exact group.stops.endsRun (apart_of_opens (by decide))
      | cons c w =>
        obtain rfl := hw c rfl
        exact endsRun_cons.2 (by decide)
    have mark {x r : List Char} (group : Group ts r x) :
        negationMark ('n' :: 'o' :: 't' :: w ++ x) = .ok () (skip (w ++ x)) :=
      negationMark_word (loose group)
    have plain : ∀ c ∈ w, Function.isNameChar c = true := fun c hc => isName.plain c (by simp [hc])
    have inside := args _ ts rfl
    have next := alike_negation inside groupx groupy plain (loose groupx)
    rw [← skips_negation.skip, ← skips_negation.skip (w ++ y)] at next
    refine ⟨ts, inside, ?_⟩
    rw [hx, hy]
    unfold negated
    rw [bind_of_ok (mark groupx), bind_of_ok (mark groupy)]
    exact next.bind fun _ _ _ _ same => .ok same

theorem uniform_of_args (args : ∀ name ts, t' = .call name ts → ∀ a ∈ ts, Uniform a) :
    Uniform t' := by
  intro u v r q hu hv hr hq
  obtain ⟨ts, hts, mark⟩ := alike_negated args hu hv r q
  have negation : Alike (Abreast ts r q) (negation (u ++ r)) (negation (v ++ q)) := by
    have comparison {u r : List Char} (hu : Written anyTerm (.term t') u) (hr : EndsRule r) :
        (parenthesised Rule.negation <|> compared) (u ++ r) = .ok (.operand t') (skip r) := by
      have reads := reads_of_written safe_notCalledNot (hu.change trivial)
      obtain ⟨c, w, hw, hc⟩ := hu.starts
      rw [orElse_of_misses (by rw [hw]; exact misses_parenthesised hc)]
      exact compared_of_term hr.toEndsNegation reads
    rw [negation_eq_orElse]
    refine mark.orElse fun _ _ => ?_
    rw [comparison hu hr, comparison hv hq]
    exact .ok (.inl ⟨rfl, rfl⟩)
  refine (alike_alternatives hts hr hq negation).mono ?_
  rintro m n (same | ⟨w, x, y, hw, hx, hy, rfl, rfl⟩)
  · exact .inl same
  · have stuck {x r : List Char} (hx : Group ts r x) : Stuck (skip (w ++ x)) := by
      intro h
      rw [skip_skip] at h
      obtain ⟨c, s, hs, hc⟩ := exists_skip_name hw hx
      rw [hs] at h
      obtain rfl : c = ')' := by simpa using h
      revert hc
      decide
    exact .inr ⟨stuck hx, stuck hy⟩

theorem uniform (t : Term) : Uniform t := by
  induction t using Term.induction with
  | literal l => exact uniform_of_args (by simp)
  | path s => exact uniform_of_args (by simp)
  | call name ts ih =>
    refine uniform_of_args fun name' ts' same => ?_
    obtain ⟨rfl, rfl⟩ := Term.call.inj same
    exact ih

/-- No negation is read in front of the term. -/
def Free (t : Term) : Prop :=
  ∀ u r, Written anyTerm (.term t) u → Misses negated (u ++ r)

/-- If no negation is read in front of a term once, none is however it is written. -/
theorem free_of_misses {t : Term} (hu : Written anyTerm (.term t) u) (h : Misses negated (u ++ r)) :
    Free t := by
  intro v q hv
  obtain ⟨ts, -, alike⟩ := alike_negated (fun _ _ _ a _ => uniform a) hu hv r q
  exact alike.misses_iff.1 h

theorem safe_free : Safe Free :=
  fun _ u ht h r => ht u r (h.change trivial)

end Verdict.Rule
