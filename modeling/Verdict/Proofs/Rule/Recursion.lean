import Verdict.Rule.Parser
import Verdict.Proofs.Parser.Shortening
import Verdict.Proofs.Path.Longest

/-!
# Terms and conditions without a bound

The parsers of terms and of conditions refer to themselves only behind a name, a parenthesis or a mark
of negation, so that a bound on the depth above the length of the text is none.  Here the bounds are
removed: `term_eq` and `negation_eq` say how terms and negations are read in terms of themselves.
-/

namespace Verdict.Rule

open Verdict.Parser

/-! ### What is left is shorter -/

theorem consumes_keyword {word : List Char} (hw : word ≠ []) : Consumes (keyword word) :=
  (consumes_token hw).bind fun _ => shortens_notBefore _

theorem shortens_constant : Shortens constant := by
  have one {word : List Char} (hw : word ≠ []) (l : Literal) :
      Shortens (do keyword word; return l) :=
    (consumes_keyword hw).shortens.bind fun _ => shortens_pure _
  exact (one (by decide) _).orElse ((one (by decide) _).orElse (one (by decide) _))

theorem shortens_sign : Shortens sign :=
  (consumes_satisfy _).shortens.optional.bind fun _ => shortens_pure _

theorem shortens_digits : Shortens digits := by
  refine Shortens.orElse ?_ ?_
  · exact (consumes_takeWhile1 _).shortens.bind fun _ => Shortens.bind (Shortens.optional
      ((consumes_char _).shortens.bind fun _ => shortens_takeWhile _)) fun _ => shortens_pure _
  · exact (consumes_char _).shortens.bind fun _ =>
      (consumes_takeWhile1 _).shortens.bind fun _ => shortens_pure _

theorem shortens_exponentDigits (start : List Char) : Shortens (exponentDigits start) := by
  refine Shortens.orElse (consumes_takeWhile1 _).shortens ?_
  intro s a r h
  simp at h

theorem shortens_exponent (start : List Char) : Shortens (exponent start) :=
  (consumes_satisfy _).shortens.bind fun _ => shortens_sign.bind fun _ =>
    (shortens_exponentDigits start).bind fun _ => shortens_pure _

theorem shortens_numeral : Shortens numeral := by
  intro s a r h
  exact (shortens_sign.bind fun _ => shortens_digits.bind fun _ =>
    (shortens_exponent s).optional.bind fun _ => shortens_pure _) h

theorem shortens_number : Shortens number :=
  shortens_numeral.bind fun _ => shortens_pure _

theorem length_quotedText {quote : Char} {s u r : List Char}
    (h : quotedText quote s = some (u, r)) : r.length ≤ s.length := by
  fun_induction quotedText quote s generalizing u r with
  | case1 => simp at h
  | case2 => simp_all
  | case3 => simp at h
  | case4 c s d ih =>
    simp only [Option.map_eq_some_iff, Prod.mk.injEq, Prod.exists] at h
    obtain ⟨u, r, h, -, rfl⟩ := h
    have := ih h
    simp only [List.length_cons]
    omega
  | case5 c s h₁ h₂ ih =>
    simp only [Option.map_eq_some_iff, Prod.mk.injEq, Prod.exists] at h
    obtain ⟨u, r, h, -, rfl⟩ := h
    have := ih h
    simp only [List.length_cons]
    omega

theorem shortens_quotedBy (quote : Char) : Shortens (quotedBy quote) := by
  refine (consumes_char _).shortens.bind fun _ => Shortens.bind ?_ fun _ =>
    (consumes_char _).shortens.bind fun _ => shortens_pure _
  intro s u r h
  cases hs : quotedText quote s with
  | none => simp [hs] at h
  | some x =>
    simp only [hs, Reply.ok.injEq] at h
    exact h.2 ▸ length_quotedText hs

theorem shortens_string : Shortens string :=
  (shortens_quotedBy _).orElse (shortens_quotedBy _)

theorem shortens_path : Shortens path := by
  have dollar : Shortens Path.path :=
    (consumes_char _).shortens.bind fun _ => shortens_many _
  have slash : Shortens pointer :=
    (consumes_char _).shortens.bind fun _ => (shortens_takeWhile _).bind fun _ => shortens_pure _
  exact (dollar.read.orElse slash).bind fun _ => shortens_pure _

theorem consumes_functionName : Consumes functionName :=
  (consumes_satisfy _).bind fun _ => (shortens_takeWhile _).bind fun _ => shortens_pure _

/-! ### Terms -/

section Term

variable {p q : Parser Term} {n : Nat}

theorem shortens_call (hp : Shortens p) : Shortens (call p) :=
  consumes_functionName.shortens.bind fun _ => (consumes_char _).shortens.spaced.bind fun _ =>
    (hp.sepBy _).bind fun _ => (consumes_char _).shortens.spaced.bind fun _ => shortens_pure _

theorem shortens_termOf (hp : Shortens p) : Shortens (termOf p) :=
  Shortens.spaced (shortens_constant.map.orElse ((shortens_call hp).orElse
    (shortens_path.orElse (shortens_number.map.orElse shortens_string.map))))

theorem shortens_termUpTo (n : Nat) : Shortens (termUpTo n) := by
  induction n with
  | zero => exact shortens_never
  | succ n ih => exact shortens_termOf ih

theorem shortens_term : Shortens term :=
  fun _ _ _ h => shortens_termUpTo _ h

/-- The arguments of a call are shorter than the call. -/
theorem agree_termOf (h : Agree n p q) (hp : Shortens p) :
    Agree (n + 1) (termOf p) (termOf q) := by
  have comma : Shortens (spaced (char ',')) := (consumes_char _).shortens.spaced
  have inner : Agree (n + 1) (call p) (call q) := by
    refine consumes_functionName.agree_bind fun _ => (agree_refl n _).bind
      (consumes_char _).shortens.spaced fun _ => ?_
    exact (h.sepBy hp comma).bind (hp.sepBy _) fun _ => agree_refl n _
  refine Agree.spaced ((agree_refl _ _).orElse (inner.orElse (agree_refl _ _))) ?_
  exact shortens_constant.map.orElse ((shortens_call hp).orElse
    (shortens_path.orElse (shortens_number.map.orElse shortens_string.map)))

theorem agree_termUpTo (m n : Nat) : Agree (min m n) (termUpTo m) (termUpTo n) := by
  induction m generalizing n with
  | zero =>
    intro s hs
    omega
  | succ m ih =>
    cases n with
    | zero =>
      intro s hs
      omega
    | succ n =>
      rw [Nat.succ_min_succ]
      exact agree_termOf (ih n) (shortens_termUpTo m)

/-- A bound above the length of the text is none. -/
theorem agree_term (n : Nat) : Agree n (termUpTo n) term :=
  fun s hs => agree_termUpTo n (s.length + 1) (by omega)

theorem term_eq : term = termOf term := by
  funext s
  exact agree_termOf (agree_term s.length) (shortens_termUpTo _) (Nat.lt_succ_self _)

end Term

/-! ### Conditions -/

/-- A negation, a rule in parentheses or a comparison. -/
def negation : Parser (Condition Term) :=
  fun s => negationUpTo (s.length + 1) s

section Condition

variable {p q : Parser (Condition Term)} {n : Nat}

theorem shortens_comparison : Shortens comparison := by
  have one {u : List Char} (hu : u ≠ []) (op : Comparison) : Shortens (do token u; return op) :=
    (consumes_token hu).shortens.bind fun _ => shortens_pure _
  exact (one (by decide) _).orElse ((one (by decide) _).orElse ((one (by decide) _).orElse
    ((one (by decide) _).orElse ((one (by decide) _).orElse (one (by decide) _)))))

theorem shortens_compared : Shortens compared :=
  shortens_term.bind fun _ => Shortens.bind (Shortens.optional (shortens_comparison.spaced.bind
    fun _ => shortens_term.bind fun _ => shortens_pure _)) fun _ => shortens_pure _

theorem consumes_strictOperator : Consumes strictOperator := by
  have one {word : List Char} (hw : word ≠ [])
      (join : Condition Term → Condition Term → Condition Term) :
      Consumes (do keyword word; return join) :=
    (consumes_keyword hw).bind fun _ => shortens_pure _
  exact Consumes.spaced ((one (by decide) _).orElse (one (by decide) _))

theorem shortens_strict (hp : Shortens p) : Shortens (strict p) :=
  hp.bind fun _ => (shortens_many _).bind fun _ => shortens_pure _

theorem shortens_requirements (hp : Shortens p) : Shortens (requirements p) :=
  ((shortens_strict hp).sepBy1 _).bind fun _ => shortens_pure _

theorem shortens_alternatives (hp : Shortens p) : Shortens (alternatives p) :=
  ((shortens_requirements hp).sepBy1 _).bind fun _ => shortens_pure _

theorem shortens_parenthesised (hp : Shortens p) : Shortens (parenthesised p) :=
  (consumes_char _).shortens.spaced.bind fun _ => (shortens_alternatives hp).bind fun _ =>
    (consumes_char _).shortens.spaced.bind fun _ => shortens_pure _

theorem consumes_negationMark : Consumes negationMark :=
  Consumes.spaced ((consumes_token (by decide)).orElse (consumes_keyword (by decide)))

/-- How a negation is read, given a parser for what is negated or stands in parentheses. -/
def negationOf (p : Parser (Condition Term)) : Parser (Condition Term) :=
  (do
    negationMark
    let inner ← p
    return .not inner) <|>
  parenthesised p <|>
  compared

theorem shortens_negationOf (hp : Shortens p) : Shortens (negationOf p) :=
  Shortens.orElse
    (consumes_negationMark.shortens.bind fun _ => hp.bind fun _ => shortens_pure _)
    ((shortens_parenthesised hp).orElse shortens_compared)

theorem shortens_negationUpTo (n : Nat) : Shortens (negationUpTo n) := by
  induction n with
  | zero => exact shortens_never
  | succ n ih => exact shortens_negationOf ih

theorem shortens_negation : Shortens negation :=
  fun _ _ _ h => shortens_negationUpTo _ h

theorem agree_alternatives (h : Agree n p q) (hp : Shortens p) :
    Agree n (alternatives p) (alternatives q) := by
  have strict : Agree n (strict p) (strict q) := by
    refine h.bind hp fun _ => Agree.bind (Agree.many ?_) (shortens_many _) fun _ => agree_refl n _
    refine (agree_refl n _).bind consumes_strictOperator.shortens fun _ => ?_
    exact h.bind hp fun _ => agree_refl n _
  have requirements : Agree n (requirements p) (requirements q) :=
    (strict.sepBy1 (shortens_strict hp) (consumes_token (by decide)).shortens.spaced).bind
      ((shortens_strict hp).sepBy1 _) fun _ => agree_refl n _
  exact (requirements.sepBy1 (shortens_requirements hp)
    (consumes_token (by decide)).shortens.spaced).bind
      ((shortens_requirements hp).sepBy1 _) fun _ => agree_refl n _

/-- What stands behind a mark or in parentheses is shorter than the whole. -/
theorem agree_negationOf (h : Agree n p q) (hp : Shortens p) :
    Agree (n + 1) (negationOf p) (negationOf q) := by
  refine Agree.orElse ?_ (Agree.orElse ?_ (agree_refl _ _))
  · exact consumes_negationMark.agree_bind fun _ => h.bind hp fun _ => agree_refl n _
  · exact (consumes_char _).spaced.agree_bind fun _ =>
      (agree_alternatives h hp).bind (shortens_alternatives hp) fun _ => agree_refl n _

theorem agree_negationUpTo (m n : Nat) : Agree (min m n) (negationUpTo m) (negationUpTo n) := by
  induction m generalizing n with
  | zero =>
    intro s hs
    omega
  | succ m ih =>
    cases n with
    | zero =>
      intro s hs
      omega
    | succ n =>
      rw [Nat.succ_min_succ]
      exact agree_negationOf (ih n) (shortens_negationUpTo m)

/-- A bound above the length of the text is none. -/
theorem agree_negation (n : Nat) : Agree n (negationUpTo n) negation :=
  fun s hs => agree_negationUpTo n (s.length + 1) (by omega)

theorem negation_eq : negation = negationOf negation := by
  funext s
  exact agree_negationOf (agree_negation s.length) (shortens_negationUpTo _) (Nat.lt_succ_self _)

theorem condition_eq : condition = alternatives negation := by
  funext s
  exact agree_alternatives (agree_negation (s.length + 1)) (shortens_negationUpTo _)
    (Nat.lt_succ_self _)

end Condition

end Verdict.Rule
