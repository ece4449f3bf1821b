import Verdict.Proofs.Rule.Follow

/-!
# Reading terms

How a term begins decides what kind of term it is, apart from words: a name is tried once no constant
is read there.  For each kind this file says when the parser of terms comes to it, and when it reads
nothing at all.
-/

namespace Verdict.Rule

open Verdict.Parser

variable {s r m u v : List Char} {t : Term}

/-! ### Kinds of terms -/

/-- A term without the blanks around it. -/
def bare : Parser Term :=
  (.literal <$> constant) <|> call term <|> path <|> (.literal <$> number) <|> (.literal <$> string)

theorem term_eq_spaced : term = spaced bare :=
  term_eq

theorem term_of_bare (hs : EndsRun Text.isSpacing s) (h : bare s = .ok t m) :
    term s = .ok t (skip m) := by
  rw [term_eq_spaced]
  refine spaced_of_ok ?_
  rw [skip_of_endsRun hs]
  exact h

theorem misses_number (h : EndsRun startsNumber s) : Misses number s :=
  (misses_numeral h).bind

/-- The characters that begin a term. -/
def startsTerm (c : Char) : Bool :=
  Function.isNameStart c || startsNumber c || ['$', '/', '\'', '"'].contains c

theorem misses_bare_cons {c : Char} (h : startsTerm c = false) : Misses bare (c :: s) := by
  simp only [startsTerm, Bool.or_eq_false_iff, List.contains_eq_mem, List.mem_cons,
    List.not_mem_nil, or_false, decide_eq_false_iff_not, not_or] at h
  obtain ⟨⟨hname, hnumber⟩, hdollar, hslash, hsingle, hdouble⟩ := h
  have word : c ∉ ['n', 't', 'f'] := by
    intro hc
    simp only [List.mem_cons, List.not_mem_nil, or_false] at hc
    rcases hc with rfl | rfl | rfl <;> revert hname <;> decide
  refine (misses_map_iff.2 (misses_constant_cons word)).orElse ?_
  refine (misses_functionName_cons hname).bind.orElse ?_
  refine (misses_path_cons hdollar hslash).orElse ?_
  refine (misses_map_iff.2 (misses_number (endsRun_cons.2 hnumber))).orElse ?_
  exact misses_map_iff.2 (misses_string_cons hsingle hdouble)

theorem misses_bare_nil : Misses bare [] := by
  refine Misses.orElse (misses_map_iff.2 ?_) (Misses.orElse ?_ (Misses.orElse ?_
    (Misses.orElse (misses_map_iff.2 ?_) (misses_map_iff.2 ?_))))
  · exact ⟨[], rfl⟩
  · exact (misses_satisfy_iff.2 endsRun_nil).bind.bind
  · exact ⟨[], rfl⟩
  · exact misses_number endsRun_nil
  · exact ⟨[], rfl⟩

/-- Nothing is read as a term unless something there begins one. -/
theorem misses_term (h : EndsRun startsTerm (skip s)) : Misses term s := by
  rw [term_eq_spaced]
  refine misses_spaced_iff.2 ?_
  cases hs : skip s with
  | nil => exact misses_bare_nil
  | cons c s =>
    rw [hs] at h
    exact misses_bare_cons (endsRun_cons.1 h)

theorem bare_of_constant {l : Literal} (h : constant s = .ok l r) : bare s = .ok (.literal l) r :=
  orElse_of_ok (map_of_ok h)

theorem bare_of_call (hc : Misses constant s) (h : call term s = .ok t r) : bare s = .ok t r :=
  (orElse_of_misses (misses_map_iff.2 hc)).trans (orElse_of_ok h)

theorem bare_of_path {c : Char} (hc : c = '$' ∨ c = '/') (h : path (c :: s) = .ok t r) :
    bare (c :: s) = .ok t r := by
  have word : Misses constant (c :: s) := by
    rcases hc with rfl | rfl <;> exact misses_constant_cons (by decide)
  have name : Misses functionName (c :: s) := by
    rcases hc with rfl | rfl <;> exact misses_functionName_cons (by decide)
  exact (orElse_of_misses (misses_map_iff.2 word)).trans
    ((orElse_of_misses name.bind).trans (orElse_of_ok h))

theorem isNameStart_eq_false_of_startsNumber {c : Char} (h : startsNumber c = true) :
    Function.isNameStart c = false := by
  simp only [startsNumber, isSign, Bool.or_eq_true, beq_iff_eq] at h
  rcases h with (h | rfl) | rfl | rfl
  · by_contra hn
    simp only [Bool.not_eq_false, Function.isNameStart, Bool.or_eq_true, beq_iff_eq] at hn
    rcases hn with hn | rfl
    · have digit : 48 ≤ c.toNat ∧ c.toNat ≤ 57 := Char.isDigit_iff_toNat.1 h
      have letter := Text.toNat_of_isAlpha hn
      omega
    · exact absurd h (by decide)
  · rfl
  · rfl
  · rfl

/-- Where a number begins, nothing but a number is read. -/
theorem bare_eq_of_startsNumber {c : Char} (hc : startsNumber c = true) :
    bare (c :: s) = ((.literal <$> number) <|> (.literal <$> string) : Parser Term) (c :: s) := by
  have apart : ∀ d, startsNumber d = false → c ≠ d := by
    rintro d hd rfl
    simp [hc] at hd
  have word : Misses constant (c :: s) := by
    refine misses_constant_cons ?_
    simp [apart 'n' (by decide), apart 't' (by decide), apart 'f' (by decide)]
  have name := isNameStart_eq_false_of_startsNumber hc
  have noPath : Misses path (c :: s) :=
    misses_path_cons (apart '$' (by decide)) (apart '/' (by decide))
  exact (orElse_of_misses (misses_map_iff.2 word)).trans
    ((orElse_of_misses (misses_functionName_cons name).bind).trans (orElse_of_misses noPath))

theorem bare_of_number {c : Char} {n : Decimal.Numeral} (hc : startsNumber c = true)
    (h : numeral (c :: s) = .ok n r) : bare (c :: s) = .ok (.literal (.number n.toFloat)) r := by
  have read : number (c :: s) = .ok (.number n.toFloat) r := by
    unfold number
    rw [bind_of_ok h, pure_apply]
  rw [bare_eq_of_startsNumber hc]
  exact orElse_of_ok (map_of_ok read)

theorem bare_of_string {c : Char} {l : Literal} (hc : c = '\'' ∨ c = '"')
    (h : string (c :: s) = .ok l r) : bare (c :: s) = .ok (.literal l) r := by
  have first : Misses constant (c :: s) ∧ Misses functionName (c :: s) ∧ Misses path (c :: s) ∧
      Misses number (c :: s) := by
    rcases hc with rfl | rfl
    · exact ⟨misses_constant_cons (by decide), misses_functionName_cons (by decide),
        misses_path_cons (by decide) (by decide), misses_number (endsRun_cons.2 (by decide))⟩
    · exact ⟨misses_constant_cons (by decide), misses_functionName_cons (by decide),
        misses_path_cons (by decide) (by decide), misses_number (endsRun_cons.2 (by decide))⟩
  obtain ⟨word, name, noPath, noNumber⟩ := first
  exact (orElse_of_misses (misses_map_iff.2 word)).trans
    ((orElse_of_misses name.bind).trans ((orElse_of_misses noPath).trans
      ((orElse_of_misses (misses_map_iff.2 noNumber)).trans (map_of_ok h))))

end Verdict.Rule
