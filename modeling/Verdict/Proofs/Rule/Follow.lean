import Verdict.Proofs.Rule.Recursion
import Verdict.Proofs.Rule.Token

/-!
# What can stand behind a phrase

A phrase ends where nothing goes on with it.  A term ends in front of a blank or of a mark, a
condition between strict operators also in front of no comparison, and so on up to a whole rule, which
ends only in front of a closing parenthesis or with the text.
-/

namespace Verdict.Rule

open Verdict.Parser

variable {r s a : List Char}

/-- The characters that may stand behind a term. -/
def termEnds : List Char :=
  [' ', '\t', '\r', '\n', ')', ',', '=', '!', '<', '>', '&', '|']

/-- No term goes on here. -/
def EndsTerm (r : List Char) : Prop :=
  ∀ c ∈ r.head?, c ∈ termEnds

theorem endsTerm_nil : EndsTerm [] := by
  simp [EndsTerm]

theorem endsTerm_cons {c : Char} : EndsTerm (c :: r) ↔ c ∈ termEnds := by
  simp [EndsTerm]

theorem EndsTerm.endsRun {accepts : Char → Bool} (h : EndsTerm r)
    (none : termEnds.any accepts = false) : EndsRun accepts r := by
  intro c hc
  simpa using List.any_eq_false.1 none c (h c hc)

theorem mem_termEnds_of_isSpacing {c : Char} (h : Text.isSpacing c = true) : c ∈ termEnds := by
  rcases isSpacing_cases h with rfl | rfl | rfl | rfl <;> decide

theorem endsTerm_append (ha : Blank a) (h : EndsTerm r) : EndsTerm (a ++ r) := by
  cases a with
  | nil => exact h
  | cons c a => exact endsTerm_cons.2 (mem_termEnds_of_isSpacing (ha c (by simp)))

theorem skip_blank_cons {c : Char} (ha : Blank a) (hc : Text.isSpacing c = false) :
    skip (a ++ c :: s) = c :: s := by
  rw [skip_append ha, skip_cons hc]

/-! ### Marks that are not there -/

theorem misses_comparison (h : EndsRun ['=', '!', '<', '>'].contains s) : Misses comparison s := by
  have one {c : Char} {u : List Char} (hc : c ∈ ['=', '!', '<', '>']) (op : Comparison) :
      Misses (do token (c :: u); return op : Parser Comparison) s := by
    refine Misses.bind (misses_token_iff.2 fun hp => ?_)
    obtain ⟨t, rfl⟩ := hp
    exact absurd hc (by simpa using endsRun_cons.1 h)
  exact (one (by decide) _).orElse ((one (by decide) _).orElse ((one (by decide) _).orElse
    ((one (by decide) _).orElse ((one (by decide) _).orElse (one (by decide) _)))))

theorem misses_strictOperator (h : EndsRun ['a', 'o'].contains (skip s)) :
    Misses strictOperator s := by
  have one {c : Char} {u : List Char} (hc : c ∈ ['a', 'o'])
      (join : Condition Term → Condition Term → Condition Term) :
      Misses (do keyword (c :: u); return join) (skip s) := by
    refine Misses.bind (Misses.bind (misses_token_iff.2 fun hp => ?_))
    obtain ⟨t, ht⟩ := hp
    rw [← ht] at h
    exact absurd hc (by simpa using endsRun_cons.1 h)
  exact misses_spaced_iff.2 ((one (by decide) _).orElse (one (by decide) _))

theorem misses_spaced_token {c : Char} {u : List Char} (h : (skip s).head? ≠ some c) :
    Misses (spaced (token (c :: u))) s := by
  refine misses_spaced_iff.2 (misses_token_iff.2 fun hp => h ?_)
  obtain ⟨t, ht⟩ := hp
  rw [← ht]
  rfl

theorem misses_spaced_char {c : Char} (h : (skip s).head? ≠ some c) : Misses (spaced (char c)) s :=
  misses_spaced_iff.2 (misses_char_iff.2 h)

/-! ### Ends of conditions -/

/-- No comparison goes on here. -/
structure EndsNegation (r : List Char) : Prop where
  term : EndsTerm r
  comparison : Misses comparison (skip r)

/-- No strict operator stands here. -/
structure EndsStrict (r : List Char) : Prop extends EndsNegation r where
  operator : Misses strictOperator r

/-- No further requirement stands here. -/
structure EndsConjunction (r : List Char) : Prop extends EndsStrict r where
  requirement : Misses (spaced (token ['&', '&'])) r

/-- No further alternative stands here. -/
structure EndsRule (r : List Char) : Prop extends EndsConjunction r where
  alternative : Misses (spaced (token ['|', '|'])) r

/-- Nothing goes on in front of a closing parenthesis, a comma or the end of the text. -/
theorem endsRule_of_head (ht : EndsTerm r) (h : ∀ c ∈ (skip r).head?, c = ')' ∨ c = ',') :
    EndsRule r := by
  have none {set : List Char} (closing : ')' ∉ set) (comma : ',' ∉ set) :
      EndsRun set.contains (skip r) := by
    intro c hc
    rcases h c hc with rfl | rfl
    · simpa using closing
    · simpa using comma
  refine ⟨⟨⟨⟨ht, misses_comparison (none (by decide) (by decide))⟩,
    misses_strictOperator (none (by decide) (by decide))⟩, misses_spaced_token ?_⟩,
    misses_spaced_token ?_⟩
  · intro hc
    simpa using h _ hc
  · intro hc
    simpa using h _ hc

theorem endsRule_nil : EndsRule [] :=
  endsRule_of_head endsTerm_nil (by simp [skip])

theorem endsRule_closing (ha : Blank a) : EndsRule (a ++ ')' :: s) := by
  refine endsRule_of_head (endsTerm_append ha (endsTerm_cons.2 (by decide))) ?_
  rw [skip_blank_cons ha rfl]
  simp

theorem endsConjunction_bars (ha : Blank a) : EndsConjunction (a ++ '|' :: '|' :: s) := by
  have front : skip (a ++ '|' :: '|' :: s) = '|' :: '|' :: s := skip_blank_cons ha rfl
  refine ⟨⟨⟨endsTerm_append ha (endsTerm_cons.2 (by decide)), misses_comparison ?_⟩,
    misses_strictOperator ?_⟩, misses_spaced_token ?_⟩
  all_goals rw [front]
  · exact endsRun_cons.2 (by decide)
  · exact endsRun_cons.2 (by decide)
  · simp

theorem endsStrict_ampersands (ha : Blank a) : EndsStrict (a ++ '&' :: '&' :: s) := by
  have front : skip (a ++ '&' :: '&' :: s) = '&' :: '&' :: s := skip_blank_cons ha rfl
  refine ⟨⟨endsTerm_append ha (endsTerm_cons.2 (by decide)), misses_comparison ?_⟩,
    misses_strictOperator ?_⟩
  all_goals rw [front]
  · exact endsRun_cons.2 (by decide)
  · exact endsRun_cons.2 (by decide)

/-- A strict operator ends a condition, if there is a blank in front of it. -/
theorem endsNegation_operator {c : Char} (ha : Blank a) (some : a ≠ []) (hc : c = 'a' ∨ c = 'o') :
    EndsNegation (a ++ c :: s) := by
  refine ⟨?_, ?_⟩
  · obtain ⟨d, a, rfl⟩ := List.exists_cons_of_ne_nil some
    exact endsTerm_cons.2 (mem_termEnds_of_isSpacing (ha d (by simp)))
  · rcases hc with rfl | rfl
    · rw [skip_blank_cons ha rfl]
      exact misses_comparison (endsRun_cons.2 (by decide))
    · rw [skip_blank_cons ha rfl]
      exact misses_comparison (endsRun_cons.2 (by decide))

end Verdict.Rule
