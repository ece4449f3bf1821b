import Verdict.Text.Blank
import Verdict.Text.Alphanumeric
import Mathlib.Data.List.TakeWhile

/-!
# Blanks at the ends of a text

What begins and ends with characters that are no blanks is what is left when the blanks around it are
cut off.  No letter and no number is a blank.
-/

namespace Verdict.Text

/-- All blanks. -/
def blankCodes : List Nat :=
  [9, 10, 11, 12, 13, 0x20, 0x85, 0xA0, 0x1680, 0x2000, 0x2001, 0x2002, 0x2003, 0x2004, 0x2005,
    0x2006, 0x2007, 0x2008, 0x2009, 0x200A, 0x2028, 0x2029, 0x202F, 0x205F, 0x3000]

theorem mem_blankCodes_of_isBlank {c : Char} (h : isBlank c = true) : c.toNat ∈ blankCodes := by
  simp only [isBlank, Span.covers, blankSpans, Span.hold, Bool.if_false_left, Bool.and_eq_true,
    Bool.or_eq_true, Bool.not_eq_true', decide_eq_true_eq, decide_eq_false_iff_not,
    Bool.false_eq_true, or_false] at h
  simp only [blankCodes, List.mem_cons, List.not_mem_nil, or_false]
  omega

theorem isBlank_eq_false_of_isAlphanumeric {c : Char} (h : isAlphanumeric c = true) :
    isBlank c = false := by
  have apart : ∀ n ∈ blankCodes, Span.hold alphanumericSpans n = false := by decide +kernel
  by_contra hb
  have := apart c.toNat (mem_blankCodes_of_isBlank (by simpa using hb))
  rw [isAlphanumeric, Span.covers, this] at h
  simp at h

theorem toNat_of_isAlpha {c : Char} (h : c.isAlpha = true) :
    (65 ≤ c.toNat ∧ c.toNat ≤ 90) ∨ (97 ≤ c.toNat ∧ c.toNat ≤ 122) := by
  rcases Bool.or_eq_true_iff.1 h with upper | lower
  · exact .inl (of_decide_eq_true upper)
  · obtain ⟨above, below⟩ := Bool.and_eq_true_iff.1 lower
    exact .inr ⟨of_decide_eq_true above, of_decide_eq_true below⟩

theorem isAlphanumeric_of_isAlphanum {c : Char} (h : c.isAlphanum = true) :
    isAlphanumeric c = true := by
  have spans : alphanumericSpans =
      ⟨0x30, 0x39⟩ :: ⟨0x41, 0x5A⟩ :: ⟨0x61, 0x7A⟩ :: alphanumericSpans.drop 3 := rfl
  have code : ((65 ≤ c.toNat ∧ c.toNat ≤ 90) ∨ (97 ≤ c.toNat ∧ c.toNat ≤ 122)) ∨
      (48 ≤ c.toNat ∧ c.toNat ≤ 57) :=
    (Bool.or_eq_true_iff.1 h).imp toNat_of_isAlpha Char.isDigit_iff_toNat.1
  rw [isAlphanumeric, Span.covers, spans, Span.hold, Span.hold, Span.hold]
  simp only [Bool.if_false_left, Bool.and_eq_true, Bool.or_eq_true, Bool.not_eq_true',
    decide_eq_true_eq, decide_eq_false_iff_not]
  omega

/-- The text neither begins nor ends with a blank. -/
structure Trimmed (s : List Char) : Prop where
  first : ∀ c ∈ s.head?, isBlank c = false
  last : ∀ c ∈ s.getLast?, isBlank c = false

theorem dropWhile_isBlank {w s : List Char} (hw : ∀ c ∈ w, isBlank c = true)
    (hs : ∀ c ∈ s.head?, isBlank c = false) : (w ++ s).dropWhile isBlank = s := by
  rw [List.dropWhile_append_of_pos hw]
  cases s with
  | nil => rfl
  | cons c s => simp [hs c rfl]

theorem trim_append {w s w' : List Char} (hw : ∀ c ∈ w, isBlank c = true) (hs : Trimmed s)
    (hne : s ≠ []) (hw' : ∀ c ∈ w', isBlank c = true) : trim (w ++ (s ++ w')) = s := by
  have front : ∀ c ∈ (s ++ w').head?, isBlank c = false := by
    intro c hc
    obtain ⟨d, s, rfl⟩ := List.exists_cons_of_ne_nil hne
    exact hs.first c hc
  rw [trim, dropWhile_isBlank hw front, List.reverse_append, dropWhile_isBlank, List.reverse_reverse]
  · intro c hc
    exact hw' c (List.mem_reverse.1 hc)
  · intro c hc
    rw [List.head?_reverse] at hc
    exact hs.last c hc

/-- There is nothing to cut off from such a text. -/
theorem Trimmed.trim {s : List Char} (h : Trimmed s) : trim s = s := by
  by_cases empty : s = []
  · rw [empty, trim_nil]
  have whole : Text.trim ([] ++ (s ++ [])) = s := trim_append (by simp) h empty (by simp)
  rwa [List.nil_append, List.append_nil] at whole

/-- What is left lies between the blanks that are cut off. -/
theorem exists_append_trim (s : List Char) :
    ∃ w v, (∀ c ∈ w, isBlank c = true) ∧ (∀ c ∈ v, isBlank c = true) ∧ s = w ++ (trim s ++ v) := by
  refine ⟨s.takeWhile isBlank, ((s.dropWhile isBlank).reverse.takeWhile isBlank).reverse,
    fun c hc => List.mem_takeWhile_imp hc,
    fun c hc => List.mem_takeWhile_imp (List.mem_reverse.1 hc), ?_⟩
  rw [trim, ← List.reverse_append, List.takeWhile_append_dropWhile, List.reverse_reverse,
    List.takeWhile_append_dropWhile]

theorem head?_dropWhile_isBlank (s : List Char) :
    ∀ c ∈ (s.dropWhile isBlank).head?, isBlank c = false := by
  intro c hc
  have := List.head?_dropWhile_not isBlank s
  rwa [Option.mem_def.1 hc] at this

theorem trimmed_trim (s : List Char) : Trimmed (trim s) where
  first c hc := by
    obtain ⟨v, hv⟩ : trim s <+: s.dropWhile isBlank := by
      rw [trim, ← List.reverse_suffix, List.reverse_reverse]
      exact List.dropWhile_suffix _
    refine head?_dropWhile_isBlank s c ?_
    rw [← hv, List.head?_append, Option.mem_def.1 hc]
    rfl
  last c hc := by
    rw [trim, List.getLast?_reverse] at hc
    exact head?_dropWhile_isBlank _ c hc

end Verdict.Text
