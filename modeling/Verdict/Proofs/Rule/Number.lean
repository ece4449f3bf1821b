import Verdict.Proofs.Rule.Layout
import Verdict.Proofs.Path.Longest

/-!
# Reading numbers

The parser of numbers reads a number as it is written, `numeral_run`, and nothing else,
`numeral_of_ok`.  What stands behind must not go on with the number.
-/

namespace Verdict.Rule

open Verdict.Parser

variable {s r start : List Char}

def isSign (c : Char) : Bool :=
  c == '+' || c == '-'

theorem not_isSign_of_isDigit {c : Char} (h : c.isDigit = true) : isSign c = false := by
  have plus : c ≠ '+' := by
    rintro rfl
    simp at h
  have minus : c ≠ '-' := by
    rintro rfl
    simp at h
  simp [isSign, plus, minus]

theorem sign_eq_ok_iff {b : Bool} :
    sign s = .ok b r ↔
      ∃ o : Option Char, s = o.toList ++ r ∧ (∀ c ∈ o, c = '+' ∨ c = '-') ∧
        (o = none → EndsRun isSign r) ∧ b = (o == some '-') := by
  unfold sign
  simp only [bind_eq_ok_iff, optional_eq_ok_iff, satisfy_eq_ok_iff, misses_satisfy_iff, pure_apply,
    Reply.ok.injEq]
  constructor
  · rintro ⟨o, m, ⟨c, rfl, rfl, hc⟩ | ⟨rfl, rfl, hs⟩, rfl, rfl⟩
    · exact ⟨some c, rfl, by simpa using hc, by simp, rfl⟩
    · exact ⟨none, rfl, by simp, fun _ => hs, rfl⟩
  · rintro ⟨o, rfl, ho, hr, rfl⟩
    cases o with
    | some c => exact ⟨some c, r, .inl ⟨c, rfl, rfl, by simpa using ho⟩, rfl, rfl⟩
    | none => exact ⟨none, r, .inr ⟨rfl, rfl, hr rfl⟩, rfl, rfl⟩

theorem digits_eq_ok_iff {x : List Char × List Char} :
    digits s = .ok x r ↔
      ∃ whole fraction, s = whole ++ (NumberText.pointText fraction ++ r) ∧
        (∀ c ∈ whole, c.isDigit = true) ∧ (∀ f ∈ fraction, ∀ c ∈ f, c.isDigit = true) ∧
        (whole ≠ [] ∨ ∃ f ∈ fraction, f ≠ []) ∧ EndsRun Char.isDigit r ∧
        (fraction = none → r.head? ≠ some '.') ∧ x = (whole, fraction.getD []) := by
  unfold digits
  simp only [orElse_eq_ok_iff, bind_eq_ok_iff, takeWhile1_eq_ok_iff, optional_eq_ok_iff,
    char_eq_ok_iff, takeWhile_eq_ok_iff, pure_apply, Reply.ok.injEq]
  constructor
  · rintro (⟨whole, m, ⟨rfl, hne, hw, hm⟩, o, m', ho, rfl, rfl⟩ |
      ⟨-, c, m, ⟨rfl, -⟩, f, m', ⟨rfl, hne, hf, hr⟩, rfl, rfl⟩)
    · rcases ho with ⟨f, rfl, c, m'', ⟨rfl, -⟩, rfl, hf, hr⟩ | ⟨rfl, rfl, hmiss⟩
      · exact ⟨whole, some f, rfl, hw, by simpa using hf, .inl hne, hr, by simp, rfl⟩
      · refine ⟨whole, none, rfl, hw, by simp, .inl hne, hm, fun _ => ?_, rfl⟩
        rintro hdot
        obtain ⟨t, rfl⟩ : ∃ t, m = '.' :: t := by cases m <;> simp_all
        obtain ⟨here, h⟩ := (misses_bind_of_ok (char_cons '.' t)).1 hmiss
        simp [takeWhile_apply] at h
    · exact ⟨[], some f, rfl, by simp, by simpa using hf, .inr ⟨f, rfl, hne⟩, hr, by simp, rfl⟩
  · rintro ⟨whole, fraction, rfl, hw, hf, hne, hr, hdot, rfl⟩
    by_cases empty : whole = []
    · subst empty
      obtain ⟨f, rfl, hf'⟩ := hne.resolve_left (by simp)
      refine .inr ⟨?_, '.', f ++ r, ⟨rfl, rfl⟩, f, r, ⟨rfl, hf', by simpa using hf, hr⟩, rfl, rfl⟩
      exact (misses_takeWhile1_iff.2 (endsRun_cons.2 rfl)).bind
    · refine .inl ⟨whole, NumberText.pointText fraction ++ r, ⟨rfl, empty, hw, ?_⟩, ?_⟩
      · cases fraction with
        | some f => exact endsRun_cons.2 rfl
        | none => exact hr
      · cases fraction with
        | some f =>
          exact ⟨some f, r, .inl ⟨f, rfl, '.', f ++ r, ⟨rfl, rfl⟩, rfl, by simpa using hf, hr⟩, rfl, rfl⟩
        | none =>
          exact ⟨none, r, .inr ⟨rfl, rfl, (misses_char_iff.2 (hdot rfl)).bind⟩, rfl, rfl⟩

theorem exponentDigits_eq_ok_iff {u : List Char} :
    exponentDigits start s = .ok u r ↔
      s = u ++ r ∧ u ≠ [] ∧ (∀ c ∈ u, c.isDigit = true) ∧ EndsRun Char.isDigit r := by
  rw [← takeWhile1_eq_ok_iff]
  unfold exponentDigits Parser.orElse
  cases takeWhile1 Char.isDigit s <;> simp

theorem exponent_eq_ok_iff {x : Int} :
    exponent start s = .ok x r ↔
      ∃ e : Exponent, s = e.text ++ r ∧ EndsRun Char.isDigit r ∧ x = e.value := by
  unfold exponent
  simp only [bind_eq_ok_iff, satisfy_eq_ok_iff, sign_eq_ok_iff, exponentDigits_eq_ok_iff, pure_apply,
    Reply.ok.injEq]
  constructor
  · rintro ⟨c, m, ⟨rfl, hc⟩, b, m', ⟨o, rfl, ho, -, rfl⟩, u, m'', ⟨rfl, hne, hu, hr⟩, rfl, rfl⟩
    refine ⟨⟨c, o, u, by simpa using hc, ho, hne, hu⟩, by simp [Exponent.text], hr, ?_⟩
    simp [Exponent.value, Path.signedValue]
  · rintro ⟨⟨c, o, u, hc, ho, hne, hu⟩, rfl, hr, rfl⟩
    refine ⟨c, o.toList ++ (u ++ r), ⟨by simp [Exponent.text], by simpa using hc⟩, o == some '-',
      u ++ r, ⟨o, rfl, ho, fun _ => ?_, rfl⟩, u, r, ⟨rfl, hne, hu, hr⟩, ?_, rfl⟩
    · obtain ⟨d, u, rfl⟩ := List.exists_cons_of_ne_nil hne
      have hd := hu d (by simp)
      exact endsRun_cons.2 (not_isSign_of_isDigit hd)
    · simp [Exponent.value, Path.signedValue]

theorem misses_exponent (h : EndsRun (fun c => c == 'e' || c == 'E') s) :
    Misses (exponent start) s :=
  (misses_satisfy_iff.2 h).bind

theorem exists_sign (s : List Char) : ∃ b m, sign s = .ok b m := by
  by_cases ends : EndsRun isSign s
  · exact ⟨_, s, sign_eq_ok_iff.2 ⟨none, rfl, by simp, fun _ => ends, rfl⟩⟩
  · cases s with
    | nil => exact absurd endsRun_nil ends
    | cons c s =>
      have isSign : c = '+' ∨ c = '-' := by
        simpa only [endsRun_cons, Bool.not_eq_false, isSign, Bool.or_eq_true, beq_iff_eq] using ends
      exact ⟨_, s, sign_eq_ok_iff.2 ⟨some c, rfl, by simpa using isSign, by simp, rfl⟩⟩

/-- Behind its mark an exponent is read or broken, but never missed. -/
theorem misses_exponent_iff :
    Misses (exponent start) s ↔ EndsRun (fun c => c == 'e' || c == 'E') s := by
  refine ⟨fun h => ?_, misses_exponent⟩
  by_contra ends
  cases s with
  | nil => exact ends endsRun_nil
  | cons c s =>
    have mark : (c == 'e' || c == 'E') = true := eq_true_of_ne_false fun no => ends (endsRun_cons.2 no)
    obtain ⟨b, m, signed⟩ := exists_sign s
    obtain ⟨here, broken⟩ :=
      (misses_bind_of_ok signed).1 ((misses_bind_of_ok (satisfy_cons mark)).1 h)
    cases read : takeWhile1 Char.isDigit m <;>
      simp [bind_apply, exponentDigits, Parser.orElse, read] at broken

/-- A number never begins with a second sign. -/
theorem endsRun_isSign_of_digits {whole u : List Char} {fraction : Option (List Char)}
    (hw : ∀ c ∈ whole, c.isDigit = true) (hne : whole ≠ [] ∨ ∃ f ∈ fraction, f ≠ []) :
    EndsRun isSign (whole ++ (NumberText.pointText fraction ++ u)) := by
  cases whole with
  | cons d whole => exact endsRun_cons.2 (not_isSign_of_isDigit (hw d (by simp)))
  | nil =>
    obtain ⟨f, rfl, -⟩ := hne.resolve_left (by simp)
    exact endsRun_cons.2 rfl

/-- Nothing goes on with the number.  Behind an exponent there can only be further digits. -/
structure EndsNumber (t : NumberText) (r : List Char) : Prop where
  digit : EndsRun Char.isDigit r
  point : t.exponent = none → t.fraction = none → r.head? ≠ some '.'
  exponent : t.exponent = none → EndsRun (fun c => c == 'e' || c == 'E') r

/-- A number is read as it is written. -/
theorem numeral_run (t : NumberText) (ends : EndsNumber t r) :
    numeral (t.text ++ r) = .ok t.numeral r := by
  obtain ⟨o, whole, fraction, exp, ho, hw, hf, hne⟩ := t
  obtain ⟨hd, hdot, he⟩ := ends
  have behind : EndsRun Char.isDigit (NumberText.exponentText exp ++ r) ∧
      (fraction = none → (NumberText.exponentText exp ++ r).head? ≠ some '.') := by
    cases exp with
    | none => exact ⟨hd, hdot rfl⟩
    | some e =>
      obtain ⟨c, o, u, hc, -⟩ := e
      rcases hc with rfl | rfl
      · exact ⟨endsRun_cons.2 rfl, by simp [NumberText.exponentText, Exponent.text]⟩
      · exact ⟨endsRun_cons.2 rfl, by simp [NumberText.exponentText, Exponent.text]⟩
  have readSign : sign (o.toList ++ (whole ++ (NumberText.pointText fraction ++
      (NumberText.exponentText exp ++ r)))) = .ok (o == some '-') _ :=
    sign_eq_ok_iff.2 ⟨o, rfl, ho, fun _ => endsRun_isSign_of_digits hw hne, rfl⟩
  have readDigits : digits (whole ++ (NumberText.pointText fraction ++
      (NumberText.exponentText exp ++ r))) = .ok (whole, fraction.getD []) _ :=
    digits_eq_ok_iff.2 ⟨whole, fraction, rfl, hw, hf, hne, behind.1, behind.2, rfl⟩
  have readExponent (start : List Char) : Parser.optional (exponent start)
      (NumberText.exponentText exp ++ r) = .ok (exp.map Exponent.value) r := by
    cases exp with
    | none => exact optional_of_misses (misses_exponent (he rfl))
    | some e => exact optional_of_ok (exponent_eq_ok_iff.2 ⟨e, rfl, hd, rfl⟩)
  unfold numeral NumberText.text
  simp only [List.append_assoc]
  rw [bind_of_ok readSign, bind_of_ok readDigits, bind_of_ok (readExponent _)]
  rfl

/-- Whatever is read as a number is one, and nothing goes on with it. -/
theorem numeral_eq_ok_iff {n : Decimal.Numeral} :
    numeral s = .ok n r ↔
      ∃ t : NumberText, s = t.text ++ r ∧ n = t.numeral ∧ EndsNumber t r := by
  refine ⟨fun h => ?_, ?_⟩
  · unfold numeral at h
    simp only [bind_eq_ok_iff, sign_eq_ok_iff, digits_eq_ok_iff, optional_eq_ok_iff,
      exponent_eq_ok_iff, misses_exponent_iff, pure_apply, Reply.ok.injEq] at h
    obtain ⟨b, m, ⟨o, rfl, ho, -, rfl⟩, x, m', ⟨whole, fraction, rfl, hw, hf, hne, hd, hdot, rfl⟩,
      power, m'', hp, rfl, rfl⟩ := h
    rcases hp with ⟨x, rfl, e, rfl, hr, rfl⟩ | ⟨rfl, rfl, he⟩
    · exact ⟨⟨o, whole, fraction, some e, ho, hw, hf, hne⟩,
        by simp [NumberText.text, NumberText.exponentText], rfl, hr, nofun, nofun⟩
    · exact ⟨⟨o, whole, fraction, none, ho, hw, hf, hne⟩,
        by simp [NumberText.text, NumberText.exponentText], rfl, hd, fun _ => hdot, fun _ => he⟩
  · rintro ⟨t, rfl, rfl, ends⟩
    exact numeral_run t ends

theorem numeral_of_ok {n : Decimal.Numeral} (h : numeral s = .ok n r) :
    ∃ t : NumberText, s = t.text ++ r ∧ n = t.numeral := by
  obtain ⟨t, hs, hn, -⟩ := numeral_eq_ok_iff.1 h
  exact ⟨t, hs, hn⟩

/-- Digits, a sign or a point: how a number begins. -/
def startsNumber (c : Char) : Bool :=
  c.isDigit || c == '.' || isSign c

theorem misses_numeral (h : EndsRun startsNumber s) : Misses numeral s := by
  have noSign : EndsRun isSign s := h.mono fun c hc => by simp [startsNumber, hc]
  have noDigit : EndsRun Char.isDigit s := h.mono fun c hc => by simp [startsNumber, hc]
  have noPoint : Misses (char '.') s :=
    misses_satisfy_iff.2 (h.mono fun c hc => by simp only [startsNumber, hc, Bool.or_true, Bool.true_or])
  have readSign : sign s = .ok false s := sign_eq_ok_iff.2 ⟨none, rfl, by simp, fun _ => noSign, rfl⟩
  have misses : Misses digits s := (misses_takeWhile1_iff.2 noDigit).bind.orElse noPoint.bind
  exact (misses_bind_of_ok readSign).2 misses.bind

end Verdict.Rule
