import Verdict.Proofs.Rule.Complete

/-!
# Whole rules

A rule may stand between blanks, which are cut off before it is read; it neither begins nor ends with
a blank itself.  With that, `parse` returns a condition for each text that is a way to write it.
-/

namespace Verdict.Rule

open Verdict.Parser

variable {free : Term → Prop} {ph : Phrase} {s r u v : List Char}

/-! ### Ends of texts -/

theorem isBlank_of_isDigit {c : Char} (h : c.isDigit = true) : Text.isBlank c = false :=
  Text.isBlank_eq_false_of_isAlphanumeric
    (Text.isAlphanumeric_of_isAlphanum (by simp [Char.isAlphanum, h]))

theorem isBlank_of_startsRule {c : Char} (h : startsRule c = true) : Text.isBlank c = false := by
  simp only [startsRule, startsTerm, startsNumber, isSign, Function.isNameStart, Bool.or_eq_true,
    beq_iff_eq, List.contains_eq_mem, List.mem_cons, List.not_mem_nil, or_false,
    decide_eq_true_eq] at h
  rcases h with ((((h | rfl) | (h | rfl) | rfl | rfl) | rfl | rfl | rfl | rfl) | rfl) | rfl
  · exact Text.isBlank_eq_false_of_isAlphanumeric
      (Text.isAlphanumeric_of_isAlphanum (by simp [Char.isAlphanum, h]))
  · decide
  · exact isBlank_of_isDigit h
  all_goals decide

/-- The text ends in a character that is no blank. -/
def Closes (s : List Char) : Prop :=
  ∃ v c, s = v ++ [c] ∧ Text.isBlank c = false

theorem Closes.append (h : Closes s) (u : List Char) : Closes (u ++ s) := by
  obtain ⟨v, c, rfl, hc⟩ := h
  exact ⟨u ++ v, c, by simp, hc⟩

theorem Closes.cons (h : Closes s) (c : Char) : Closes (c :: s) :=
  h.append [c]

theorem Closes.last (h : Closes s) : ∀ c ∈ s.getLast?, Text.isBlank c = false := by
  obtain ⟨v, c, rfl, hc⟩ := h
  simpa using hc

theorem closes_of_forall (hne : s ≠ []) (h : ∀ c ∈ s, Text.isBlank c = false) : Closes s :=
  ⟨s.dropLast, s.getLast hne, (List.dropLast_append_getLast hne).symm, h _ (List.getLast_mem hne)⟩

theorem closes_path (d : Path.Derivation) : Closes d.text := by
  have step (x : Path.Step) : Closes x.text := by
    cases x with
    | star deep => exact Closes.append ⟨[], '*', rfl, by decide⟩ _
    | name deep key nonempty plain =>
      refine (closes_of_forall nonempty fun c hc => ?_).append _
      have hc := plain c hc
      simp only [Path.isNameChar, Bool.or_eq_true, beq_iff_eq] at hc
      rcases hc with (hc | rfl) | rfl
      · exact Text.isBlank_eq_false_of_isAlphanumeric hc
      · decide
      · decide
    | bracket deep before inner after hb ha =>
      exact ((((Closes.append ⟨[], ']', rfl, by decide⟩ _).append _).append _).cons _).append _
  induction d using List.reverseRecOn with
  | nil => exact ⟨[], '$', rfl, by decide⟩
  | append_singleton d x ih =>
    rw [Path.Derivation.text, Path.Derivation.body, List.flatMap_append, List.flatMap_singleton]
    exact ((step x).append _).cons _

theorem NumberText.closes (t : NumberText) : Closes t.text := by
  have signed {o : Option Char} (ho : ∀ c ∈ o, c = '+' ∨ c = '-') {c : Char} (hc : c ∈ o) :
      Text.isBlank c = false := by
    rcases ho c hc with rfl | rfl <;> decide
  obtain ⟨c, v, ht, -⟩ := t.starts
  obtain ⟨o, whole, fraction, exp, ho, hw, hf, _⟩ := t
  refine closes_of_forall (by simp [ht]) fun c hc => ?_
  simp only [NumberText.text, List.mem_append, Option.mem_toList] at hc
  rcases hc with hc | hc | hc | hc
  · exact signed ho hc
  · exact isBlank_of_isDigit (hw c hc)
  · cases fraction with
    | none => simp [NumberText.pointText] at hc
    | some f =>
      rcases List.mem_cons.1 hc with rfl | hc
      · decide
      · exact isBlank_of_isDigit (hf f rfl c hc)
  · cases exp with
    | none => simp [NumberText.exponentText] at hc
    | some e =>
      obtain ⟨mark, sign, digits, isMark, isSign, _, decimal⟩ := e
      simp only [NumberText.exponentText, Option.elim, Exponent.text, List.mem_cons,
        List.mem_append, Option.mem_toList] at hc
      rcases hc with rfl | hc | hc
      · rcases isMark with rfl | rfl <;> decide
      · exact signed isSign hc
      · exact isBlank_of_isDigit (decimal c hc)

theorem StringText.closes (t : StringText) : Closes t.text := by
  refine ⟨t.quote :: t.parts.flatMap StringText.partText, t.quote, rfl, ?_⟩
  rcases t.isQuote with hq | hq <;> rw [hq] <;> decide

theorem Written.closes (h : Written free ph u) : Closes u := by
  have closing (u : List Char) : Closes (u ++ [')']) := ⟨u, ')', rfl, by decide⟩
  induction h with
  | null => exact ⟨['n', 'u', 'l'], 'l', rfl, by decide⟩
  | isTrue => exact ⟨['t', 'r', 'u'], 'e', rfl, by decide⟩
  | isFalse => exact ⟨['f', 'a', 'l', 's'], 'e', rfl, by decide⟩
  | number t => exact t.closes
  | string t => exact t.closes
  | path whole =>
    obtain ⟨d, hd, -⟩ := Path.derivation_of_path whole
    rw [hd, List.append_nil]
    exact closes_path d
  | @pointer u plain =>
    refine closes_of_forall (by simp) fun c hc => ?_
    rcases List.mem_cons.1 hc with rfl | hc
    · decide
    · have := plain c hc
      rw [endsPointer, Bool.or_eq_false_iff] at this
      exact this.1
  | callNone isName ha hb => exact (((closing _).cons _).append _).append _
  | call isName ha hb hd inside ih =>
    exact (((((closing _).append _).append _).cons _).append _).append _
  | argument only ih => exact ih
  | arguments ha hb first others ih ih' => exact (((ih'.append _).cons _).append _).append _
  | operand safe only ih => exact ih
  | compare op ha hb safe left right ih ih' =>
    exact (((ih'.append _).append _).append _).append _
  | parenthesised ha hb inside ih => exact (((closing _).append _).append _).cons _
  | bang ha inside ih => exact (ih.append _).cons _
  | word ha some inside ih => exact (((ih.append _).cons _).cons _).cons _
  | unary only ih => exact ih
  | and ha hb some some' left right ih ih' =>
    exact (((((ih'.append _).cons _).cons _).cons _).append _).append _
  | or ha hb some some' left right ih ih' =>
    exact ((((ih'.append _).cons _).cons _).append _).append _
  | requirement only ih => exact ih
  | requirements ha hb first others ih ih' =>
    exact ((((ih'.append _).cons _).cons _).append _).append _
  | single only ih => exact ih
  | all several inside ih => exact ih
  | alternative only ih => exact ih
  | alternatives ha hb first others ih ih' =>
    exact ((((ih'.append _).cons _).cons _).append _).append _
  | sole only ih => exact ih
  | any several inside ih => exact ih

theorem Written.trimmed (h : Written free ph u) : Text.Trimmed u := by
  obtain ⟨c, v, hu, hc⟩ := h.starts
  refine ⟨fun d hd => ?_, h.closes.last⟩
  obtain rfl : c = d := by simpa [hu] using hd
  exact isBlank_of_startsRule (startsRule_of_starts hc)

/-! ### Rules between blanks -/

theorem parse_of_condition {text : String} {c : Condition Term}
    (h : condition (Text.trim text.toList) = .ok c []) : parse text = .ok c := by
  unfold parse run
  rw [h]

theorem parse_of_safe (safe : Safe free) {c : Condition Term} {w w' : List Char}
    (h : Written free (.rule c) u) (hw : ∀ x ∈ w, Text.isBlank x = true)
    (hw' : ∀ x ∈ w', Text.isBlank x = true) : parse (String.ofList (w ++ (u ++ w'))) = .ok c := by
  obtain ⟨d, v, hu, -⟩ := h.starts
  refine parse_of_condition ?_
  have read := reads_of_written safe h [] endsRule_nil
  rw [String.toList_ofList, Text.trim_append hw h.trimmed (by simp [hu]) hw', condition_eq]
  rw [List.append_nil] at read
  exact read

/-! ### Terms that are not called `not` -/

theorem misses_negationMark {c : Char} (hs : startsTerm c = true)
    (word : Misses (keyword ['n', 'o', 't']) (c :: s)) : Misses negationMark (c :: s) := by
  have bang : c ≠ '!' := by
    rintro rfl
    revert hs
    decide
  refine misses_spaced_iff.2 ?_
  rw [skip_cons (isSpacing_of_startsRule (by simp [startsRule, hs]))]
  exact (misses_token_cons bang).orElse word

theorem misses_negated_of_notCalledNot {t : Term} (ht : NotCalledNot t)
    (h : Written free (.term t) u) (r : List Char) : Misses negated (u ++ r) := by
  obtain ⟨c, v, hu, hc⟩ := h.starts
  suffices Misses (keyword ['n', 'o', 't']) (u ++ r) by
    rw [hu] at this ⊢
    exact (misses_negationMark hc this).bind
  cases h with
  | null => exact Misses.bind (misses_token_iff.2 (by simp))
  | isTrue => exact misses_keyword_cons (by decide)
  | isFalse => exact misses_keyword_cons (by decide)
  | number t =>
    obtain ⟨d, w, hd, hs⟩ := t.starts
    rw [hd]
    refine misses_keyword_cons ?_
    rintro rfl
    revert hs
    decide
  | string t =>
    refine misses_keyword_cons ?_
    rcases t.isQuote with hq | hq <;> rw [hq] <;> decide
  | path whole =>
    obtain ⟨d, rfl, -⟩ := Path.derivation_of_path whole
    exact misses_keyword_cons (by decide)
  | pointer plain => exact misses_keyword_cons (by decide)
  | callNone isName ha hb =>
    rw [List.append_assoc, List.append_assoc]
    exact misses_keyword_name isName.plain (by decide) (by simpa [NotCalledNot] using ht)
      (endsRun_open ha (by decide))
  | call isName ha hb hd inside =>
    rw [List.append_assoc, List.append_assoc]
    exact misses_keyword_name isName.plain (by decide) (by simpa [NotCalledNot] using ht)
      (endsRun_open ha (by decide))

theorem safe_notCalledNot : Safe NotCalledNot :=
  fun _ _ ht h r => misses_negated_of_notCalledNot ht h r

/-- A text that is a way to write a condition, between blanks or not, is read as that condition. -/
theorem parse_of_written {c : Condition Term} {w w' : List Char}
    (h : Written NotCalledNot (.rule c) u) (hw : ∀ x ∈ w, Text.isBlank x = true)
    (hw' : ∀ x ∈ w', Text.isBlank x = true) : parse (String.ofList (w ++ (u ++ w'))) = .ok c :=
  parse_of_safe safe_notCalledNot h hw hw'

theorem parse_of_written_not_or_and :
    parse "not $.a ==5. || f( ) and \"x\" " =
      .ok (.any [
        .not (.compare .equal (.path "$.a")
          (.literal (.number (Decimal.Numeral.toFloat ⟨false, ['5'], [], 0⟩)))),
        .and (.operand (.call "f" [])) (.operand (.literal (.string "x")))]) := by
  have blank : Blank [' '] := by simp [Blank, Text.isSpacing]
  have path : Written NotCalledNot (.term (.path "$.a")) ['$', '.', 'a'] :=
    .path (p := [.child (.key "a")]) (by rfl)
  have five : Written NotCalledNot (.term (.literal
      (.number (Decimal.Numeral.toFloat ⟨false, ['5'], [], 0⟩)))) ['5', '.'] := by
    let t : NumberText := ⟨none, ['5'], some [], none, by simp, by simp, by simp, by simp⟩
    have numeral : t.numeral = ⟨false, ['5'], [], 0⟩ := rfl
    rw [← numeral]
    exact .number t
  have call : Written NotCalledNot (.term (.call "f" [])) ['f', '(', ' ', ')'] :=
    .callNone ⟨by simp [Function.isNameStart], by simp, by simp [Function.isNameChar], by decide⟩
      blank_nil blank
  have text : Written NotCalledNot (.term (.literal (.string "x"))) ['"', 'x', '"'] :=
    .string ⟨'"', [(false, 'x')], by simp, by simp⟩
  have left := Written.word blank (by simp) (.compare .equal blank blank_nil trivial path five)
  have right := Written.and blank blank (by simp) (by simp)
    (.unary (.operand (by simp [NotCalledNot, stem]) call)) (.operand (by trivial) text)
  have several := Written.any (by decide) (.alternatives blank blank
    (.single (.requirement (.unary left))) (.alternative (.single (.requirement right))))
  have none : ∀ x ∈ ([] : List Char), Text.isBlank x = true := by simp
  have one : ∀ x ∈ [' '], Text.isBlank x = true := List.all_eq_true.1 (by decide)
  have read := parse_of_written several none one
  rw [show "not $.a ==5. || f( ) and \"x\" " = String.ofList _ from rfl]
  exact read

end Verdict.Rule
