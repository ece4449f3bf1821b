import Verdict.Proofs.Parser.Cutting
import Verdict.Proofs.Rule.Parse

/-!
# Tokens in front of a cut

Each token of a rule is `Solid`: it ends in no blank, and it is read again if the text behind it is cut
off anywhere.  What must not follow a token does not follow it then either, for a text that is cut off
begins as it did before, or is empty.
-/

namespace Verdict.Rule

open Verdict.Parser

variable {s m n z u : List Char}

/-! ### Words -/

theorem solid_keyword {word : List Char} (closes : Closes word) : Solid (keyword word) := by
  intro s x m h
  obtain ⟨rfl, ends⟩ := keyword_eq_ok_iff.1 h
  exact ⟨word, rfl, closes.last, fun n cut => keyword_run word (ends.of_cut cut)⟩

theorem solid_constant : Solid constant := by
  intro s l m h
  obtain ⟨ends, ⟨rfl, rfl⟩ | ⟨rfl, rfl⟩ | ⟨rfl, rfl⟩⟩ := constant_eq_ok_iff.1 h
  · exact ⟨_, rfl, Closes.last ⟨['n', 'u', 'l'], 'l', rfl, by decide⟩, fun n cut =>
      constant_eq_ok_iff.2 ⟨ends.of_cut cut, .inl ⟨rfl, rfl⟩⟩⟩
  · exact ⟨_, rfl, Closes.last ⟨['t', 'r', 'u'], 'e', rfl, by decide⟩, fun n cut =>
      constant_eq_ok_iff.2 ⟨ends.of_cut cut, .inr (.inl ⟨rfl, rfl⟩)⟩⟩
  · exact ⟨_, rfl, Closes.last ⟨['f', 'a', 'l', 's'], 'e', rfl, by decide⟩, fun n cut =>
      constant_eq_ok_iff.2 ⟨ends.of_cut cut, .inr (.inr ⟨rfl, rfl⟩)⟩⟩

theorem isBlank_of_isNameChar {c : Char} (h : Function.isNameChar c = true) :
    Text.isBlank c = false := by
  simp only [Function.isNameChar, Bool.or_eq_true, beq_iff_eq] at h
  rcases h with (h | rfl) | rfl
  · exact Text.isBlank_eq_false_of_isAlphanumeric (Text.isAlphanumeric_of_isAlphanum h)
  · decide
  · decide

theorem solid_functionName : Solid functionName := by
  intro s u m h
  obtain ⟨rfl, nonempty, start, plain, ends⟩ := functionName_eq_ok_iff.1 h
  have letters : ∀ c ∈ u, Function.isNameChar c = true := by
    obtain ⟨c, v, rfl⟩ := List.exists_cons_of_ne_nil nonempty
    exact List.forall_mem_cons.2 ⟨isNameChar_of_isNameStart (start c rfl), plain⟩
  refine ⟨u, rfl, (closes_of_forall nonempty fun c hc => isBlank_of_isNameChar (letters c hc)).last,
    fun n cut => functionName_eq_ok_iff.2 ⟨rfl, nonempty, start, plain, ends.of_cut cut⟩⟩

/-! ### Numbers and strings -/

theorem EndsNumber.of_cut {t : NumberText} (h : EndsNumber t m) (cut : n <+: m) :
    EndsNumber t n where
  digit := h.digit.of_cut cut
  point noExponent noFraction := by
    obtain ⟨z, rfl⟩ := cut
    cases n with
    | nil => simp
    | cons c n => exact h.point noExponent noFraction
  exponent noExponent := (h.exponent noExponent).of_cut cut

theorem solid_number : Solid number := by
  refine Solid.map (fun s x m h => ?_) _
  obtain ⟨t, rfl, rfl, ends⟩ := numeral_eq_ok_iff.1 h
  exact ⟨t.text, rfl, t.closes.last, fun n cut => numeral_run t (ends.of_cut cut)⟩

theorem solid_string : Solid string := by
  intro s l m h
  obtain ⟨t, rfl, rfl⟩ := string_of_ok h
  exact ⟨t.text, rfl, t.closes.last, fun n _ => string_run t⟩

/-! ### Paths -/

/-- If no segment is read in front of a text, none is read when the text is cut off. -/
theorem misses_segment_of_append (h : Misses Path.segment (s ++ z)) : Misses Path.segment s := by
  refine misses_of_ne_ok Path.neverAborts_segment fun x m read => ?_
  obtain ⟨step, rfl, -⟩ := Path.segment_of_ok read
  rw [List.append_assoc] at h
  by_cases finished : step.isOpen = true → EndsRun Path.isNameChar (m ++ z)
  · exact h.ne_ok (Path.segment_run step finished)
  · obtain ⟨longer, rest, same, ends, -⟩ :=
      Path.exists_step_of_not_endsRun step (Classical.not_imp.1 finished).1
    rw [same] at h
    exact h.ne_ok (Path.segment_run longer fun _ => ends)

theorem many_segment_of_cut {p : Path} (h : many Path.segment s = .ok p m) :
    ∃ d : Path.Derivation, s = d.body ++ m ∧
      ∀ n, n <+: m → many Path.segment (d.body ++ n) = .ok p n := by
  induction p generalizing s with
  | nil =>
    rcases Path.many_segment_eq_ok_iff.1 h with ⟨-, rfl, finished⟩ | ⟨_, _, _, same, -⟩
    · refine ⟨[], rfl, fun n cut => many_of_misses ?_⟩
      obtain ⟨z, rfl⟩ := cut
      exact misses_segment_of_append finished
    · simp at same
  | cons x p ih =>
    rcases Path.many_segment_eq_ok_iff.1 h with ⟨same, -⟩ | ⟨x, _, p, same, hx, rest⟩
    · simp at same
    obtain ⟨rfl, rfl⟩ := List.cons.inj same
    obtain ⟨d, rfl, again⟩ := ih rest
    obtain ⟨step, rfl, rfl, ends⟩ := Path.segment_of_ok hx
    refine ⟨step :: d, by simp, fun n cut => ?_⟩
    have shorter : d.body ++ n <+: d.body ++ m := List.prefix_append_right_inj _ |>.2 cut
    rw [Path.Derivation.body_cons, List.append_assoc]
    exact Path.many_segment_eq_ok_iff.2 (.inr ⟨_, _, _, rfl,
      Path.segment_run step fun isOpen => (ends isOpen).of_cut shorter, again n cut⟩)

theorem solid_jsonPath : Solid Path.path := by
  intro s p m h
  obtain ⟨s, rfl⟩ : ∃ t, s = '$' :: t := by
    have := Path.exists_path_iff.1 ⟨p, m, h⟩
    cases s <;> simp_all
  rw [Path.path_cons] at h
  obtain ⟨d, rfl, again⟩ := many_segment_of_cut h
  refine ⟨d.text, rfl, (closes_path d).last, fun n cut => ?_⟩
  rw [Path.Derivation.text, List.cons_append, Path.path_cons]
  exact again n cut

theorem solid_pointer : Solid pointer := by
  intro s u m h
  unfold pointer at h
  simp only [bind_eq_ok_iff, char_eq_ok_iff, takeWhile_eq_ok_iff, pure_apply, Reply.ok.injEq] at h
  obtain ⟨_, _, ⟨rfl, rfl⟩, v, _, ⟨rfl, plain, ends⟩, rfl, rfl⟩ := h
  refine ⟨'/' :: v, rfl, ?_, fun n cut => ?_⟩
  · refine (closes_of_forall (List.cons_ne_nil _ _) (List.forall_mem_cons.2 ⟨by decide, ?_⟩)).last
    intro c hc
    have := plain c hc
    simp only [endsPointer, Bool.not_or, Bool.and_eq_true, Bool.not_eq_true'] at this
    exact this.1
  · unfold pointer
    rw [List.cons_append, bind_of_ok (char_cons '/' _),
      bind_of_ok (takeWhile_run plain (ends.of_cut cut)), pure_apply]

theorem solid_path : Solid path := by
  refine Solid.map (solid_jsonPath.read.orElse solid_pointer fun s z u n _ read => ?_) _
  obtain ⟨_, _, slash, -⟩ := bind_eq_ok_iff.1 read
  rw [(char_eq_ok_iff.1 slash).1]
  exact misses_read (misses_char_cons (by decide)).bind

/-! ### Marks -/

/-- One text after the other is tried. -/
theorem misses_mark_of_append {α : Type} {a : α}
    (h : Misses (do token u; return a : Parser α) (s ++ z)) :
    Misses (do token u; return a : Parser α) s := by
  have miss : Misses ((fun _ => a) <$> token u) (s ++ z) := h
  exact (misses_token_of_append (misses_map_iff.1 miss)).bind

theorem solid_comparison : Solid comparison := by
  have one (v : List Char) {c : Char} (hc : Text.isBlank c = false) (op : Comparison) :
      Solid (do token (v ++ [c]); return op) :=
    (solid_token (Closes.last ⟨v, c, rfl, hc⟩)).map _
  have equals : Text.isBlank '=' = false := by decide
  refine (one ['='] equals .equal).orElse ?_ fun _ _ _ _ miss _ => misses_mark_of_append miss
  refine (one ['!'] equals .notEqual).orElse ?_ fun _ _ _ _ miss _ => misses_mark_of_append miss
  refine (one ['>'] equals .greaterEqual).orElse ?_ fun _ _ _ _ miss _ => misses_mark_of_append miss
  refine (one ['<'] equals .lessEqual).orElse ?_ fun _ _ _ _ miss _ => misses_mark_of_append miss
  exact (one [] (by decide) .greater).orElse (one [] (by decide) .less)
    fun _ _ _ _ miss _ => misses_mark_of_append miss

end Verdict.Rule
