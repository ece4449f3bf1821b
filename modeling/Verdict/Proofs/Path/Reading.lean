import Verdict.Proofs.Path.Grammar

/-!
# Reading segments

The parser of a segment reads what the grammar derives: whatever it reads is the text of a step,
`segment_of_ok`, and the text of a step is read, `segment_run`, unless a name that the step ends in
goes on behind it.
-/

namespace Verdict.Path

open Verdict.Parser

variable {s r m here : List Char}

/-! ### Selectors -/

theorem wildcard_eq_ok_iff {x : Selector} :
    wildcard s = .ok x r ↔ s = '*' :: r ∧ x = .wildcard := by
  unfold wildcard
  simp only [bind_eq_ok_iff, char_eq_ok_iff, pure_apply, Reply.ok.injEq]
  aesop

theorem misses_wildcard_iff : Misses wildcard s ↔ s.head? ≠ some '*' := by
  unfold wildcard
  constructor
  · rintro h hs
    obtain ⟨s, rfl⟩ : ∃ t, s = '*' :: t := by cases s <;> simp_all
    obtain ⟨here, h⟩ := (misses_bind_of_ok (char_cons '*' s)).1 h
    simp at h
  · intro h
    exact (misses_char_iff.2 h).bind

theorem name_eq_ok_iff {x : Selector} :
    name s = .ok x r ↔
      ∃ key, s = key ++ r ∧ key ≠ [] ∧ (∀ c ∈ key, isNameChar c = true) ∧ EndsRun isNameChar r ∧
        x = .key (String.ofList key) := by
  unfold name
  simp only [bind_eq_ok_iff, takeWhile1_eq_ok_iff, pure_apply, Reply.ok.injEq]
  aesop

theorem quotedBy_eq_ok_iff {quote : Char} {x : Selector} :
    quotedBy quote s = .ok x r ↔
      ∃ key, s = quote :: (key ++ quote :: r) ∧ quote ∉ key ∧ x = .key (String.ofList key) := by
  unfold quotedBy
  simp only [bind_eq_ok_iff, char_eq_ok_iff, takeWhile_eq_ok_iff, pure_apply, Reply.ok.injEq]
  constructor
  · rintro ⟨_, _, ⟨rfl, rfl⟩, key, _, ⟨rfl, hk, -⟩, _, _, ⟨rfl, rfl⟩, rfl, rfl⟩
    refine ⟨key, rfl, fun h => ?_, rfl⟩
    simpa using hk _ h
  · rintro ⟨key, rfl, hk, rfl⟩
    refine ⟨_, _, ⟨rfl, rfl⟩, key, _, ⟨rfl, ?_, by simp⟩, _, _, ⟨rfl, rfl⟩, rfl, rfl⟩
    intro c hc
    simpa using fun h : c = quote => hk (h ▸ hc)

theorem isPosition_iff {i : Int} :
    isPosition i = true ↔ -0x8000000000000000 ≤ i ∧ i < 0x8000000000000000 := by
  simp [isPosition]

theorem position_eq_ok_iff {x : Selector} :
    position s = .ok x r ↔
      ∃ sign digits, s = sign.toList ++ (digits ++ r) ∧ (∀ c ∈ sign, c = '+' ∨ c = '-') ∧
        digits ≠ [] ∧ (∀ c ∈ digits, c.isDigit = true) ∧ EndsRun Char.isDigit r ∧
        (-0x8000000000000000 ≤ signedValue sign digits ∧
          signedValue sign digits < 0x8000000000000000) ∧
        x = .index (signedValue sign digits) := by
  unfold position
  simp only [bind_eq_ok_iff, optional_eq_ok_iff, satisfy_eq_ok_iff, takeWhile1_eq_ok_iff,
    misses_satisfy_iff]
  constructor
  · rintro ⟨sign, m, hsign, digits, _, ⟨rfl, hne, hd, hr⟩, h⟩
    have value : (if sign = some '-' then -(Decimal.ofDigits digits : Int)
        else Decimal.ofDigits digits) = signedValue sign digits := rfl
    rw [value] at h
    split at h
    · rename_i fits
      simp only [pure_apply, Reply.ok.injEq] at h
      obtain ⟨rfl, rfl⟩ := h
      rcases hsign with ⟨c, rfl, rfl, hc⟩ | ⟨rfl, rfl, -⟩
      · exact ⟨some c, digits, rfl, by simpa using hc, hne, hd, hr, isPosition_iff.1 fits, rfl⟩
      · exact ⟨none, digits, rfl, by simp, hne, hd, hr, isPosition_iff.1 fits, rfl⟩
    · simp [never] at h
  · rintro ⟨sign, digits, rfl, hsign, hne, hd, hr, fits, rfl⟩
    refine ⟨sign, digits ++ r, ?_, digits, r, ⟨rfl, hne, hd, hr⟩, ?_⟩
    · cases sign with
      | some c => exact .inl ⟨c, rfl, rfl, by simpa using hsign⟩
      | none =>
        refine .inr ⟨rfl, rfl, ?_⟩
        obtain ⟨d, digits, rfl⟩ := List.exists_cons_of_ne_nil hne
        have hd := hd d (by simp)
        have plus : d ≠ '+' := by rintro rfl; simp at hd
        have minus : d ≠ '-' := by rintro rfl; simp at hd
        simp [plus, minus]
    · have value : (if sign = some '-' then -(Decimal.ofDigits digits : Int)
          else Decimal.ofDigits digits) = signedValue sign digits := rfl
      rw [value, if_pos (isPosition_iff.2 fits)]
      rfl

/-! ### Brackets -/

/-- What is read inside a bracket is what the grammar allows there, if the text behind it does not
go on with a digit. -/
theorem inner_of_ok {x : Selector}
    (h : (wildcard <|> quotedBy '\'' <|> quotedBy '"' <|> position) s = .ok x r) :
    ∃ inner : Inner, s = inner.text ++ r ∧ inner.selector = x := by
  simp only [orElse_eq_ok_iff] at h
  rcases h with h | ⟨-, h | ⟨-, h | ⟨-, h⟩⟩⟩
  · obtain ⟨rfl, rfl⟩ := wildcard_eq_ok_iff.1 h
    exact ⟨.wildcard, rfl, rfl⟩
  · obtain ⟨key, rfl, hk, rfl⟩ := quotedBy_eq_ok_iff.1 h
    exact ⟨.key '\'' key (.inl rfl) hk, by simp [Inner.text], rfl⟩
  · obtain ⟨key, rfl, hk, rfl⟩ := quotedBy_eq_ok_iff.1 h
    exact ⟨.key '"' key (.inr rfl) hk, by simp [Inner.text], rfl⟩
  · obtain ⟨sign, digits, rfl, hsign, hne, hd, -, fits, rfl⟩ := position_eq_ok_iff.1 h
    exact ⟨.index sign digits hsign hne hd fits, by simp [Inner.text], rfl⟩

theorem misses_quotedBy_cons {quote c : Char} (h : c ≠ quote) :
    Misses (quotedBy quote) (c :: s) :=
  (misses_char_cons h).bind

/-- A text that the grammar allows inside a bracket is read there. -/
theorem inner_run (inner : Inner) (hr : EndsRun Char.isDigit r) :
    (wildcard <|> quotedBy '\'' <|> quotedBy '"' <|> position) (inner.text ++ r) =
      .ok inner.selector r := by
  cases inner with
  | wildcard => exact orElse_of_ok (wildcard_eq_ok_iff.2 ⟨rfl, rfl⟩)
  | key quote name isQuote closed =>
    have text : (Inner.key quote name isQuote closed).text ++ r = quote :: (name ++ quote :: r) := by
      simp [Inner.text]
    have read : quotedBy quote (quote :: (name ++ quote :: r)) = .ok (.key (String.ofList name)) r :=
      quotedBy_eq_ok_iff.2 ⟨name, rfl, closed, rfl⟩
    rw [text]
    rcases isQuote with rfl | rfl
    · rw [orElse_of_misses (misses_wildcard_iff.2 (by simp))]
      exact orElse_of_ok read
    · rw [orElse_of_misses (misses_wildcard_iff.2 (by simp)),
        orElse_of_misses (misses_quotedBy_cons (by decide))]
      exact orElse_of_ok read
  | index sign digits isSign nonempty decimal fits =>
    have read : position ((Inner.index sign digits isSign nonempty decimal fits).text ++ r) =
        .ok (.index (signedValue sign digits)) r :=
      position_eq_ok_iff.2
        ⟨sign, digits, by simp [Inner.text], isSign, nonempty, decimal, hr, fits, rfl⟩
    obtain ⟨c, t, ht, hc⟩ : ∃ c t, (Inner.index sign digits isSign nonempty decimal fits).text ++ r =
        c :: t ∧ (c = '+' ∨ c = '-' ∨ c.isDigit = true) := by
      cases sign with
      | some c => exact ⟨c, digits ++ r, rfl, by simpa using (isSign c rfl).imp_right .inl⟩
      | none =>
        obtain ⟨d, digits, rfl⟩ := List.exists_cons_of_ne_nil nonempty
        exact ⟨d, digits ++ r, rfl, .inr (.inr (decimal d (by simp)))⟩
    have other : ∀ d : Char, (d = '*' ∨ d = '\'' ∨ d = '"') → c ≠ d := by
      rintro d hd rfl
      rcases hd with rfl | rfl | rfl <;> simp at hc
    rw [ht] at read ⊢
    rw [orElse_of_misses (misses_wildcard_iff.2 (by simpa using other '*' (by simp))),
      orElse_of_misses (misses_quotedBy_cons (other '\'' (by simp))),
      orElse_of_misses (misses_quotedBy_cons (other '"' (by simp)))]
    exact read

theorem misses_bracket_cons {c : Char} (h : c ≠ '[') : Misses bracket (c :: s) :=
  (misses_char_cons h).bind

theorem bracket_of_ok {x : Selector} (h : bracket s = .ok x r) :
    ∃ before inner after, Blank before ∧ Blank after ∧
      s = '[' :: (before ++ (Inner.text inner ++ (after ++ ']' :: r))) ∧ inner.selector = x := by
  unfold bracket at h
  simp only [bind_eq_ok_iff, char_eq_ok_iff, spaced_eq_ok_iff, pure_apply, Reply.ok.injEq] at h
  obtain ⟨_, t, ⟨rfl, -⟩, x, _, ⟨u, hu, hr⟩, _, _, ⟨rfl, -⟩, rfl, rfl⟩ := h
  obtain ⟨inner, ht, rfl⟩ := inner_of_ok hu
  obtain ⟨before, hb, htb⟩ := exists_blank_append_skip t
  obtain ⟨after, ha, hua⟩ := exists_blank_append_skip u
  exact ⟨before, inner, after, hb, ha, by rw [htb, ht, hua, hr], rfl⟩

/-- The first character in a bracket, behind the blanks. -/
theorem Inner.endsRun_isSpacing (inner : Inner) :
    EndsRun Text.isSpacing (inner.text ++ r) := by
  cases inner with
  | wildcard => exact endsRun_cons.2 rfl
  | key quote name isQuote closed => rcases isQuote with rfl | rfl <;> exact endsRun_cons.2 rfl
  | index sign digits isSign nonempty decimal fits =>
    cases sign with
    | some c => rcases isSign c rfl with rfl | rfl <;> exact endsRun_cons.2 rfl
    | none =>
      obtain ⟨d, digits, rfl⟩ := List.exists_cons_of_ne_nil nonempty
      refine endsRun_cons.2 ?_
      by_contra hd
      have blank := isSpacing_cases (by simpa using hd)
      have digit := decimal d (by simp)
      rcases blank with rfl | rfl | rfl | rfl <;> simp at digit

theorem endsRun_isDigit_of_blank {after : List Char} (ha : Blank after) :
    EndsRun Char.isDigit (after ++ ']' :: r) := by
  cases after with
  | nil => exact endsRun_cons.2 rfl
  | cons c after =>
    rcases isSpacing_cases (ha c (by simp)) with rfl | rfl | rfl | rfl <;> exact endsRun_cons.2 rfl

theorem bracket_run (inner : Inner) {before after : List Char} (hb : Blank before)
    (ha : Blank after) :
    bracket ('[' :: (before ++ (inner.text ++ (after ++ ']' :: r)))) = .ok inner.selector r := by
  have close : EndsRun Text.isSpacing (']' :: r) := endsRun_cons.2 rfl
  unfold bracket
  rw [bind_of_ok (char_cons '[' _),
    bind_of_ok (spaced_of_ok (m := after ++ ']' :: r) (a := inner.selector) ?_),
    skip_append ha, skip_of_endsRun close, bind_of_ok (char_cons ']' r)]
  · rfl
  · rw [skip_append hb, skip_of_endsRun inner.endsRun_isSpacing]
    exact inner_run inner (endsRun_isDigit_of_blank ha)

/-! ### Segments -/

theorem misses_name_iff : Misses name s ↔ EndsRun isNameChar s := by
  unfold name
  constructor
  · rintro h
    by_contra hn
    obtain ⟨u, m, hu⟩ : ∃ u m, takeWhile1 isNameChar s = .ok u m := by
      cases hs : takeWhile1 isNameChar s with
      | ok u m => exact ⟨u, m, rfl⟩
      | miss here => exact absurd (misses_takeWhile1_iff.1 ⟨here, hs⟩) hn
      | abort here => exact absurd hs takeWhile1_ne_abort
    obtain ⟨here, h⟩ := (misses_bind_of_ok hu).1 h
    simp at h
  · intro h
    exact (misses_takeWhile1_iff.2 h).bind

theorem segment_of_ok {x : Segment} (h : segment s = .ok x r) :
    ∃ step : Step, s = step.text ++ r ∧ step.segment = x ∧
      (step.isOpen = true → EndsRun isNameChar r) := by
  unfold segment at h
  simp only [orElse_eq_ok_iff] at h
  rcases h with h | ⟨-, h | ⟨-, h⟩⟩
  · unfold descendant at h
    simp only [bind_eq_ok_iff, token_eq_ok_iff, orElse_eq_ok_iff, pure_apply, Reply.ok.injEq] at h
    obtain ⟨_, t, rfl, x, _, ht, rfl, rfl⟩ := h
    rcases ht with ht | ⟨-, ht | ⟨-, ht⟩⟩
    · obtain ⟨rfl, rfl⟩ := wildcard_eq_ok_iff.1 ht
      exact ⟨.star true, rfl, rfl, by simp [Step.isOpen]⟩
    · obtain ⟨key, rfl, hne, hk, hr, rfl⟩ := name_eq_ok_iff.1 ht
      exact ⟨.name true key hne hk, rfl, rfl, fun _ => hr⟩
    · obtain ⟨before, inner, after, hb, ha, rfl, rfl⟩ := bracket_of_ok ht
      exact ⟨.bracket true before inner after hb ha, by simp [Step.text, Step.bracketPoints], rfl,
        by simp [Step.isOpen]⟩
  · unfold dotted at h
    simp only [bind_eq_ok_iff, char_eq_ok_iff, orElse_eq_ok_iff, pure_apply, Reply.ok.injEq] at h
    obtain ⟨_, t, ⟨rfl, -⟩, x, _, ht, rfl, rfl⟩ := h
    rcases ht with ht | ⟨-, ht⟩
    · obtain ⟨rfl, rfl⟩ := wildcard_eq_ok_iff.1 ht
      exact ⟨.star false, rfl, rfl, by simp [Step.isOpen]⟩
    · obtain ⟨key, rfl, hne, hk, hr, rfl⟩ := name_eq_ok_iff.1 ht
      exact ⟨.name false key hne hk, rfl, rfl, fun _ => hr⟩
  · obtain ⟨x, hx, rfl⟩ := map_eq_ok_iff.1 h
    obtain ⟨before, inner, after, hb, ha, rfl, rfl⟩ := bracket_of_ok hx
    exact ⟨.bracket false before inner after hb ha, by simp [Step.text, Step.bracketPoints], rfl,
      by simp [Step.isOpen]⟩

theorem ne_of_isNameChar {c d : Char} (h : isNameChar c = true) (hd : isNameChar d = false) :
    c ≠ d := by
  rintro rfl
  simp [h] at hd

theorem misses_descendant_cons {c : Char} (h : c ≠ '.') : Misses descendant (c :: s) :=
  (misses_token_cons h).bind

theorem misses_dotted_cons {c : Char} (h : c ≠ '.') : Misses dotted (c :: s) :=
  (misses_char_cons h).bind

theorem segment_of_deep {x : Selector} (h : (wildcard <|> name <|> bracket) s = .ok x r) :
    segment ('.' :: '.' :: s) = .ok (.descendant x) r := by
  refine orElse_of_ok ?_
  unfold descendant
  rw [bind_of_ok (show token ['.', '.'] ('.' :: '.' :: s) = .ok () s from token_append _ s),
    bind_of_ok h, pure_apply]

theorem segment_of_dotted {x : Selector} {c : Char} (hc : c ≠ '.')
    (h : (wildcard <|> name) (c :: s) = .ok x r) :
    segment ('.' :: c :: s) = .ok (.child x) r := by
  have deep : Misses descendant ('.' :: c :: s) := by
    refine Misses.bind (misses_token_iff.2 fun hp => hc ?_)
    have := (List.cons_prefix_cons.1 hp).2
    exact (List.cons_prefix_cons.1 this).1.symm
  unfold segment
  rw [orElse_of_misses deep]
  refine orElse_of_ok ?_
  unfold dotted
  rw [bind_of_ok (char_cons '.' (c :: s)), bind_of_ok h, pure_apply]

theorem segment_of_bracket {x : Selector} (h : bracket ('[' :: s) = .ok x r) :
    segment ('[' :: s) = .ok (.child x) r := by
  unfold segment
  rw [orElse_of_misses (misses_descendant_cons (by decide)),
    orElse_of_misses (misses_dotted_cons (by decide))]
  exact map_of_ok h

/-- A segment is read as it is written, if no name goes on behind it. -/
theorem segment_run (step : Step) (hr : step.isOpen = true → EndsRun isNameChar r) :
    segment (step.text ++ r) = .ok step.segment r := by
  cases step with
  | star deep =>
    have star : wildcard ('*' :: r) = .ok .wildcard r := wildcard_eq_ok_iff.2 ⟨rfl, rfl⟩
    cases deep with
    | true => exact segment_of_deep (orElse_of_ok star)
    | false => exact segment_of_dotted (by decide) (orElse_of_ok star)
  | name deep key nonempty plain =>
    have read : name (key ++ r) = .ok (.key (String.ofList key)) r :=
      name_eq_ok_iff.2 ⟨key, rfl, nonempty, plain, hr rfl, rfl⟩
    obtain ⟨c, t, rfl⟩ := List.exists_cons_of_ne_nil nonempty
    have hc := plain c (by simp)
    have star : Misses wildcard (c :: t ++ r) :=
      misses_wildcard_iff.2 (by simpa using ne_of_isNameChar hc (by decide))
    cases deep with
    | true => exact segment_of_deep ((orElse_of_misses star).trans (orElse_of_ok read))
    | false =>
      exact segment_of_dotted (ne_of_isNameChar hc (by decide)) ((orElse_of_misses star).trans read)
  | bracket deep before inner after hb ha =>
    have read := bracket_run (r := r) inner hb ha
    cases deep with
    | true =>
      have star : Misses wildcard ('[' :: (before ++ (inner.text ++ (after ++ ']' :: r)))) :=
        misses_wildcard_iff.2 (by simp)
      have plain : Misses name ('[' :: (before ++ (inner.text ++ (after ++ ']' :: r)))) :=
        misses_name_iff.2 (endsRun_cons.2 (by decide))
      have := segment_of_deep ((orElse_of_misses star).trans ((orElse_of_misses plain).trans read))
      simpa [Step.text, Step.bracketPoints, Step.segment, Step.segmentOf] using this
    | false =>
      have := segment_of_bracket read
      simpa [Step.text, Step.bracketPoints, Step.segment, Step.segmentOf] using this

/-- No segment begins here unless there is a point or a bracket. -/
theorem misses_segment {c : Char} (hp : c ≠ '.') (hb : c ≠ '[') : Misses segment (c :: s) := by
  refine Misses.orElse (misses_descendant_cons hp) (Misses.orElse (misses_dotted_cons hp) ?_)
  exact misses_map_iff.2 (misses_bracket_cons hb)

theorem neverAborts_quotedBy (quote : Char) : NeverAborts (quotedBy quote) :=
  (neverAborts_char _).bind fun _ => (neverAborts_takeWhile _).bind fun _ =>
    (neverAborts_char _).bind fun _ => neverAborts_pure _

theorem neverAborts_position : NeverAborts position := by
  have checked (i : Int) :
      NeverAborts (if isPosition i then pure (Selector.index i) else never) := by
    by_cases fits : isPosition i
    · rw [if_pos fits]
      exact neverAborts_pure _
    · rw [if_neg fits]
      exact neverAborts_never
  exact (neverAborts_satisfy _).optional.bind fun sign =>
    (neverAborts_takeWhile1 _).bind fun digits => checked _

theorem neverAborts_bracket : NeverAborts bracket := by
  have star : NeverAborts wildcard := (neverAborts_char _).bind fun _ => neverAborts_pure _
  refine (neverAborts_char _).bind fun _ => NeverAborts.bind (NeverAborts.spaced ?_) fun _ =>
    (neverAborts_char _).bind fun _ => neverAborts_pure _
  exact star.orElse ((neverAborts_quotedBy _).orElse
    ((neverAborts_quotedBy _).orElse neverAborts_position))

theorem neverAborts_segment : NeverAborts segment := by
  have star : NeverAborts wildcard := (neverAborts_char _).bind fun _ => neverAborts_pure _
  have plain : NeverAborts name := (neverAborts_takeWhile1 _).bind fun _ => neverAborts_pure _
  have deep : NeverAborts descendant := (neverAborts_token _).bind fun _ =>
    (star.orElse (plain.orElse neverAborts_bracket)).bind fun _ => neverAborts_pure _
  have shallow : NeverAborts dotted := (neverAborts_char _).bind fun _ =>
    (star.orElse plain).bind fun _ => neverAborts_pure _
  exact deep.orElse (shallow.orElse neverAborts_bracket.map)

end Verdict.Path
