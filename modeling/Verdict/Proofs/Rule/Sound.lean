import Verdict.Proofs.Rule.CalledNot

/-!
# Whatever is read can be written

Each term that is read stands in the text in one of the ways to write it, `term_of_ok`.  For conditions
less is true, since blanks are not demanded around a word between two of them: `5and(6)` is read.  But
each condition that is read can be written in some way, `writable_of_parse`.
-/

namespace Verdict.Rule

open Verdict.Parser

variable {s r m n u v : List Char}

/-! ### Terms -/

/-- A text for the phrase stands in front of the text, behind blanks, and only blanks of what follows
it are gone. -/
def Stands (ph : Phrase) (s r : List Char) : Prop :=
  ∃ u m, skip s = u ++ m ∧ Written anyTerm ph u ∧ skip m = r

theorem mem_constants_of_stem {f : List Char}
    (h : stem f ∈ [['n', 'u', 'l', 'l'], ['t', 'r', 'u', 'e'], ['f', 'a', 'l', 's', 'e']])
    (hr : EndsRun isWordChar r) : ∃ l m, constant (f ++ r) = .ok l m := by
  have loose : EndsRun isWordChar (f.dropWhile (· != '.') ++ r) := by
    have ends := endsRun_dropWhile (· != '.') f
    cases hd : f.dropWhile (· != '.') with
    | nil => exact hr
    | cons c w =>
      rw [hd] at ends
      obtain rfl : c = '.' := by simpa using endsRun_cons.1 ends
      exact endsRun_cons.2 (by decide)
  have split : f ++ r = stem f ++ (f.dropWhile (· != '.') ++ r) := by
    rw [stem, ← List.append_assoc, List.takeWhile_append_dropWhile]
  rw [split]
  simp only [List.mem_cons, List.not_mem_nil, or_false] at h
  rcases h with h | h | h
  · exact ⟨.null, _, constant_eq_ok_iff.2 ⟨loose, .inl ⟨by rw [h], rfl⟩⟩⟩
  · exact ⟨.bool true, _, constant_eq_ok_iff.2 ⟨loose, .inr (.inl ⟨by rw [h], rfl⟩)⟩⟩
  · exact ⟨.bool false, _, constant_eq_ok_iff.2 ⟨loose, .inr (.inr ⟨by rw [h], rfl⟩)⟩⟩

theorem spaced_char_of_ok {c d : Char} (h : spaced (char c) s = .ok d r) :
    ∃ a t, Blank a ∧ s = a ++ c :: t ∧ skip t = r := by
  obtain ⟨t, ht, rfl⟩ := spaced_eq_ok_iff.1 h
  obtain ⟨a, ha, hs⟩ := exists_blank_append_skip s
  rw [(char_eq_ok_iff.1 ht).1] at hs
  exact ⟨a, t, ha, hs, rfl⟩

/-- The arguments of a call stand in the text if each of them does. -/
theorem stands_arguments {ts : List Term} (item : ∀ s t r, s.length ≤ n.length →
    term s = .ok t r → Stands (.term t) s r) (hs : s.length ≤ n.length)
    (h : sepBy1 term comma s = .ok ts r) : Stands (.arguments ts) s r := by
  induction ts generalizing s with
  | nil =>
    obtain ⟨a, m, -, ⟨h, -⟩ | ⟨_, _, _, -, h, -⟩⟩ := sepBy1_of_ok h
    · simp at h
    · simp at h
  | cons t ts ih =>
    obtain ⟨a, m, ht, rest⟩ := sepBy1_of_ok h
    obtain ⟨u, z, hu, written, rfl⟩ := item s a m hs ht
    rcases rest with ⟨same, rfl⟩ | ⟨_, w, ts', hw, same, rest⟩
    · obtain ⟨rfl, rfl⟩ := List.cons.inj same
      exact ⟨u, z, hu, .argument written, rfl⟩
    · obtain ⟨rfl, rfl⟩ := List.cons.inj same
      obtain ⟨a, t', ha, hz, rfl⟩ := spaced_char_of_ok hw
      have short : (skip t').length ≤ n.length := by
        have h₁ := (skip_suffix s).length_le
        have h₂ := (skip_suffix z).length_le
        have h₃ := (skip_suffix t').length_le
        rw [hu] at h₁
        rw [hz] at h₂
        simp only [List.length_append, List.length_cons] at h₁ h₂
        omega
      obtain ⟨v, y, hv, others, rfl⟩ := ih short rest
      obtain ⟨a', ha', hz'⟩ := exists_blank_append_skip z
      obtain ⟨b, hb, ht'⟩ := exists_blank_append_skip t'
      refine ⟨u ++ (a' ++ a ++ ',' :: (b ++ v)), y, ?_,
        .arguments (ha'.append ha) hb written others, rfl⟩
      rw [skip_skip] at hv
      rw [hu, hz', hz, ht', hv]
      simp

theorem callName_of_ok {f t : List Char} (name : functionName s = .ok f t)
    (word : Misses constant (f ++ r)) (loose : EndsRun isWordChar r) : CallName f := by
  obtain ⟨-, nonempty, start, plain, -⟩ := functionName_eq_ok_iff.1 name
  refine ⟨start, nonempty, fun c hc => ?_, fun constant => ?_⟩
  · obtain ⟨e, w, rfl⟩ := List.exists_cons_of_ne_nil nonempty
    rcases List.mem_cons.1 hc with rfl | hc
    · exact isNameChar_of_isNameStart (start c rfl)
    · exact plain c hc
  · obtain ⟨l, m, read⟩ := mem_constants_of_stem constant loose
    exact word.ne_ok read

/-- A call stands in the text, given that its arguments do. -/
theorem stands_call {t : Term} (item : ∀ s' t' r', s'.length < s.length →
    term s' = .ok t' r' → Stands (.term t') s' r') (blank : EndsRun Text.isSpacing s)
    (word : Misses constant s) (h : call term s = .ok t r) : Stands (.term t) s (skip r) := by
  unfold call at h
  simp only [bind_eq_ok_iff, pure_apply, Reply.ok.injEq] at h
  obtain ⟨f, _, name, _, _, open_, ts, _, inside, _, _, close, rfl, rfl⟩ := h
  obtain ⟨rfl, -⟩ := functionName_eq_ok_iff.1 name
  obtain ⟨a, t, ha, rfl, rfl⟩ := spaced_char_of_ok open_
  obtain ⟨d, z, hd, rfl, rfl⟩ := spaced_char_of_ok close
  have isName : CallName f := callName_of_ok name word (endsRun_open ha (by decide))
  have drop : skip (f ++ (a ++ '(' :: t)) = f ++ (a ++ '(' :: t) := skip_of_endsRun blank
  obtain ⟨b, hb, ht⟩ := exists_blank_append_skip t
  rw [skip_skip]
  rcases orElse_eq_ok_iff.1 inside with read | ⟨-, none⟩
  · have short : t.length < (f ++ (a ++ '(' :: t)).length := by
      simp only [List.length_append, List.length_cons]
      omega
    have within := (skip_suffix t).length_le
    obtain ⟨u, m, hu, written, hm⟩ := stands_arguments (n := t)
      (fun s' t' r' hs => item s' t' r' (by omega)) within read
    obtain ⟨e, he, hz⟩ := exists_blank_append_skip m
    rw [hm] at hz
    refine ⟨_, z, ?_, .call isName ha hb (he.append hd) written, rfl⟩
    rw [skip_skip] at hu
    rw [drop, ht, hu, hz]
    simp
  · simp only [pure_apply, Reply.ok.injEq] at none
    obtain ⟨rfl, hz⟩ := none
    refine ⟨_, z, ?_, .callNone isName ha (hb.append hd), rfl⟩
    rw [drop, ht, hz]
    simp

/-- Each term that is read stands in the text in one of the ways to write it. -/
theorem term_of_ok {t : Term} (h : term s = .ok t r) : Stands (.term t) s r := by
  induction hn : s.length using Nat.strong_induction_on generalizing s t r with
  | _ n ih =>
    rw [term_eq_spaced, spaced_eq_ok_iff] at h
    obtain ⟨m, read, rfl⟩ := h
    have item (s' t' r') (hs : s'.length < (skip s).length) (read : term s' = .ok t' r') :
        Stands (.term t') s' r' :=
      ih s'.length (hn ▸ hs.trans_le (skip_suffix s).length_le) read rfl
    unfold bare at read
    simp only [orElse_eq_ok_iff, map_eq_ok_iff, misses_map_iff] at read
    rcases read with ⟨l, h, rfl⟩ | ⟨word, h | ⟨-, h | ⟨-, ⟨l, h, rfl⟩ | ⟨-, l, h, rfl⟩⟩⟩⟩
    · obtain ⟨-, ⟨hs, rfl⟩ | ⟨hs, rfl⟩ | ⟨hs, rfl⟩⟩ := constant_eq_ok_iff.1 h
      · exact ⟨_, m, hs, .null, rfl⟩
      · exact ⟨_, m, hs, .isTrue, rfl⟩
      · exact ⟨_, m, hs, .isFalse, rfl⟩
    · obtain ⟨u, z, hu, written, hz⟩ := stands_call item (endsRun_skip s) word h
      rw [skip_skip] at hu
      exact ⟨u, z, hu, written, hz⟩
    · obtain ⟨u, hs, rfl, ⟨p, whole⟩ | ⟨v, rfl, plain⟩⟩ := path_of_ok h
      · exact ⟨u, m, hs, .path whole, rfl⟩
      · exact ⟨'/' :: v, m, hs, .pointer plain, rfl⟩
    · unfold number at h
      simp only [bind_eq_ok_iff, pure_apply, Reply.ok.injEq] at h
      obtain ⟨x, _, h, rfl, rfl⟩ := h
      obtain ⟨t, hs, rfl⟩ := numeral_of_ok h
      exact ⟨t.text, _, hs, .number t, rfl⟩
    · obtain ⟨t, hs, rfl⟩ := string_of_ok h
      exact ⟨t.text, m, hs, .string t, rfl⟩

/-! ### Conditions -/

/-- There is a way to write the condition where a negation may stand. -/
def Writable (c : Condition Term) : Prop :=
  ∃ u, Written Free (.negation c) u

variable {c x y : Condition Term} {cs : List (Condition Term)}

theorem blank_space : Blank [' '] := by
  simp [Blank, Text.isSpacing]

theorem writable_of_rule (h : Written Free (.rule c) u) : Writable c :=
  ⟨_, .parenthesised blank_nil blank_nil h⟩

theorem writable_of_strict (h : Written Free (.strict c) u) : Writable c :=
  writable_of_rule (.sole (.alternative (.single (.requirement h))))

theorem Writable.and (hx : Writable x) (hy : Writable y) : Writable (.and x y) := by
  obtain ⟨u, hu⟩ := hx
  obtain ⟨v, hv⟩ := hy
  exact writable_of_strict
    (.and blank_space blank_space (List.cons_ne_nil _ _) (List.cons_ne_nil _ _) (.unary hu) hv)

theorem Writable.or (hx : Writable x) (hy : Writable y) : Writable (.or x y) := by
  obtain ⟨u, hu⟩ := hx
  obtain ⟨v, hv⟩ := hy
  exact writable_of_strict
    (.or blank_space blank_space (List.cons_ne_nil _ _) (List.cons_ne_nil _ _) (.unary hu) hv)

theorem Writable.not (hx : Writable x) : Writable (.not x) := by
  obtain ⟨u, hu⟩ := hx
  exact ⟨_, .bang blank_nil hu⟩

/-- Conditions that can be written can be written between signs. -/
theorem exists_written_requirements (hne : cs ≠ []) (h : ∀ c ∈ cs, Writable c) :
    ∃ u, Written Free (.requirements cs) u := by
  induction cs with
  | nil => exact absurd rfl hne
  | cons c cs ih =>
    obtain ⟨u, hu⟩ := h c (by simp)
    by_cases last : cs = []
    · subst last
      exact ⟨u, .requirement (.unary hu)⟩
    · obtain ⟨v, hv⟩ := ih last fun c hc => h c (by simp [hc])
      exact ⟨_, .requirements blank_nil blank_nil (.unary hu) hv⟩

theorem exists_written_alternatives (hne : cs ≠ []) (h : ∀ c ∈ cs, Writable c) :
    ∃ u, Written Free (.alternatives cs) u := by
  induction cs with
  | nil => exact absurd rfl hne
  | cons c cs ih =>
    obtain ⟨u, hu⟩ := h c (by simp)
    by_cases last : cs = []
    · subst last
      exact ⟨u, .alternative (.single (.requirement (.unary hu)))⟩
    · obtain ⟨v, hv⟩ := ih last fun c hc => h c (by simp [hc])
      exact ⟨_, .alternatives blank_nil blank_nil (.single (.requirement (.unary hu))) hv⟩

/-- What holds of the items holds of the condition that is collected of them, if lists of several ones
keep it. -/
theorem collect_of {good : Condition Term → Prop} {join : List (Condition Term) → Condition Term}
    (several : ∀ cs, 2 ≤ cs.length → (∀ c ∈ cs, good c) → good (join cs))
    (hne : cs ≠ []) (h : ∀ c ∈ cs, good c) : good (collect join cs) := by
  match cs, hne, h with
  | [c], _, h => exact h c (by simp)
  | x :: y :: cs, _, h => exact several (x :: y :: cs) (by simp) h

theorem writable_all (cs : List (Condition Term)) (several : 2 ≤ cs.length)
    (h : ∀ c ∈ cs, Writable c) : Writable (.all cs) := by
  obtain ⟨u, hu⟩ := exists_written_requirements (List.ne_nil_of_length_pos (by omega)) h
  exact writable_of_rule (.sole (.alternative (.all several hu)))

theorem writable_any (cs : List (Condition Term)) (several : 2 ≤ cs.length)
    (h : ∀ c ∈ cs, Writable c) : Writable (.any cs) := by
  obtain ⟨u, hu⟩ := exists_written_alternatives (List.ne_nil_of_length_pos (by omega)) h
  exact writable_of_rule (.any several hu)

theorem strictOperator_of_ok {join : Condition Term → Condition Term → Condition Term}
    (h : strictOperator s = .ok join r) : join = .and ∨ join = .or := by
  unfold strictOperator at h
  simp only [spaced_eq_ok_iff, orElse_eq_ok_iff, bind_eq_ok_iff, pure_apply, Reply.ok.injEq] at h
  obtain ⟨_, ⟨_, _, _, rfl, _⟩ | ⟨_, _, _, _, rfl, _⟩, _⟩ := h
  · exact .inl rfl
  · exact .inr rfl

/-- What holds of the conditions between strict operators holds of the whole, if the operators keep
it. -/
theorem joined_of {good : Condition Term → Prop} (and : ∀ {x y}, good x → good y → good (.and x y))
    (or : ∀ {x y}, good x → good y → good (.or x y))
    {others : List ((Condition Term → Condition Term → Condition Term) × Condition Term)}
    (hc : good c) (h : ∀ o ∈ others, (o.1 = .and ∨ o.1 = .or) ∧ good o.2) :
    good (joined c others) := by
  induction others generalizing c with
  | nil => exact hc
  | cons o others ih =>
    obtain ⟨join, right⟩ := o
    obtain ⟨⟨kind, ho⟩, rest⟩ := List.forall_mem_cons.1 h
    refine ih ?_ rest
    rcases kind with rfl | rfl
    · exact and hc ho
    · exact or hc ho

section Inside

variable (item : ∀ t c m, t.length ≤ s.length → negation t = .ok c m → Writable c)

include item

theorem writable_of_strict_ok (h : strict negation s = .ok c r) : Writable c := by
  rw [strict_eq] at h
  simp only [bind_eq_ok_iff, pure_apply, Reply.ok.injEq] at h
  obtain ⟨first, m, hf, others, _, hm, rfl, rfl⟩ := h
  have short := shortens_negation hf
  refine joined_of .and .or (item s first m (Nat.le_refl _) hf) (forall_of_many ?_ hm)
  intro t o n ht ho
  unfold strictStep at ho
  simp only [bind_eq_ok_iff, pure_apply, Reply.ok.injEq] at ho
  obtain ⟨join, t', hj, right, _, hr, rfl, rfl⟩ := ho
  have := consumes_strictOperator hj
  exact ⟨strictOperator_of_ok hj, item t' right _ (by omega) hr⟩

theorem writable_of_requirements_ok (h : requirements negation s = .ok c r) : Writable c := by
  unfold requirements at h
  simp only [bind_eq_ok_iff, pure_apply, Reply.ok.injEq] at h
  obtain ⟨cs, _, hcs, rfl, -⟩ := h
  obtain ⟨hne, all⟩ := forall_of_sepBy1 (shortens_strict shortens_negation)
    (consumes_token (by decide)).shortens.spaced
    (fun t c m ht hc => writable_of_strict_ok
      (fun t' c' m' ht' => item t' c' m' (ht'.trans ht)) hc) hcs
  exact collect_of writable_all hne all

theorem writable_of_alternatives_ok (h : alternatives negation s = .ok c r) : Writable c := by
  unfold alternatives at h
  simp only [bind_eq_ok_iff, pure_apply, Reply.ok.injEq] at h
  obtain ⟨cs, _, hcs, rfl, -⟩ := h
  obtain ⟨hne, all⟩ := forall_of_sepBy1 (shortens_requirements shortens_negation)
    (consumes_token (by decide)).shortens.spaced
    (fun t c m ht hc => writable_of_requirements_ok
      (fun t' c' m' ht' => item t' c' m' (ht'.trans ht)) hc) hcs
  exact collect_of writable_any hne all

end Inside

theorem skips_negated : Skips negated :=
  (skips_spaced _).bind _

/-- A term that is read where no negation is read is one in front of which none is read. -/
theorem free_of_term {t : Term} (miss : Misses negated s) (h : term s = .ok t r) : Free t := by
  obtain ⟨u, m, hu, written, -⟩ := term_of_ok h
  unfold Misses at miss
  rw [← skips_negated.skip, hu] at miss
  exact free_of_misses written miss

theorem writable_of_compared (miss : Misses negated s) (h : compared s = .ok c r) : Writable c := by
  unfold compared at h
  simp only [bind_eq_ok_iff, optional_eq_ok_iff, pure_apply, Reply.ok.injEq] at h
  obtain ⟨t, m, ht, o, _, ho, rfl, -⟩ := h
  have free := free_of_term miss ht
  obtain ⟨u, m', hu, written, -⟩ := term_of_ok ht
  rcases ho with ⟨⟨op, t'⟩, rfl, hop, mop, -, _, _, ht', h, -⟩ | ⟨rfl, -⟩
  · obtain ⟨rfl, rfl⟩ := Prod.mk.inj h
    obtain ⟨v, -, -, written', -⟩ := term_of_ok ht'
    exact ⟨_, .compare _ blank_nil blank_nil free (written.change trivial)
      (written'.change trivial)⟩
  · exact ⟨u, .operand free (written.change trivial)⟩

/-- Each condition that is read can be written. -/
theorem writable_of_negation (h : negation s = .ok c r) : Writable c := by
  induction hn : s.length using Nat.strong_induction_on generalizing s c r with
  | _ n ih =>
    rw [negation_eq_orElse] at h
    simp only [orElse_eq_ok_iff] at h
    rcases h with h | ⟨miss, h | ⟨-, h⟩⟩
    · unfold negated at h
      simp only [bind_eq_ok_iff, pure_apply, Reply.ok.injEq] at h
      obtain ⟨_, m, mark, inner, _, hi, rfl, rfl⟩ := h
      exact (ih m.length (hn ▸ consumes_negationMark mark) hi rfl).not
    · unfold parenthesised at h
      simp only [bind_eq_ok_iff, pure_apply, Reply.ok.injEq] at h
      obtain ⟨_, m, open_, inner, _, hi, _, _, -, rfl, -⟩ := h
      have short : m.length < s.length := (consumes_char '(').spaced open_
      exact writable_of_alternatives_ok
        (fun t c m' ht hc => ih t.length (hn ▸ ht.trans_lt short) hc rfl) hi
    · exact writable_of_compared miss h

theorem writable_of_parse {text : String} (h : parse text = .ok c) : Writable c := by
  unfold parse run at h
  rw [condition_eq] at h
  cases read : alternatives negation (Text.trim text.toList) with
  | ok c' m =>
    rw [read] at h
    cases m with
    | nil =>
      obtain rfl := Except.ok.inj h
      exact writable_of_alternatives_ok (fun _ _ _ _ h => writable_of_negation h) read
    | cons d m => cases h
  | miss here => rw [read] at h; cases h
  | abort here => rw [read] at h; cases h

end Verdict.Rule
