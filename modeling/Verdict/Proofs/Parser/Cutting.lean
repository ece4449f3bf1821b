import Verdict.Proofs.Parser.Ends
import Verdict.Proofs.Text.Blank

/-!
# Texts that are cut off

A parser looks at what stands behind the text that it reads: a run of characters must end there, a
repetition goes on or does not, an alternative may have failed because of it.  `Survives r follow p`
says that all the same the parser reads what it read if `r`, and any blanks in front of it, are cut off
a text, as long as it leaves at least `r` of that text.  What is then left of the text in front of the
cut has to satisfy `follow`: something has to keep the parser from going on there that is no longer
behind the cut.

The property goes through all ways to combine parsers.  It is told of texts up to a length, so that it
can be shown of parsers that refer to themselves.
-/

namespace Verdict.Parser

variable {α β : Type} {p q : Parser α} {f : α → Parser β} {s u w m n r : List Char} {bound : Nat}
  {follow before : List Char → Prop}

/-! ### White space in front of a cut -/

/-- White space of any kind. -/
def White (w : List Char) : Prop :=
  ∀ c ∈ w, Text.isBlank c = true

/-- An end of a text that begins with white space begins with white space too. -/
theorem exists_white_append (hw : White w) (h : m <:+ w ++ r) (long : r.length ≤ m.length) :
    ∃ v, v <:+ w ∧ White v ∧ m = v ++ r := by
  obtain ⟨v, rfl⟩ := List.suffix_of_suffix_length_le (List.suffix_append w r) h long
  obtain ⟨x, hx⟩ := h
  rw [← List.append_assoc, List.append_cancel_right_eq] at hx
  exact ⟨v, ⟨x, hx⟩, fun c hc => hw c (by simp [← hx, hc]), rfl⟩

theorem skip_append_of_ne_nil (h : skip s ≠ []) : skip (s ++ u) = skip s ++ u := by
  obtain ⟨b, hb, hs⟩ := exists_blank_append_skip s
  have ends : EndsRun Text.isSpacing (skip s ++ u) := by
    obtain ⟨c, t, ht⟩ := List.exists_cons_of_ne_nil h
    have := endsRun_skip s
    rw [ht] at this ⊢
    exact endsRun_cons.2 (endsRun_cons.1 this)
  conv_lhs => rw [hs, List.append_assoc, skip_append hb, skip_of_endsRun ends]

theorem skip_append_of_eq_nil (h : skip s = []) : skip (s ++ u) = skip u := by
  obtain ⟨b, hb, hs⟩ := exists_blank_append_skip s
  rw [h, List.append_nil] at hs
  rw [hs, skip_append hb]

/-- Blanks are skipped in front of a cut, and perhaps at it. -/
theorem exists_skip_append (hw : White w) (long : r.length ≤ (skip (s ++ (w ++ r))).length) :
    ∃ v, White v ∧ skip (s ++ (w ++ r)) = skip s ++ (v ++ r) := by
  by_cases h : skip s = []
  · rw [skip_append_of_eq_nil h] at long ⊢
    obtain ⟨v, -, hv, same⟩ := exists_white_append hw (skip_suffix _) long
    exact ⟨v, hv, by rw [h, same, List.nil_append]⟩
  · exact ⟨w, hw, skip_append_of_ne_nil h⟩

/-! ### Parsers that read the same in front of a cut -/

/-- Of texts shorter than the bound, the parser reads the same if they are cut off behind what it
reads and what it leaves in front of the cut is fine. -/
structure Survives (bound : Nat) (r : List Char) (follow : List Char → Prop) (p : Parser α) :
    Prop where
  shortens : Shortens p
  again : ∀ ⦃s w a m⦄, (s ++ (w ++ r)).length < bound → White w → p (s ++ (w ++ r)) = .ok a m →
    r.length ≤ m.length → ∃ n v, White v ∧ m = n ++ (v ++ r) ∧ (follow n → p s = .ok a n)

/-- Nothing is asked of what is left in front of the cut. -/
abbrev Anything : List Char → Prop :=
  fun _ => True

theorem Survives.mono (h : Survives bound r before p) (sub : ∀ n, follow n → before n) :
    Survives bound r follow p where
  shortens := h.shortens
  again s w a m short hw ha long := by
    obtain ⟨n, v, hv, same, again⟩ := h.again short hw ha long
    exact ⟨n, v, hv, same, fun hn => again (sub n hn)⟩

theorem survives_zero (h : Shortens p) : Survives 0 r follow p where
  shortens := h
  again _ _ _ _ short := absurd short (Nat.not_lt_zero _)

theorem survives_pure (a : α) : Survives bound r follow (pure a : Parser α) where
  shortens := shortens_pure a
  again s w b m _ hw hb _ := by
    simp only [pure_apply, Reply.ok.injEq] at hb
    obtain ⟨rfl, rfl⟩ := hb
    exact ⟨s, w, hw, rfl, fun _ => rfl⟩

/-! ### Sequences and alternatives -/

/-- What comes second is given less than the bound below, and it says what the first one needs. -/
theorem Survives.bind_below {below : Nat} (first : Survives bound r before p)
    (less : ∀ s a m, p s = .ok a m → s.length < bound → m.length < below)
    (next : ∀ a, Survives below r follow (f a))
    (between : ∀ a m b n, f a m = .ok b n → follow n → before m) :
    Survives bound r follow (p >>= f) where
  shortens := first.shortens.bind fun a => (next a).shortens
  again s w b m short hw h long := by
    obtain ⟨a, m', ha, hb⟩ := bind_eq_ok_iff.1 h
    obtain ⟨n', v', hv', rfl, read⟩ := first.again short hw ha (long.trans ((next a).shortens hb))
    obtain ⟨n, v, hv, same, rest⟩ := (next a).again (less _ _ _ ha short) hv' hb long
    refine ⟨n, v, hv, same, fun hn => ?_⟩
    rw [bind_of_ok (read (between a n' b n (rest hn) hn))]
    exact rest hn

theorem Survives.bind (first : Survives bound r before p)
    (next : ∀ a, Survives bound r follow (f a))
    (between : ∀ a m b n, f a m = .ok b n → follow n → before m) :
    Survives bound r follow (p >>= f) :=
  first.bind_below (fun _ _ _ h short => (first.shortens h).trans_lt short) next between

/-- What comes second may be anything, since the first one needs nothing of it. -/
theorem Survives.then (first : Survives bound r Anything p)
    (next : ∀ a, Survives bound r follow (f a)) : Survives bound r follow (p >>= f) :=
  first.bind next fun _ _ _ _ _ _ => trivial

/-- Behind something that consumes a character the texts are shorter. -/
theorem Consumes.survives_then (consumes : Consumes p) (first : Survives (bound + 1) r Anything p)
    (next : ∀ a, Survives bound r follow (f a)) : Survives (bound + 1) r follow (p >>= f) :=
  first.bind_below (fun _ _ _ h short => (consumes h).trans_le (Nat.le_of_lt_succ short)) next
    fun _ _ _ _ _ _ => trivial

theorem Survives.map (h : Survives bound r follow p) (g : α → β) :
    Survives bound r follow (do let a ← p; return g a) :=
  h.bind (fun _ => survives_pure _) fun _ m _ n read hn => by
    simp only [pure_apply, Reply.ok.injEq] at read
    rwa [read.2]

/-- An alternative that was not read must not be read in front of the cut either. -/
theorem Survives.orElse (hp : Survives bound r follow p) (hq : Survives bound r follow q)
    (still : ∀ s z a m n, Misses p (s ++ z) → q (s ++ z) = .ok a m → q s = .ok a n → follow n →
      Misses p s) : Survives bound r follow (p <|> q) where
  shortens := hp.shortens.orElse hq.shortens
  again s w a m short hw h long := by
    rcases orElse_eq_ok_iff.1 h with h | ⟨miss, h⟩
    · obtain ⟨n, v, hv, same, read⟩ := hp.again short hw h long
      exact ⟨n, v, hv, same, fun hn => orElse_of_ok (read hn)⟩
    · obtain ⟨n, v, hv, same, read⟩ := hq.again short hw h long
      exact ⟨n, v, hv, same, fun hn =>
        (orElse_of_misses (still s _ a m n miss h (read hn) hn)).trans (read hn)⟩

theorem Survives.optional (h : Survives bound r follow p) (stop : ∀ n, follow n → Misses p n) :
    Survives bound r follow (Parser.optional p) := by
  refine (h.map some).orElse (survives_pure none) fun s z a m n _ _ read hn => ?_
  simp only [pure_apply, Reply.ok.injEq] at read
  obtain ⟨-, rfl⟩ := read
  exact (stop s hn).bind

theorem Survives.spaced (h : Survives bound r Anything p) :
    Survives bound r follow (Parser.spaced p) where
  shortens := h.shortens.spaced
  again s w a m short hw whole long := by
    obtain ⟨m, read, rfl⟩ := spaced_eq_ok_iff.1 whole
    have less := (skip_suffix (s ++ (w ++ r))).length_le
    have long' : r.length ≤ m.length := long.trans (skip_suffix m).length_le
    obtain ⟨v, hv, same⟩ := exists_skip_append hw (long'.trans (h.shortens read))
    rw [same] at read less
    obtain ⟨n, v', hv', rfl, again⟩ := h.again (less.trans_lt short) hv read long'
    obtain ⟨v'', hv'', same'⟩ := exists_skip_append hv' long
    exact ⟨skip n, v'', hv'', same', fun _ => spaced_of_ok (again trivial)⟩

/-! ### Repetitions -/

/-- A repetition ends here, or else another item stands here. -/
theorem exists_of_many {as : List α} (h : many p m = .ok as n) (hn : follow n) :
    follow m ∨ ∃ a n', p m = .ok a n' := by
  rcases many_eq_ok_iff.1 h with ⟨-, rfl, -⟩ | ⟨a, n', -, -, read, -⟩
  · exact .inl hn
  · exact .inr ⟨a, n', read⟩

/-- No item is read behind the last one, and each item can stand in front of what comes next. -/
theorem Survives.many (h : Survives bound r before p) (consumes : Consumes p)
    (stop : ∀ n, follow n → Misses p n)
    (between : ∀ m, (follow m ∨ ∃ a n, p m = .ok a n) → before m) :
    Survives bound r follow (Parser.many p) where
  shortens := shortens_many p
  again s w as m short hw read long := by
    induction as generalizing s w with
    | nil =>
      rcases many_eq_ok_iff.1 read with ⟨-, rfl, -⟩ | ⟨_, _, _, same, -⟩
      · exact ⟨s, w, hw, rfl, fun hs => many_of_misses (stop s hs)⟩
      · simp at same
    | cons a as ih =>
      rcases many_eq_ok_iff.1 read with ⟨same, -⟩ | ⟨a, m', as, same, ha, less, rest⟩
      · simp at same
      obtain ⟨rfl, rfl⟩ := List.cons.inj same
      obtain ⟨n', v', hv', rfl, again⟩ :=
        h.again short hw ha (long.trans (shortens_many p rest))
      obtain ⟨n, v, hv, same, others⟩ := ih _ _ (less.trans short) hv' rest
      refine ⟨n, v, hv, same, fun hn => ?_⟩
      have first : before n' := between n' (exists_of_many (others hn) hn)
      exact many_of_ok (again first) (consumes (again first)) (others hn)

/-- No separator stands behind the last item, and each item can stand in front of one. -/
theorem Survives.sepBy1 {separator : Parser β} (h : Survives bound r before p)
    (separates : Survives bound r Anything separator) (consumes : Consumes separator)
    (stop : ∀ n, follow n → Misses separator n)
    (between : ∀ m, (follow m ∨ ∃ b n, separator m = .ok b n) → before m) :
    Survives bound r follow (Parser.sepBy1 p separator) := by
  have read {m n : List Char} {a : α} (step : (do let _ ← separator; p : Parser α) m = .ok a n) :
      ∃ b n, separator m = .ok b n := by
    obtain ⟨b, n', hb, -⟩ := bind_eq_ok_iff.1 step
    exact ⟨b, n', hb⟩
  have step : Survives bound r before (do let _ ← separator; p) := separates.then fun _ => h
  have others : Survives bound r follow (Parser.many (do let _ ← separator; p)) :=
    step.many (consumes.bind fun _ => h.shortens) (fun n hn => (stop n hn).bind)
      fun m hm => between m (hm.imp_right fun ⟨_, _, h⟩ => read h)
  refine h.bind (fun a => others.map (a :: ·)) fun a m as n found hn => ?_
  obtain ⟨as, n', rest, last⟩ := bind_eq_ok_iff.1 found
  simp only [pure_apply, Reply.ok.injEq] at last
  obtain ⟨-, rfl⟩ := last
  exact between m ((exists_of_many rest hn).imp_right fun ⟨_, _, h⟩ => read h)

/-! ### Tokens -/

/-- What is read does not end in a blank, and is read again wherever the text behind it is cut off. -/
def Solid (p : Parser α) : Prop :=
  ∀ ⦃s a m⦄, p s = .ok a m → ∃ u, s = u ++ m ∧ (∀ c ∈ u.getLast?, Text.isBlank c = false) ∧
    ∀ n, n <+: m → p (u ++ n) = .ok a n

theorem Solid.survives (h : Solid p) : Survives bound r follow p where
  shortens s a m read := by
    obtain ⟨u, rfl, -⟩ := h read
    simp
  again s w a m _ hw read long := by
    obtain ⟨u, same, last, again⟩ := h read
    rcases List.append_eq_append_iff.1 same with ⟨x, rfl, cut⟩ | ⟨x, rfl, rfl⟩
    · -- The cut is made where the token ends, for a token that went on would end in a blank.
      obtain ⟨v, -, hv, rfl⟩ := exists_white_append hw ⟨x, cut.symm⟩ long
      rw [← List.append_assoc, List.append_cancel_right_eq] at cut
      obtain rfl : x = [] := by
        by_contra hx
        have mem := List.getLast_mem hx
        have closes := last _ (by rw [List.getLast?_append, List.getLast?_eq_some_getLast hx]; rfl)
        rw [hw _ (by simp [cut, mem])] at closes
        cases closes
      refine ⟨[], v, hv, rfl, fun _ => ?_⟩
      simpa using again [] List.nil_prefix
    · exact ⟨x, w, hw, rfl, fun _ => again x (List.prefix_append x _)⟩

theorem EndsRun.of_cut {accepts : Char → Bool} (h : EndsRun accepts m) (cut : n <+: m) :
    EndsRun accepts n := by
  obtain ⟨z, rfl⟩ := cut
  cases n with
  | nil => exact endsRun_nil
  | cons c n => exact endsRun_cons.2 (endsRun_cons.1 h)

theorem solid_token (closed : ∀ c ∈ u.getLast?, Text.isBlank c = false) : Solid (token u) :=
  fun _ _ _ h => ⟨u, token_eq_ok_iff.1 h, closed, fun n _ => token_append u n⟩

theorem solid_char {c : Char} (hc : Text.isBlank c = false) : Solid (char c) := by
  intro s d m h
  obtain ⟨rfl, rfl⟩ := char_eq_ok_iff.1 h
  exact ⟨[d], rfl, by simpa using hc, fun n _ => char_cons d n⟩

theorem Solid.map (h : Solid p) (g : α → β) : Solid (do let a ← p; return g a) := by
  intro s b m read
  obtain ⟨a, m', ha, hb⟩ := bind_eq_ok_iff.1 read
  simp only [pure_apply, Reply.ok.injEq] at hb
  obtain ⟨rfl, rfl⟩ := hb
  obtain ⟨u, same, last, again⟩ := h ha
  exact ⟨u, same, last, fun n cut => (bind_of_ok (again n cut)).trans rfl⟩

theorem Solid.orElse (hp : Solid p) (hq : Solid q)
    (still : ∀ s z a n, Misses p (s ++ z) → q s = .ok a n → Misses p s) : Solid (p <|> q) := by
  intro s a m read
  rcases orElse_eq_ok_iff.1 read with read | ⟨miss, read⟩
  · obtain ⟨u, same, last, again⟩ := hp read
    exact ⟨u, same, last, fun n cut => orElse_of_ok (again n cut)⟩
  · obtain ⟨u, rfl, last, again⟩ := hq read
    refine ⟨u, rfl, last, fun n cut => ?_⟩
    have here := again n cut
    obtain ⟨z, rfl⟩ := cut
    rw [← List.append_assoc] at miss
    rw [orElse_of_misses (still _ z a n miss here), here]

theorem Solid.read (h : Solid p) : Solid (Parser.read p) := by
  intro s t m found
  unfold Parser.read at found
  cases hs : p s with
  | ok a m' =>
    simp only [hs, Reply.ok.injEq] at found
    obtain ⟨rfl, rfl⟩ := found
    obtain ⟨u, rfl, last, again⟩ := h hs
    refine ⟨u, rfl, last, fun n cut => ?_⟩
    simp [Parser.read, again n cut]
  | miss here => simp [hs] at found
  | abort here => simp [hs] at found

/-- A token that is not there is not there in front of a cut. -/
theorem misses_token_of_append {z : List Char} (h : Misses (token u) (s ++ z)) :
    Misses (token u) s :=
  misses_token_iff.2 fun begins => misses_token_iff.1 h (begins.trans (List.prefix_append s z))

/-! ### Whole texts -/

theorem run_eq_unread_iff : run p s = .error (.unread r) ↔ r ≠ [] ∧ ∃ a, p s = .ok a r := by
  unfold run
  cases p s with
  | ok a m => cases m <;> simp; grind
  | miss here => simp
  | abort here => simp

/-- What was read of a text without blanks at its ends is read again if it stands alone, without the
blanks that stand between it and the remainder. -/
theorem Survives.alone {a : α} (h : Survives (s.length + 1) r follow p) (ends : Ends s p)
    (trimmed : Text.Trimmed s) (closed : follow []) (read : p s = .ok a r) :
    ∃ before, s = before ++ r ∧ p (Text.trim before) = .ok a [] := by
  obtain ⟨before, rfl⟩ := (ends (List.suffix_refl s) read).1
  obtain ⟨w, v, hw, hv, same⟩ := Text.exists_append_trim before
  obtain rfl : w = [] := by
    cases w with
    | nil => rfl
    | cons c w =>
      have := trimmed.first c (by rw [same]; rfl)
      simp [hw c] at this
  have cut : before ++ r = Text.trim before ++ (v ++ r) := by
    rw [← List.append_assoc]
    exact congrArg (· ++ r) same
  refine ⟨before, rfl, ?_⟩
  rw [cut] at h read
  obtain ⟨n, v', -, whole, again⟩ := h.again (Nat.lt_succ_self _) hv read le_rfl
  obtain rfl : n = [] := by
    have := congrArg List.length whole
    simp only [List.length_append] at this
    exact List.eq_nil_of_length_eq_zero (by omega)
  exact again closed

/-- What stands before a remainder is read by itself, as it was read before the remainder. -/
theorem Survives.before_remainder (h : ∀ bound, Survives bound r follow p)
    (ends : Ends (Text.trim s) p) (closed : follow [])
    (stopped : run p (Text.trim s) = .error (.unread r)) :
    r ≠ [] ∧ ∃ before a, Text.trim s = before ++ r ∧ p (Text.trim s) = .ok a r ∧
      p (Text.trim before) = .ok a [] := by
  obtain ⟨nonempty, a, read⟩ := run_eq_unread_iff.1 stopped
  obtain ⟨before, same, alone⟩ := (h _).alone ends (Text.trimmed_trim s) closed read
  exact ⟨nonempty, before, a, same, read, alone⟩

end Verdict.Parser
