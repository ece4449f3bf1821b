import Verdict.Proofs.Parser.Basic

/-!
# What is left is shorter

No parser leaves more than it was given.  Two parsers that agree on short texts therefore still agree
on them when they come behind something else; and if that consumes at least one character, they agree
on texts that are longer by one.  A rule of the grammar that refers to itself only behind a token can
so be unfolded as often as there are characters, and then once more without a difference.
-/

namespace Verdict.Parser

variable {α β : Type} {p q : Parser α} {f g : α → Parser β} {n : Nat}

/-! ### Lengths -/

/-- The parser never leaves more than it was given. -/
def Shortens (p : Parser α) : Prop :=
  ∀ ⦃s a r⦄, p s = .ok a r → r.length ≤ s.length

/-- The parser always leaves less than it was given. -/
def Consumes (p : Parser α) : Prop :=
  ∀ ⦃s a r⦄, p s = .ok a r → r.length < s.length

theorem Consumes.shortens (h : Consumes p) : Shortens p :=
  fun _ _ _ hp => (h hp).le

theorem shortens_pure (a : α) : Shortens (pure a : Parser α) := by
  intro s b r h
  simp only [pure_apply, Reply.ok.injEq] at h
  rw [h.2]

theorem shortens_never : Shortens (never : Parser α) := by
  intro s a r h
  simp [never] at h

theorem Shortens.bind (hp : Shortens p) (hf : ∀ a, Shortens (f a)) : Shortens (p >>= f) := by
  intro s b r h
  obtain ⟨a, m, h₁, h₂⟩ := bind_eq_ok_iff.1 h
  exact (hf a h₂).trans (hp h₁)

theorem Consumes.bind (hp : Consumes p) (hf : ∀ a, Shortens (f a)) : Consumes (p >>= f) := by
  intro s b r h
  obtain ⟨a, m, h₁, h₂⟩ := bind_eq_ok_iff.1 h
  exact (hf a h₂).trans_lt (hp h₁)

theorem Shortens.bind_consumes (hp : Shortens p) (hf : ∀ a, Consumes (f a)) :
    Consumes (p >>= f) := by
  intro s b r h
  obtain ⟨a, m, h₁, h₂⟩ := bind_eq_ok_iff.1 h
  exact (hf a h₂).trans_le (hp h₁)

theorem Shortens.map {g : α → β} (hp : Shortens p) : Shortens (g <$> p) :=
  hp.bind fun _ => shortens_pure _

theorem Shortens.orElse (hp : Shortens p) (hq : Shortens q) : Shortens (p <|> q) := by
  intro s a r h
  rcases orElse_eq_ok_iff.1 h with h | ⟨-, h⟩
  · exact hp h
  · exact hq h

theorem Consumes.orElse (hp : Consumes p) (hq : Consumes q) : Consumes (p <|> q) := by
  intro s a r h
  rcases orElse_eq_ok_iff.1 h with h | ⟨-, h⟩
  · exact hp h
  · exact hq h

theorem consumes_satisfy (accepts : Char → Bool) : Consumes (satisfy accepts) := by
  intro s c r h
  rw [(satisfy_eq_ok_iff.1 h).1]
  exact Nat.lt_succ_self _

theorem consumes_char (c : Char) : Consumes (char c) :=
  consumes_satisfy _

theorem consumes_token {u : List Char} (hu : u ≠ []) : Consumes (token u) := by
  intro s a r h
  rw [token_eq_ok_iff.1 h, List.length_append]
  have := List.length_pos_iff.2 hu
  omega

theorem shortens_takeWhile (accepts : Char → Bool) : Shortens (takeWhile accepts) := by
  intro s u r h
  rw [(takeWhile_eq_ok_iff.1 h).1, List.length_append]
  exact Nat.le_add_left _ _

theorem consumes_takeWhile1 (accepts : Char → Bool) : Consumes (takeWhile1 accepts) :=
  (consumes_satisfy accepts).bind fun _ => (shortens_takeWhile accepts).bind fun _ => shortens_pure _

theorem shortens_notBefore (rejects : Char → Bool) : Shortens (notBefore rejects) := by
  intro s a r h
  rw [(notBefore_eq_ok_iff.1 h).1]

theorem Shortens.optional (hp : Shortens p) : Shortens (Parser.optional p) :=
  hp.map.orElse (shortens_pure none)

theorem shortens_many (p : Parser α) : Shortens (Parser.many p) := by
  intro s as r h
  induction as generalizing s with
  | nil =>
    rcases many_eq_ok_iff.1 h with ⟨-, rfl, -⟩ | ⟨a, m, as, h, -⟩
    · exact Nat.le_refl _
    · simp at h
  | cons a as ih =>
    rcases many_eq_ok_iff.1 h with ⟨h, -⟩ | ⟨a, m, as, h, -, hm, hr⟩
    · simp at h
    · obtain ⟨rfl, rfl⟩ := List.cons.inj h
      exact (ih hr).trans hm.le

theorem shortens_spacing : Shortens spacing :=
  shortens_takeWhile _

theorem Shortens.spaced (hp : Shortens p) : Shortens (Parser.spaced p) :=
  shortens_spacing.bind fun _ => hp.bind fun _ => shortens_spacing.bind fun _ => shortens_pure _

theorem Consumes.spaced (hp : Consumes p) : Consumes (Parser.spaced p) :=
  shortens_spacing.bind_consumes fun _ => Consumes.bind hp fun _ =>
    shortens_spacing.bind fun _ => shortens_pure _

theorem Shortens.sepBy1 (hp : Shortens p) (separator : Parser β) :
    Shortens (Parser.sepBy1 p separator) :=
  hp.bind fun _ => (shortens_many _).bind fun _ => shortens_pure _

theorem Shortens.sepBy (hp : Shortens p) (separator : Parser β) :
    Shortens (Parser.sepBy p separator) :=
  (hp.sepBy1 separator).orElse (shortens_pure [])

theorem Shortens.read (hp : Shortens p) : Shortens (Parser.read p) := by
  intro s u r h
  unfold Parser.read at h
  cases hs : p s with
  | ok a m =>
    simp only [hs, Reply.ok.injEq] at h
    exact h.2 ▸ hp hs
  | miss here => simp [hs] at h
  | abort here => simp [hs] at h

/-! ### Lists -/

theorem sepBy1_of_misses {separator : Parser β} {s m : List Char} {a : α} (h : p s = .ok a m)
    (finished : Misses separator m) : Parser.sepBy1 p separator s = .ok [a] m := by
  unfold Parser.sepBy1
  rw [bind_of_ok h, bind_of_ok (many_of_misses finished.bind), pure_apply]

theorem sepBy1_cons {separator : Parser β} {s m t r : List Char} {a : α} {b : β} {as : List α}
    (hp : Shortens p) (hs : Consumes separator) (h : p s = .ok a m) (next : separator m = .ok b t)
    (rest : Parser.sepBy1 p separator t = .ok as r) :
    Parser.sepBy1 p separator s = .ok (a :: as) r := by
  unfold Parser.sepBy1 at rest ⊢
  simp only [bind_eq_ok_iff, pure_apply, Reply.ok.injEq] at rest
  obtain ⟨a', m', h', as', r', others, rfl, rfl⟩ := rest
  have step : (do let _ ← separator; p : Parser α) m = .ok a' m' := (bind_of_ok next).trans h'
  have progress : m'.length < m.length := (hp h').trans_lt (hs next)
  rw [bind_of_ok h, bind_of_ok (many_of_ok step progress others), pure_apply]

theorem sepBy1_of_ok {separator : Parser β} {s r : List Char} {as : List α}
    (h : Parser.sepBy1 p separator s = .ok as r) :
    ∃ a m, p s = .ok a m ∧ (as = [a] ∧ m = r ∨
      ∃ b t as', separator m = .ok b t ∧ as = a :: as' ∧ Parser.sepBy1 p separator t = .ok as' r) := by
  unfold Parser.sepBy1 at h ⊢
  simp only [bind_eq_ok_iff, pure_apply, Reply.ok.injEq] at h
  obtain ⟨a, m, hp, others, _, hm, rfl, rfl⟩ := h
  refine ⟨a, m, hp, ?_⟩
  rcases many_eq_ok_iff.1 hm with ⟨rfl, rfl, -⟩ | ⟨a', m', others, rfl, step, -, rest⟩
  · exact .inl ⟨rfl, rfl⟩
  · obtain ⟨b, t, hb, ha'⟩ := bind_eq_ok_iff.1 step
    refine .inr ⟨b, t, a' :: others, hb, rfl, ?_⟩
    rw [bind_of_ok ha', bind_of_ok rest, pure_apply]

/-- What holds of each item that is read from a shorter text holds of all items. -/
theorem forall_of_many {holds : α → Prop} {s r : List Char} {as : List α}
    (item : ∀ t a m, t.length ≤ s.length → p t = .ok a m → holds a)
    (h : Parser.many p s = .ok as r) : ∀ a ∈ as, holds a := by
  induction as generalizing s with
  | nil => simp
  | cons a as ih =>
    rcases many_eq_ok_iff.1 h with ⟨h, -⟩ | ⟨b, m, bs, same, hb, hm, rest⟩
    · simp at h
    · obtain ⟨rfl, rfl⟩ := List.cons.inj same
      rw [List.forall_mem_cons]
      exact ⟨item s a m (Nat.le_refl _) hb,
        ih (fun t c n ht hc => item t c n (ht.trans hm.le) hc) rest⟩

theorem forall_of_sepBy1 {holds : α → Prop} {separator : Parser β} {s r : List Char} {as : List α}
    (hp : Shortens p) (hs : Shortens separator)
    (item : ∀ t a m, t.length ≤ s.length → p t = .ok a m → holds a)
    (h : Parser.sepBy1 p separator s = .ok as r) : as ≠ [] ∧ ∀ a ∈ as, holds a := by
  unfold Parser.sepBy1 at h
  simp only [bind_eq_ok_iff, pure_apply, Reply.ok.injEq] at h
  obtain ⟨a, m, ha, others, _, hm, rfl, rfl⟩ := h
  refine ⟨by simp, List.forall_mem_cons.2 ⟨item s a m (Nat.le_refl _) ha, ?_⟩⟩
  refine forall_of_many (fun t b n ht hb => ?_) hm
  obtain ⟨_, t', hsep, hb⟩ := bind_eq_ok_iff.1 hb
  exact item t' b n ((hs hsep).trans (ht.trans (hp ha))) hb

/-! ### Agreement on short texts -/

/-- The parsers report the same about each text of less than `n` characters. -/
def Agree (n : Nat) (p q : Parser α) : Prop :=
  ∀ ⦃s⦄, s.length < n → p s = q s

theorem agree_refl (n : Nat) (p : Parser α) : Agree n p p :=
  fun _ _ => rfl

theorem Agree.bind (h : Agree n p q) (hp : Shortens p) (hf : ∀ a, Agree n (f a) (g a)) :
    Agree n (p >>= f) (q >>= g) := by
  intro s hs
  rw [bind_apply, bind_apply, ← h hs]
  cases hp' : p s with
  | ok a m => exact hf a ((hp hp').trans_lt hs)
  | miss here => rfl
  | abort here => rfl

/-- Behind something that consumes a character the texts are shorter. -/
theorem Consumes.agree_bind (hp : Consumes p) (hf : ∀ a, Agree n (f a) (g a)) :
    Agree (n + 1) (p >>= f) (p >>= g) := by
  intro s hs
  rw [bind_apply, bind_apply]
  cases hp' : p s with
  | ok a m =>
    have := hp hp'
    exact hf a (by omega)
  | miss here => rfl
  | abort here => rfl

theorem Agree.orElse {p' q' : Parser α} (h : Agree n p q) (h' : Agree n p' q') :
    Agree n (p <|> p') (q <|> q') := by
  intro s hs
  rw [orElse_apply, orElse_apply, h hs, h' hs]

theorem Agree.many (h : Agree n p q) : Agree n (Parser.many p) (Parser.many q) := by
  intro s
  induction hk : s.length using Nat.strong_induction_on generalizing s with
  | _ k ih =>
    intro hs
    rw [many_eq, many_eq, ← h (by omega : s.length < n)]
    cases hp : p s with
    | ok a m =>
      dsimp only
      by_cases progress : m.length < s.length
      · rw [if_pos progress, if_pos progress, ih m.length (by omega) rfl (by omega)]
      · rw [if_neg progress, if_neg progress]
    | miss here => rfl
    | abort here => rfl

theorem Agree.spaced (h : Agree n p q) (hp : Shortens p) :
    Agree n (Parser.spaced p) (Parser.spaced q) :=
  (agree_refl n _).bind shortens_spacing fun _ => h.bind hp fun _ => agree_refl n _

theorem Agree.sepBy1 {separator : Parser β} (h : Agree n p q) (hp : Shortens p)
    (hs : Shortens separator) :
    Agree n (Parser.sepBy1 p separator) (Parser.sepBy1 q separator) :=
  h.bind hp fun _ => ((agree_refl n _).bind hs fun _ => h).many.bind (shortens_many _)
    fun _ => agree_refl n _

theorem Agree.sepBy {separator : Parser β} (h : Agree n p q) (hp : Shortens p)
    (hs : Shortens separator) :
    Agree n (Parser.sepBy p separator) (Parser.sepBy q separator) :=
  (h.sepBy1 hp hs).orElse (agree_refl n _)

end Verdict.Parser
