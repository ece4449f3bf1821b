import Verdict.Proofs.Parser.Shortening

/-!
# Reading the ends of a text

Whatever a parser leaves is an end of the text that it was given, and so all that is ever read while a
text is read begins at one of its ends.  `Finds text holds p` says so of a parser, and at the same time
that whatever it reads there has a property, which may speak of the text.  It goes through every way to
combine parsers.
-/

namespace Verdict.Parser

variable {α β γ : Type} {text : List Char} {p q : Parser α} {holds : α → Prop} {goal : β → Prop}

/-- In front of each end of the text the parser reads something with the property, if anything, and
leaves an end of the text. -/
def Finds (text : List Char) (holds : α → Prop) (p : Parser α) : Prop :=
  ∀ ⦃s a r⦄, s <:+ text → p s = .ok a r → r <:+ text ∧ holds a

/-- The parser leaves ends of the text, whatever it reads. -/
abbrev Ends (text : List Char) (p : Parser α) : Prop :=
  Finds text (fun _ => True) p

theorem Finds.mono {post : α → Prop} (h : Finds text holds p) (image : ∀ a, holds a → post a) :
    Finds text post p := by
  intro s a r hs ha
  obtain ⟨hr, found⟩ := h hs ha
  exact ⟨hr, image a found⟩

/-- A parser that reads the front of what it is given leaves an end of it. -/
theorem ends_of_append (h : ∀ s a r, p s = .ok a r → ∃ u, s = u ++ r) : Ends text p := by
  intro s a r hs ha
  obtain ⟨u, rfl⟩ := h s a r ha
  exact ⟨(List.suffix_append u r).trans hs, trivial⟩

/-! ### Sequences and alternatives -/

theorem finds_pure {a : α} (h : holds a) : Finds text holds (pure a) := by
  intro s b r hs hb
  simp only [pure_apply, Reply.ok.injEq] at hb
  obtain ⟨rfl, rfl⟩ := hb
  exact ⟨hs, h⟩

theorem finds_never : Finds text holds (never : Parser α) := by
  intro s a r _ ha
  simp [never] at ha

theorem Finds.bind {f : α → Parser β} (h : Finds text holds p)
    (next : ∀ a, holds a → Finds text goal (f a)) : Finds text goal (p >>= f) := by
  intro s b r hs hb
  obtain ⟨a, m, ha, hb⟩ := bind_eq_ok_iff.1 hb
  obtain ⟨hm, found⟩ := h hs ha
  exact next a found hm hb

theorem Ends.bind {f : α → Parser β} (h : Ends text p) (next : ∀ a, Finds text goal (f a)) :
    Finds text goal (p >>= f) :=
  Finds.bind h fun a _ => next a

theorem Finds.map {f : α → β} (h : Finds text holds p) (image : ∀ a, holds a → goal (f a)) :
    Finds text goal (f <$> p) :=
  h.bind fun a found => finds_pure (image a found)

theorem Finds.orElse (hp : Finds text holds p) (hq : Finds text holds q) :
    Finds text holds (p <|> q) := by
  intro s a r hs h
  rcases orElse_eq_ok_iff.1 h with h | ⟨-, h⟩
  · exact hp hs h
  · exact hq hs h

theorem Finds.optional (h : Finds text holds p) :
    Finds text (fun o => ∀ a ∈ o, holds a) (Parser.optional p) :=
  Finds.orElse (h.map fun a found => by simpa using found) (finds_pure (by simp))

/-! ### Characters -/

theorem ends_satisfy (accepts : Char → Bool) : Ends text (satisfy accepts) :=
  ends_of_append fun _ c _ h => ⟨[c], (satisfy_eq_ok_iff.1 h).1⟩

theorem ends_char (c : Char) : Ends text (char c) :=
  ends_satisfy _

theorem ends_token (u : List Char) : Ends text (token u) :=
  ends_of_append fun _ _ _ h => ⟨u, token_eq_ok_iff.1 h⟩

theorem ends_takeWhile (accepts : Char → Bool) : Ends text (takeWhile accepts) :=
  ends_of_append fun _ u _ h => ⟨u, (takeWhile_eq_ok_iff.1 h).1⟩

theorem ends_notBefore (rejects : Char → Bool) : Ends text (notBefore rejects) :=
  ends_of_append fun _ _ _ h => ⟨[], (notBefore_eq_ok_iff.1 h).1⟩

theorem Finds.spaced (h : Finds text holds p) : Finds text holds (Parser.spaced p) :=
  (ends_takeWhile _).bind fun _ => h.bind fun _ found =>
    (ends_takeWhile _).bind fun _ => finds_pure found

/-! ### Repetitions -/

theorem Finds.many (h : Finds text holds p) :
    Finds text (fun as => ∀ a ∈ as, holds a) (Parser.many p) := by
  intro s as r hs read
  induction as generalizing s with
  | nil =>
    rcases many_eq_ok_iff.1 read with ⟨-, rfl, -⟩ | ⟨a, m, as, same, -⟩
    · exact ⟨hs, by simp⟩
    · simp at same
  | cons a as ih =>
    rcases many_eq_ok_iff.1 read with ⟨same, -⟩ | ⟨b, m, bs, same, hb, -, rest⟩
    · simp at same
    · obtain ⟨rfl, rfl⟩ := List.cons.inj same
      obtain ⟨hm, found⟩ := h hs hb
      obtain ⟨hr, others⟩ := ih hm rest
      exact ⟨hr, List.forall_mem_cons.2 ⟨found, others⟩⟩

theorem Finds.sepBy1 (h : Finds text holds p) {separator : Parser β} (between : Ends text separator) :
    Finds text (fun as => as ≠ [] ∧ ∀ a ∈ as, holds a) (Parser.sepBy1 p separator) :=
  h.bind fun _ found => Finds.bind (Finds.many (between.bind fun _ => h)) fun _ others =>
    finds_pure ⟨List.cons_ne_nil _ _, List.forall_mem_cons.2 ⟨found, others⟩⟩

theorem Finds.sepBy (h : Finds text holds p) {separator : Parser β} (between : Ends text separator) :
    Finds text (fun as => ∀ a ∈ as, holds a) (Parser.sepBy p separator) :=
  Finds.orElse ((h.sepBy1 between).mono fun _ found => found.2) (finds_pure (by simp))

end Verdict.Parser
