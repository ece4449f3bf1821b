import Verdict.Parser.Basic
import Mathlib.Data.List.TakeWhile
import Mathlib.Data.List.Infix

/-!
# What combined parsers report

For each way to combine parsers, this file says when the whole reads a text and when it misses.
`EndsRun set s` says that no character of the set continues a run in front of `s`; it is what the
parsers of runs need to know about the text behind the one that they read.
-/

namespace Verdict.Parser

variable {α β : Type} {p q : Parser α} {f : α → Parser β} {s r m here : List Char} {a : α} {b : β}

/-! ### Sequences -/

theorem bind_of_ok (h : p s = .ok a m) : (p >>= f) s = f a m := by
  rw [bind_apply, h]

theorem bind_of_miss (h : p s = .miss here) : (p >>= f) s = .miss here := by
  rw [bind_apply, h]

theorem bind_eq_ok_iff :
    (p >>= f) s = .ok b r ↔ ∃ a m, p s = .ok a m ∧ f a m = .ok b r := by
  rw [bind_apply]
  cases p s <;> simp

theorem bind_eq_abort_iff :
    (p >>= f) s = .abort here ↔
      p s = .abort here ∨ ∃ a m, p s = .ok a m ∧ f a m = .abort here := by
  rw [bind_apply]
  cases p s <;> simp

theorem map_apply {g : α → β} :
    (g <$> p) s = match p s with
      | .ok a r => .ok (g a) r
      | .miss here => .miss here
      | .abort here => .abort here := rfl

theorem map_eq_ok_iff {g : α → β} :
    (g <$> p) s = .ok b r ↔ ∃ a, p s = .ok a r ∧ g a = b := by
  rw [map_apply]
  cases p s <;> simp [and_comm]

theorem map_of_ok {g : α → β} (h : p s = .ok a r) : (g <$> p) s = .ok (g a) r :=
  map_eq_ok_iff.2 ⟨a, h, rfl⟩

/-- The parser recognises nothing in front of the text. -/
def Misses (p : Parser α) (s : List Char) : Prop :=
  ∃ here, p s = .miss here

instance : Decidable (Misses p s) :=
  match h : p s with
  | .ok _ _ => isFalse fun ⟨_, missed⟩ => by simp [h] at missed
  | .miss here => isTrue ⟨here, h⟩
  | .abort _ => isFalse fun ⟨_, missed⟩ => by simp [h] at missed

theorem Misses.bind (h : Misses p s) : Misses (p >>= f) s := by
  obtain ⟨here, h⟩ := h
  exact ⟨here, bind_of_miss h⟩

theorem misses_bind_of_ok (h : p s = .ok a m) : Misses (p >>= f) s ↔ Misses (f a) m := by
  unfold Misses
  rw [bind_of_ok h]

theorem misses_map_iff {g : α → β} : Misses (g <$> p) s ↔ Misses p s := by
  unfold Misses
  rw [map_apply]
  cases p s <;> simp

theorem Misses.ne_ok (h : Misses p s) : p s ≠ .ok a r := by
  obtain ⟨here, h⟩ := h
  simp [h]

/-! ### Alternatives -/

theorem orElse_apply :
    (p <|> q) s = match p s with
      | .miss _ => q s
      | reply => reply := rfl

theorem orElse_of_ok (h : p s = .ok a r) : (p <|> q) s = .ok a r := by
  rw [orElse_apply, h]

theorem orElse_of_misses (h : Misses p s) : (p <|> q) s = q s := by
  obtain ⟨here, h⟩ := h
  rw [orElse_apply, h]

theorem orElse_eq_ok_iff :
    (p <|> q) s = .ok a r ↔ p s = .ok a r ∨ Misses p s ∧ q s = .ok a r := by
  unfold Misses
  rw [orElse_apply]
  cases p s <;> simp

theorem orElse_eq_abort_iff :
    (p <|> q) s = .abort here ↔ p s = .abort here ∨ Misses p s ∧ q s = .abort here := by
  unfold Misses
  rw [orElse_apply]
  cases p s <;> simp

theorem misses_orElse_iff : Misses (p <|> q) s ↔ Misses p s ∧ Misses q s := by
  unfold Misses
  rw [orElse_apply]
  cases p s <;> simp

theorem Misses.orElse (hp : Misses p s) (hq : Misses q s) : Misses (p <|> q) s :=
  misses_orElse_iff.2 ⟨hp, hq⟩

/-! ### Runs of characters -/

/-- A run of characters of a set ends in front of the text. -/
def EndsRun (accepts : Char → Bool) (s : List Char) : Prop :=
  ∀ c ∈ s.head?, accepts c = false

variable {accepts : Char → Bool} {c : Char} {u : List Char}

@[simp] theorem endsRun_nil : EndsRun accepts [] := by
  simp [EndsRun]

@[simp] theorem endsRun_cons : EndsRun accepts (c :: s) ↔ accepts c = false := by
  simp [EndsRun]

theorem EndsRun.mono {set : Char → Bool} (h : EndsRun accepts s)
    (sub : ∀ c, set c = true → accepts c = true) : EndsRun set s := by
  intro c hc
  by_contra hn
  have := h c hc
  simp [sub c (by simpa using hn)] at this

theorem takeWhile_append (hu : ∀ c ∈ u, accepts c = true) (hs : EndsRun accepts s) :
    (u ++ s).takeWhile accepts = u := by
  rw [List.takeWhile_append_of_pos hu]
  cases s with
  | nil => simp
  | cons c s => simp [endsRun_cons.1 hs]

theorem dropWhile_append (hu : ∀ c ∈ u, accepts c = true) (hs : EndsRun accepts s) :
    (u ++ s).dropWhile accepts = s := by
  rw [List.dropWhile_append_of_pos hu]
  cases s with
  | nil => simp
  | cons c s => simp [endsRun_cons.1 hs]

theorem endsRun_dropWhile (accepts : Char → Bool) (s : List Char) :
    EndsRun accepts (s.dropWhile accepts) := by
  induction s with
  | nil => simp
  | cons c s ih =>
    rw [List.dropWhile_cons]
    split
    · exact ih
    · simp_all

/-- A run can be cut off a text in one way only. -/
theorem append_inj_of_endsRun {u' s' : List Char} (h : u ++ s = u' ++ s')
    (hu : ∀ c ∈ u, accepts c = true) (hu' : ∀ c ∈ u', accepts c = true)
    (hs : EndsRun accepts s) (hs' : EndsRun accepts s') : u = u' ∧ s = s' := by
  have h₁ := congrArg (List.takeWhile accepts) h
  rw [takeWhile_append hu hs, takeWhile_append hu' hs'] at h₁
  subst h₁
  exact ⟨rfl, List.append_cancel_left h⟩

/-! ### Characters -/

theorem satisfy_cons (h : accepts c = true) : satisfy accepts (c :: s) = .ok c s := by
  simp [satisfy, h]

theorem satisfy_eq_ok_iff :
    satisfy accepts s = .ok c r ↔ s = c :: r ∧ accepts c = true := by
  cases s with
  | nil => simp [satisfy]
  | cons d s =>
    rw [satisfy]
    constructor
    · intro h
      split at h <;> simp_all
    · rintro ⟨h, hc⟩
      simp_all

theorem misses_satisfy_iff : Misses (satisfy accepts) s ↔ EndsRun accepts s := by
  cases s with
  | nil => simp [Misses, satisfy]
  | cons d s => by_cases h : accepts d <;> simp [Misses, satisfy, h]

theorem satisfy_ne_abort : satisfy accepts s ≠ .abort here := by
  cases s with
  | nil => simp [satisfy]
  | cons d s => by_cases h : accepts d <;> simp [satisfy, h]

@[simp] theorem char_cons (c : Char) (s : List Char) : char c (c :: s) = .ok c s :=
  satisfy_cons (by simp)

theorem char_eq_ok_iff {d : Char} : char c s = .ok d r ↔ s = c :: r ∧ d = c := by
  unfold char
  rw [satisfy_eq_ok_iff]
  constructor
  · rintro ⟨rfl, h⟩
    simp_all
  · rintro ⟨rfl, rfl⟩
    simp

theorem misses_char_iff : Misses (char c) s ↔ s.head? ≠ some c := by
  unfold char
  rw [misses_satisfy_iff]
  cases s <;> simp

theorem misses_char_cons {d : Char} (h : d ≠ c) : Misses (char c) (d :: s) :=
  misses_char_iff.2 (by simpa using h)

theorem token_append (u s : List Char) : token u (u ++ s) = .ok () s := by
  simp [token]

theorem token_eq_ok_iff {x : Unit} : token u s = .ok x r ↔ s = u ++ r := by
  unfold token
  split
  · rename_i h
    obtain ⟨t, rfl⟩ := List.isPrefixOf_iff_prefix.1 h
    simp
  · rename_i h
    simp only [reduceCtorEq, false_iff]
    rintro rfl
    simp at h

theorem misses_token_iff : Misses (token u) s ↔ ¬ u <+: s := by
  rw [← List.isPrefixOf_iff_prefix]
  by_cases h : u.isPrefixOf s <;> simp [Misses, token, h]

theorem misses_token_cons {d : Char} (h : d ≠ c) : Misses (token (c :: u)) (d :: s) := by
  rw [misses_token_iff]
  intro hp
  exact h ((List.cons_prefix_cons.1 hp).1.symm)

theorem takeWhile_apply : takeWhile accepts s = .ok (s.takeWhile accepts) (s.dropWhile accepts) :=
  rfl

theorem takeWhile_run (hu : ∀ c ∈ u, accepts c = true) (hs : EndsRun accepts s) :
    takeWhile accepts (u ++ s) = .ok u s := by
  rw [takeWhile_apply, takeWhile_append hu hs, dropWhile_append hu hs]

theorem takeWhile_eq_ok_iff :
    takeWhile accepts s = .ok u r ↔
      s = u ++ r ∧ (∀ c ∈ u, accepts c = true) ∧ EndsRun accepts r := by
  constructor
  · intro h
    simp only [takeWhile_apply, Reply.ok.injEq] at h
    obtain ⟨rfl, rfl⟩ := h
    exact ⟨List.takeWhile_append_dropWhile.symm, fun c hc => List.mem_takeWhile_imp hc,
      endsRun_dropWhile _ _⟩
  · rintro ⟨rfl, hu, hr⟩
    exact takeWhile_run hu hr

theorem takeWhile1_eq_ok_iff :
    takeWhile1 accepts s = .ok u r ↔
      s = u ++ r ∧ u ≠ [] ∧ (∀ c ∈ u, accepts c = true) ∧ EndsRun accepts r := by
  unfold takeWhile1
  simp only [bind_eq_ok_iff, satisfy_eq_ok_iff, takeWhile_eq_ok_iff, pure_apply, Reply.ok.injEq]
  constructor
  · rintro ⟨c, m, ⟨rfl, hc⟩, u, _, ⟨rfl, hu, hr⟩, rfl, rfl⟩
    exact ⟨rfl, by simp, by simpa using ⟨hc, hu⟩, hr⟩
  · rintro ⟨rfl, hne, hu, hr⟩
    obtain ⟨c, u, rfl⟩ := List.exists_cons_of_ne_nil hne
    simp only [List.mem_cons, forall_eq_or_imp] at hu
    exact ⟨c, _, ⟨rfl, hu.1⟩, u, r, ⟨rfl, hu.2, hr⟩, rfl, rfl⟩

theorem misses_takeWhile1_iff : Misses (takeWhile1 accepts) s ↔ EndsRun accepts s := by
  unfold takeWhile1
  constructor
  · intro h
    by_contra hn
    rw [← misses_satisfy_iff] at hn
    cases hs : satisfy accepts s with
    | ok c m =>
      obtain ⟨here, h⟩ := (misses_bind_of_ok hs).1 h
      simp [bind_of_ok (takeWhile_apply (s := m))] at h
    | miss here => exact hn ⟨here, hs⟩
    | abort here => exact satisfy_ne_abort hs
  · intro h
    exact (misses_satisfy_iff.2 h).bind

theorem takeWhile1_ne_abort : takeWhile1 accepts s ≠ .abort here := by
  unfold takeWhile1
  rw [Ne, bind_eq_abort_iff]
  rintro (h | ⟨c, m, -, h⟩)
  · exact satisfy_ne_abort h
  · simp [bind_of_ok (takeWhile_apply (s := m))] at h

theorem notBefore_eq_ok_iff {x : Unit} :
    notBefore accepts s = .ok x r ↔ s = r ∧ EndsRun accepts s := by
  cases s with
  | nil => simp [notBefore]
  | cons c s => by_cases h : accepts c <;> simp [notBefore, h]

theorem misses_notBefore_iff : Misses (notBefore accepts) s ↔ ¬ EndsRun accepts s := by
  cases s with
  | nil => simp [notBefore, Misses]
  | cons c s => by_cases h : accepts c <;> simp [notBefore, Misses, h]

/-! ### Options -/

theorem optional_of_ok (h : p s = .ok a r) : optional p s = .ok (some a) r :=
  orElse_of_ok (map_of_ok h)

theorem optional_of_misses (h : Misses p s) : optional p s = .ok none s :=
  orElse_of_misses (misses_map_iff.2 h)

theorem optional_eq_ok_iff {o : Option α} :
    optional p s = .ok o r ↔
      (∃ a, o = some a ∧ p s = .ok a r) ∨ (o = none ∧ s = r ∧ Misses p s) := by
  change ((some <$> p) <|> (pure none : Parser (Option α))) s = _ ↔ _
  rw [orElse_eq_ok_iff, map_eq_ok_iff, misses_map_iff]
  aesop

/-! ### Repetitions -/

theorem many_of_misses (h : Misses p s) : many p s = .ok [] s := by
  obtain ⟨here, h⟩ := h
  rw [many_eq, h]

theorem many_of_ok {as : List α} (h : p s = .ok a m) (progress : m.length < s.length)
    (rest : many p m = .ok as r) : many p s = .ok (a :: as) r := by
  rw [many_eq, h]
  simp [progress, rest]

/-- A repetition ends where no further item is read, or where one would read nothing. -/
theorem many_eq_ok_iff {as : List α} :
    many p s = .ok as r ↔
      (as = [] ∧ s = r ∧ (Misses p s ∨ ∃ a m, p s = .ok a m ∧ s.length ≤ m.length)) ∨
      ∃ a m as', as = a :: as' ∧ p s = .ok a m ∧ m.length < s.length ∧ many p m = .ok as' r := by
  rw [many_eq]
  cases hp : p s with
  | miss here => simp [Misses, hp, eq_comm]
  | abort here => simp [Misses, hp]
  | ok a m =>
    simp only [Misses, hp, reduceCtorEq, exists_false, Reply.ok.injEq, false_or]
    by_cases progress : m.length < s.length
    · rw [if_pos progress]
      cases hm : many p m <;> grind
    · rw [if_neg progress]
      grind

theorem many_ne_miss : many p s ≠ .miss here := by
  induction hn : s.length using Nat.strong_induction_on generalizing s with
  | _ n ih =>
    rw [many_eq]
    cases hp : p s with
    | miss => simp
    | abort => simp
    | ok a m =>
      dsimp only
      split
      · rename_i progress
        have := ih m.length (by omega) (s := m) rfl
        cases hm : many p m <;> simp_all
      · simp

/-! ### Blanks -/

/-- The text behind the blanks in front. -/
def skip (s : List Char) : List Char :=
  s.dropWhile Text.isSpacing

/-- A text of blanks. -/
def Blank (w : List Char) : Prop :=
  ∀ c ∈ w, Text.isSpacing c = true

theorem isSpacing_cases (h : Text.isSpacing c = true) :
    c = ' ' ∨ c = '\t' ∨ c = '\r' ∨ c = '\n' := by
  simpa [Text.isSpacing, or_assoc] using h

theorem blank_nil : Blank [] := by
  simp [Blank]

theorem Blank.append {a b : List Char} (ha : Blank a) (hb : Blank b) : Blank (a ++ b) :=
  fun c hc => (List.mem_append.1 hc).elim (ha c) (hb c)

theorem skip_append {w : List Char} (hw : Blank w) : skip (w ++ s) = skip s :=
  List.dropWhile_append_of_pos hw

theorem skip_of_endsRun (h : EndsRun Text.isSpacing s) : skip s = s :=
  dropWhile_append (u := []) (by simp) h

theorem skip_cons (h : Text.isSpacing c = false) : skip (c :: s) = c :: s :=
  skip_of_endsRun (endsRun_cons.2 h)

theorem endsRun_skip (s : List Char) : EndsRun Text.isSpacing (skip s) :=
  endsRun_dropWhile _ _

theorem skip_skip (s : List Char) : skip (skip s) = skip s :=
  skip_of_endsRun (endsRun_skip s)

theorem exists_blank_append_skip (s : List Char) : ∃ w, Blank w ∧ s = w ++ skip s :=
  ⟨s.takeWhile Text.isSpacing, fun _ hc => List.mem_takeWhile_imp hc,
    List.takeWhile_append_dropWhile.symm⟩

theorem skip_suffix (s : List Char) : skip s <:+ s :=
  List.dropWhile_suffix _

theorem spaced_apply :
    spaced p s = match p (skip s) with
      | .ok a m => .ok a (skip m)
      | .miss here => .miss here
      | .abort here => .abort here := by
  unfold spaced
  rw [bind_of_ok (show spacing s = .ok (s.takeWhile Text.isSpacing) (skip s) from rfl), bind_apply]
  cases p (skip s) <;> rfl

theorem spaced_of_ok (h : p (skip s) = .ok a m) : spaced p s = .ok a (skip m) := by
  rw [spaced_apply, h]

theorem spaced_eq_ok_iff : spaced p s = .ok a r ↔ ∃ m, p (skip s) = .ok a m ∧ skip m = r := by
  rw [spaced_apply]
  cases p (skip s) <;> simp

theorem misses_spaced_iff : Misses (spaced p) s ↔ Misses p (skip s) := by
  unfold Misses
  rw [spaced_apply]
  cases p (skip s) <;> simp

theorem spaced_eq_abort_iff : spaced p s = .abort here ↔ p (skip s) = .abort here := by
  rw [spaced_apply]
  cases p (skip s) <;> simp

/-! ### Parsers that never break off -/

/-- The parser never finds a text broken. -/
def NeverAborts (p : Parser α) : Prop :=
  ∀ s here, p s ≠ .abort here

theorem neverAborts_pure (a : α) : NeverAborts (pure a : Parser α) := by
  intro s here
  simp

theorem neverAborts_never : NeverAborts (never : Parser α) := by
  intro s here
  simp [never]

theorem NeverAborts.bind (hp : NeverAborts p) (hf : ∀ a, NeverAborts (f a)) :
    NeverAborts (p >>= f) := by
  intro s here h
  rcases bind_eq_abort_iff.1 h with h | ⟨a, m, -, h⟩
  · exact hp s here h
  · exact hf a m here h

theorem NeverAborts.map {g : α → β} (hp : NeverAborts p) : NeverAborts (g <$> p) :=
  hp.bind fun _ => neverAborts_pure _

theorem NeverAborts.orElse (hp : NeverAborts p) (hq : NeverAborts q) : NeverAborts (p <|> q) := by
  intro s here h
  rcases orElse_eq_abort_iff.1 h with h | ⟨-, h⟩
  · exact hp s here h
  · exact hq s here h

theorem neverAborts_satisfy (accepts : Char → Bool) : NeverAborts (satisfy accepts) :=
  fun _ _ => satisfy_ne_abort

theorem neverAborts_char (c : Char) : NeverAborts (char c) :=
  neverAborts_satisfy _

theorem neverAborts_token (u : List Char) : NeverAborts (token u) := by
  intro s here
  unfold token
  split <;> simp

theorem neverAborts_takeWhile (accepts : Char → Bool) : NeverAborts (takeWhile accepts) := by
  intro s here
  simp [takeWhile_apply]

theorem neverAborts_takeWhile1 (accepts : Char → Bool) : NeverAborts (takeWhile1 accepts) :=
  fun _ _ => takeWhile1_ne_abort

theorem NeverAborts.optional (hp : NeverAborts p) : NeverAborts (Parser.optional p) :=
  hp.map.orElse (neverAborts_pure none)

theorem NeverAborts.spaced (hp : NeverAborts p) : NeverAborts (Parser.spaced p) :=
  fun _ _ h => hp _ _ (spaced_eq_abort_iff.1 h)

theorem NeverAborts.many (hp : NeverAborts p) : NeverAborts (Parser.many p) := by
  intro s here
  induction hn : s.length using Nat.strong_induction_on generalizing s with
  | _ n ih =>
    rw [many_eq]
    cases hs : p s with
    | miss => simp
    | abort => exact absurd hs (hp _ _)
    | ok a m =>
      dsimp only
      split
      · have := ih m.length (by omega) m rfl
        cases hm : Parser.many p m <;> simp_all
      · simp

end Verdict.Parser
