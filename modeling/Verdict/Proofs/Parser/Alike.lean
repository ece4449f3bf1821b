import Verdict.Proofs.Parser.Shortening

/-!
# Parsers on two texts at once

Two texts that differ only in places that do not matter are treated alike: parsers read something in
front of both, miss both or find both broken.  `Alike same` says this of two replies, where `same`
relates what is left.  `Local stop p q` says it of two parsers on texts that begin in the same way, up
to characters at which both parsers stop.
-/

namespace Verdict.Parser

variable {α β γ δ : Type} {same same' : List Char → List Char → Prop} {s t u x y : List Char}

/-- Two replies of one kind, which leave related texts. -/
inductive Alike (same : List Char → List Char → Prop) : Reply α → Reply β → Prop
  | ok {a : α} {b : β} {m n : List Char} (left : same m n) : Alike same (.ok a m) (.ok b n)
  | miss {here there : List Char} : Alike same (.miss here) (.miss there)
  | abort {here there : List Char} : Alike same (.abort here) (.abort there)

section Replies

variable {p p' : Parser α} {q q' : Parser β} {f : α → Parser γ} {g : β → Parser δ}

theorem alike_of_misses (hp : Misses p s) (hq : Misses q t) : Alike same (p s) (q t) := by
  obtain ⟨here, hp⟩ := hp
  obtain ⟨there, hq⟩ := hq
  rw [hp, hq]
  exact .miss

theorem Alike.misses_iff (h : Alike same (p s) (q t)) : Misses p s ↔ Misses q t := by
  unfold Misses
  cases hp : p s <;> cases hq : q t <;> rw [hp, hq] at h <;> cases h <;> simp

theorem Alike.mono {a : Reply α} {b : Reply β} (h : Alike same a b)
    (sub : ∀ m n, same m n → same' m n) : Alike same' a b := by
  cases h with
  | ok left => exact .ok (sub _ _ left)
  | miss => exact .miss
  | abort => exact .abort

theorem Alike.bind (h : Alike same (p s) (q t))
    (next : ∀ a b m n, same m n → Alike same' (f a m) (g b n)) :
    Alike same' ((p >>= f) s) ((q >>= g) t) := by
  rw [bind_apply, bind_apply]
  cases hp : p s <;> cases hq : q t <;> rw [hp, hq] at h <;> cases h
  case ok.ok.ok a m b n left => exact next a b m n left
  case miss.miss.miss => exact .miss
  case abort.abort.abort => exact .abort

theorem Alike.orElse (h : Alike same (p s) (q t))
    (other : Misses p s → Misses q t → Alike same (p' s) (q' t)) :
    Alike same ((p <|> p') s) ((q <|> q') t) := by
  rw [orElse_apply, orElse_apply]
  cases hp : p s <;> cases hq : q t <;> rw [hp, hq] at h <;> cases h
  case ok.ok.ok left => exact .ok left
  case miss.miss.miss here there => exact other ⟨here, hp⟩ ⟨there, hq⟩
  case abort.abort.abort => exact .abort

theorem Alike.spaced (h : Alike same (p (skip s)) (q (skip t)))
    (behind : ∀ m n, same m n → same' (skip m) (skip n)) :
    Alike same' (Parser.spaced p s) (Parser.spaced q t) := by
  rw [spaced_apply, spaced_apply]
  cases hp : p (skip s) <;> cases hq : q (skip t) <;> rw [hp, hq] at h <;> cases h
  case ok.ok.ok left => exact .ok (behind _ _ left)
  case miss.miss.miss => exact .miss
  case abort.abort.abort => exact .abort

/-- A repetition is alike if each of its items is. -/
theorem Alike.many (hp : Consumes p) (hq : Consumes q)
    (step : ∀ s t, same s t → Alike same (p s) (q t)) (h : same s t) :
    Alike same (Parser.many p s) (Parser.many q t) := by
  induction hk : s.length using Nat.strong_induction_on generalizing s t with
  | _ k ih =>
    have one := step s t h
    rw [many_eq, many_eq]
    cases hps : p s <;> cases hqt : q t <;> rw [hps, hqt] at one <;> cases one
    case ok.ok.ok a m b n left =>
      have rest := ih m.length (hk ▸ hp hps) left rfl
      dsimp only
      rw [if_pos (hp hps), if_pos (hq hqt)]
      cases hm : Parser.many p m <;> cases hn : Parser.many q n <;> rw [hm, hn] at rest <;>
        cases rest
      case ok.ok.ok left => exact .ok left
      case miss.miss.miss => exact .miss
      case abort.abort.abort => exact .abort
    case miss.miss.miss => exact .ok h
    case abort.abort.abort => exact .abort

theorem Alike.sepBy1_of_misses {separator : Parser γ} {separator' : Parser δ}
    (h : Alike same (p s) (q t))
    (finished : ∀ m n, same m n → Misses separator m ∧ Misses separator' n) :
    Alike same (Parser.sepBy1 p separator s) (Parser.sepBy1 q separator' t) := by
  refine h.bind fun a b m n left => ?_
  obtain ⟨hm, hn⟩ := finished m n left
  rw [bind_of_ok (many_of_misses hm.bind), bind_of_ok (many_of_misses hn.bind)]
  exact .ok left

end Replies

/-! ### A common beginning -/

/-- The texts begin with the same end of `u`, and go on with `x` and with `y`. -/
def Shared (u x y m n : List Char) : Prop :=
  ∃ v, v <:+ u ∧ m = v ++ x ∧ n = v ++ y

/-- The text begins with a character of the set. -/
def Stops (stop : Char → Bool) (x : List Char) : Prop :=
  ∃ c ∈ x.head?, stop c = true

/-- The parsers treat texts alike that begin in the same way, up to a character of the set. -/
def Local (stop : Char → Bool) (p : Parser α) (q : Parser β) : Prop :=
  ∀ u x y, Stops stop x → Stops stop y → Alike (Shared u x y) (p (u ++ x)) (q (u ++ y))

section Local

variable {stop accepts : Char → Bool} {p p' : Parser α} {q q' : Parser β} {f : α → Parser γ}
  {g : β → Parser δ}

theorem Stops.endsRun (h : Stops stop x) (apart : ∀ c, stop c = true → accepts c = false) :
    EndsRun accepts x := by
  obtain ⟨c, hc, hs⟩ := h
  intro d hd
  rw [Option.mem_unique hd hc]
  exact apart c hs

theorem local_pure (a : α) (b : β) : Local stop (pure a : Parser α) (pure b : Parser β) :=
  fun u _ _ _ _ => .ok ⟨u, List.suffix_refl u, rfl, rfl⟩

theorem Local.bind (h : Local stop p q) (next : ∀ a b, Local stop (f a) (g b)) :
    Local stop (p >>= f) (q >>= g) := by
  intro u x y hx hy
  refine (h u x y hx hy).bind ?_
  rintro a b _ _ ⟨v, hv, rfl, rfl⟩
  have behind := next a b v x y hx hy
  cases hp : f a (v ++ x) <;> cases hq : g b (v ++ y) <;> rw [hp, hq] at behind <;> cases behind
  case ok.ok.ok left =>
    obtain ⟨w, hw, hm, hn⟩ := left
    exact .ok ⟨w, hw.trans hv, hm, hn⟩
  case miss.miss.miss => exact .miss
  case abort.abort.abort => exact .abort

theorem Local.map {f : α → γ} {g : β → δ} (h : Local stop p q) : Local stop (f <$> p) (g <$> q) :=
  h.bind fun _ _ => local_pure _ _

theorem Local.orElse (h : Local stop p q) (h' : Local stop p' q') :
    Local stop (p <|> p') (q <|> q') :=
  fun u x y hx hy => (h u x y hx hy).orElse fun _ _ => h' u x y hx hy

theorem Local.optional (h : Local stop p q) :
    Local stop (Parser.optional p) (Parser.optional q) :=
  h.map.orElse (local_pure none none)

theorem local_satisfy (apart : ∀ c, stop c = true → accepts c = false) :
    Local stop (satisfy accepts) (satisfy accepts) := by
  intro u x y hx hy
  cases u with
  | nil =>
    exact alike_of_misses (misses_satisfy_iff.2 (hx.endsRun apart))
      (misses_satisfy_iff.2 (hy.endsRun apart))
  | cons c u =>
    by_cases hc : accepts c = true
    · rw [List.cons_append, List.cons_append, satisfy_cons hc, satisfy_cons hc]
      exact .ok ⟨u, List.suffix_cons c u, rfl, rfl⟩
    · have ends (s : List Char) : EndsRun accepts (c :: s) := endsRun_cons.2 (by simpa using hc)
      exact alike_of_misses (misses_satisfy_iff.2 (ends _)) (misses_satisfy_iff.2 (ends _))

theorem local_takeWhile (apart : ∀ c, stop c = true → accepts c = false) :
    Local stop (takeWhile accepts) (takeWhile accepts) := by
  intro u x y hx hy
  have cut {z : List Char} (hz : Stops stop z) :
      takeWhile accepts (u ++ z) = .ok (u.takeWhile accepts) (u.dropWhile accepts ++ z) := by
    have split : u ++ z = u.takeWhile accepts ++ (u.dropWhile accepts ++ z) := by
      rw [← List.append_assoc, List.takeWhile_append_dropWhile]
    rw [split]
    refine takeWhile_run (fun c hc => List.mem_takeWhile_imp hc) ?_
    cases hd : u.dropWhile accepts with
    | nil => exact hz.endsRun apart
    | cons c v =>
      have := endsRun_dropWhile accepts u
      rw [hd] at this
      exact endsRun_cons.2 (endsRun_cons.1 this)
  rw [cut hx, cut hy]
  exact .ok ⟨u.dropWhile accepts, List.dropWhile_suffix _, rfl, rfl⟩

theorem local_takeWhile1 (apart : ∀ c, stop c = true → accepts c = false) :
    Local stop (takeWhile1 accepts) (takeWhile1 accepts) :=
  (local_satisfy apart).bind fun _ _ => (local_takeWhile apart).bind fun _ _ => local_pure _ _

end Local

end Verdict.Parser
