import Verdict.Proofs.Rule.Number
import Verdict.Proofs.Text.Blank

/-!
# Reading words, strings, paths and names

Each token is read as it is written, as long as what stands behind does not go on with it.
-/

namespace Verdict.Rule

open Verdict.Parser

variable {s r u : List Char}

/-! ### Words -/

/-- The characters that continue a word. -/
def isWordChar (c : Char) : Bool :=
  Text.isAlphanumeric c || c == '_'

theorem keyword_eq_ok_iff {word : List Char} {x : Unit} :
    keyword word s = .ok x r ↔ s = word ++ r ∧ EndsRun isWordChar r := by
  change (token word >>= fun _ => notBefore isWordChar) s = _ ↔ _
  simp only [bind_eq_ok_iff, token_eq_ok_iff, notBefore_eq_ok_iff]
  constructor
  · rintro ⟨_, m, rfl, rfl, hr⟩
    exact ⟨rfl, hr⟩
  · rintro ⟨rfl, hr⟩
    exact ⟨(), r, rfl, rfl, hr⟩

theorem keyword_run (word : List Char) (hr : EndsRun isWordChar r) :
    keyword word (word ++ r) = .ok () r :=
  keyword_eq_ok_iff.2 ⟨rfl, hr⟩

theorem neverAborts_keyword (word : List Char) : NeverAborts (keyword word) := by
  refine (neverAborts_token word).bind fun _ s here => ?_
  cases s with
  | nil => simp [notBefore]
  | cons c s =>
    rw [notBefore]
    split <;> simp

theorem misses_keyword_cons {c d : Char} {word : List Char} (h : d ≠ c) :
    Misses (keyword (c :: word)) (d :: s) :=
  (misses_token_cons h).bind

/-- A parser that never breaks off misses unless it reads something. -/
theorem misses_of_ne_ok {α : Type} {p : Parser α} (hp : NeverAborts p)
    (h : ∀ a r, p s ≠ .ok a r) : Misses p s := by
  cases hs : p s with
  | ok a r => exact absurd hs (h a r)
  | miss here => exact ⟨here, hs⟩
  | abort here => exact absurd hs (hp s here)

theorem isWordChar_of_isNameChar {c : Char} (h : Function.isNameChar c = true) :
    isWordChar c = true ∨ c = '.' := by
  simp only [Function.isNameChar, Bool.or_eq_true, beq_iff_eq] at h
  rcases h with (h | h) | h
  · simp [isWordChar, Text.isAlphanumeric_of_isAlphanum h]
  · simp [isWordChar, h]
  · exact .inr h

/-- A word is not read in front of a name that goes on with it, or that is another one. -/
theorem misses_keyword_name {word name : List Char} (hn : ∀ c ∈ name, Function.isNameChar c = true)
    (hw : word.all fun c => Function.isNameChar c && c != '.') (hs : stem name ≠ word)
    (hr : EndsRun Function.isNameChar r) : Misses (keyword word) (name ++ r) := by
  have hw : ∀ c ∈ word, Function.isNameChar c = true ∧ (c != '.') = true := by simpa using hw
  refine misses_of_ne_ok (neverAborts_keyword word) fun _ t h => hs ?_
  obtain ⟨h, ht⟩ := keyword_eq_ok_iff.1 h
  have split : name = word ++ t.takeWhile Function.isNameChar := by
    have := congrArg (List.takeWhile Function.isNameChar) h
    rw [takeWhile_append hn hr, List.takeWhile_append_of_pos fun c hc => (hw c hc).1] at this
    exact this
  have behind : (t.takeWhile Function.isNameChar).takeWhile (· != '.') = [] := by
    cases t with
    | nil => rfl
    | cons c t =>
      by_cases hc : Function.isNameChar c = true
      · have point := (isWordChar_of_isNameChar hc).resolve_left (by simpa using endsRun_cons.1 ht)
        subst point
        simp [hc]
      · simp [hc]
  rw [stem, split, List.takeWhile_append_of_pos fun c hc => (hw c hc).2, behind, List.append_nil]

/-! ### Constants -/

theorem constant_eq_ok_iff {l : Literal} :
    constant s = .ok l r ↔ EndsRun isWordChar r ∧
      (s = ['n', 'u', 'l', 'l'] ++ r ∧ l = .null ∨
        s = ['t', 'r', 'u', 'e'] ++ r ∧ l = .bool true ∨
        s = ['f', 'a', 'l', 's', 'e'] ++ r ∧ l = .bool false) := by
  have one {word : List Char} {l' : Literal} :
      (do keyword word; return l' : Parser Literal) s = .ok l r ↔
        (s = word ++ r ∧ EndsRun isWordChar r) ∧ l = l' := by
    simp only [bind_eq_ok_iff, keyword_eq_ok_iff, pure_apply, Reply.ok.injEq]
    constructor
    · rintro ⟨_, m, ⟨rfl, hm⟩, rfl, rfl⟩
      exact ⟨⟨rfl, hm⟩, rfl⟩
    · rintro ⟨⟨rfl, hr⟩, rfl⟩
      exact ⟨(), r, ⟨rfl, hr⟩, rfl, rfl⟩
  have other {c d : Char} {word t : List Char} {l : Literal} (h : d ≠ c) :
      Misses (do keyword (c :: word); return l : Parser Literal) (d :: t) :=
    (misses_keyword_cons h).bind
  unfold constant
  simp only [orElse_eq_ok_iff, one]
  constructor
  · rintro (⟨⟨hs, hr⟩, hl⟩ | ⟨-, ⟨⟨hs, hr⟩, hl⟩ | ⟨-, ⟨hs, hr⟩, hl⟩⟩)
    · exact ⟨hr, .inl ⟨hs, hl⟩⟩
    · exact ⟨hr, .inr (.inl ⟨hs, hl⟩)⟩
    · exact ⟨hr, .inr (.inr ⟨hs, hl⟩)⟩
  · rintro ⟨hr, ⟨rfl, hl⟩ | ⟨rfl, hl⟩ | ⟨rfl, hl⟩⟩
    · exact .inl ⟨⟨rfl, hr⟩, hl⟩
    · exact .inr ⟨other (by decide), .inl ⟨⟨rfl, hr⟩, hl⟩⟩
    · exact .inr ⟨other (by decide), .inr ⟨other (by decide), ⟨rfl, hr⟩, hl⟩⟩

theorem misses_constant_cons {c : Char} (h : c ∉ ['n', 't', 'f']) : Misses constant (c :: s) := by
  simp only [List.mem_cons, List.not_mem_nil, or_false, not_or] at h
  exact (misses_keyword_cons h.1).bind.orElse
    ((misses_keyword_cons h.2.1).bind.orElse (misses_keyword_cons h.2.2).bind)

theorem misses_constant_name {name : List Char} (h : CallName name)
    (hr : EndsRun Function.isNameChar r) : Misses constant (name ++ r) := by
  have other (word : List Char) (hw : word.all fun c => Function.isNameChar c && c != '.')
      (hs : stem name ≠ word) (l : Literal) :
      Misses (do keyword word; return l : Parser Literal) (name ++ r) :=
    (misses_keyword_name h.plain hw hs hr).bind
  have hs := h.noConstant
  simp only [List.mem_cons, List.not_mem_nil, or_false, not_or] at hs
  exact (other _ (by decide) hs.1 _).orElse
    ((other _ (by decide) hs.2.1 _).orElse (other _ (by decide) hs.2.2 _))

/-! ### Strings -/

theorem quotedText_run {quote : Char} (hq : quote ≠ '\\') (parts : List (Bool × Char))
    (plain : ∀ part ∈ parts, part.1 = false → part.2 ≠ quote ∧ part.2 ≠ '\\') :
    quotedText quote (parts.flatMap StringText.partText ++ quote :: r) =
      some (parts.map Prod.snd, quote :: r) := by
  induction parts with
  | nil =>
    rw [List.flatMap_nil, List.nil_append, quotedText.eq_def]
    simp
  | cons part parts ih =>
    have ih := ih fun p hp => plain p (List.mem_cons_of_mem part hp)
    rcases part with ⟨escaped, c⟩
    cases escaped with
    | true =>
      rw [List.flatMap_cons, StringText.partText, if_pos rfl]
      simp [quotedText, Ne.symm hq, ih]
    | false =>
      obtain ⟨hc, hb⟩ := plain (false, c) (by simp) rfl
      have one : StringText.partText (false, c) = [c] := rfl
      rw [List.flatMap_cons, one, List.append_assoc, List.singleton_append, quotedText.eq_def]
      simp only [if_neg hc, if_neg hb, ih]
      rfl

theorem quotedText_of_some {quote : Char} (h : quotedText quote s = some (u, r)) :
    ∃ parts : List (Bool × Char), s = parts.flatMap StringText.partText ++ r ∧
      r.head? = some quote ∧ (∀ part ∈ parts, part.1 = false → part.2 ≠ quote ∧ part.2 ≠ '\\') ∧
      u = parts.map Prod.snd := by
  fun_induction quotedText quote s generalizing u r with
  | case1 => simp at h
  | case2 s =>
    simp only [Option.some.injEq, Prod.mk.injEq] at h
    obtain ⟨rfl, rfl⟩ := h
    exact ⟨[], rfl, rfl, by simp, rfl⟩
  | case3 => simp at h
  | case4 d hd s ih =>
    simp only [Option.map_eq_some_iff, Prod.mk.injEq, Prod.exists] at h
    obtain ⟨u, r, h, rfl, rfl⟩ := h
    obtain ⟨parts, rfl, hr, plain, rfl⟩ := ih h
    exact ⟨(true, d) :: parts, rfl, hr, by simpa using plain, rfl⟩
  | case5 c s hq hb ih =>
    simp only [Option.map_eq_some_iff, Prod.mk.injEq, Prod.exists] at h
    obtain ⟨u, r, h, rfl, rfl⟩ := h
    obtain ⟨parts, rfl, hr, plain, rfl⟩ := ih h
    refine ⟨(false, c) :: parts, rfl, hr, ?_, rfl⟩
    intro part mem
    rcases List.mem_cons.1 mem with rfl | mem
    · exact fun _ => ⟨hq, hb⟩
    · exact plain part mem

/-- The text up to a quote. -/
def upToQuote (quote : Char) : Parser (List Char) := fun s =>
  match quotedText quote s with
  | some (text, rest) => .ok text rest
  | none => .miss s

theorem quotedBy_eq (quote : Char) :
    quotedBy quote = (do
      let _ ← char quote
      let text ← upToQuote quote
      let _ ← char quote
      return .string (String.ofList text)) := rfl

theorem upToQuote_eq_ok_iff {quote : Char} :
    upToQuote quote s = .ok u r ↔ quotedText quote s = some (u, r) := by
  unfold upToQuote
  rcases quotedText quote s with _ | ⟨u', r'⟩ <;> simp

theorem quotedBy_run {quote : Char} (hq : quote ≠ '\\') (parts : List (Bool × Char))
    (plain : ∀ part ∈ parts, part.1 = false → part.2 ≠ quote ∧ part.2 ≠ '\\') :
    quotedBy quote (quote :: (parts.flatMap StringText.partText ++ quote :: r)) =
      .ok (.string (String.ofList (parts.map Prod.snd))) r := by
  rw [quotedBy_eq, bind_of_ok (char_cons quote _),
    bind_of_ok (upToQuote_eq_ok_iff.2 (quotedText_run hq parts plain)),
    bind_of_ok (char_cons quote r), pure_apply]

theorem misses_quotedBy_cons {quote c : Char} (h : c ≠ quote) :
    Misses (quotedBy quote) (c :: s) :=
  (misses_char_cons h).bind

theorem misses_string_cons {c : Char} (h : c ≠ '\'') (h' : c ≠ '"') : Misses string (c :: s) :=
  (misses_quotedBy_cons h).orElse (misses_quotedBy_cons h')

/-- A string is read as it is written, whatever stands behind. -/
theorem string_run (t : StringText) : string (t.text ++ r) = .ok (.string t.value) r := by
  obtain ⟨quote, parts, isQuote, plain⟩ := t
  have text : (StringText.mk quote parts isQuote plain).text ++ r =
      quote :: (parts.flatMap StringText.partText ++ quote :: r) := by
    simp [StringText.text]
  rw [text]
  rcases isQuote with rfl | rfl
  · exact orElse_of_ok (quotedBy_run (by decide) parts plain)
  · exact (orElse_of_misses (misses_quotedBy_cons (by decide))).trans
      (quotedBy_run (by decide) parts plain)

/-- Whatever is read as a string is one. -/
theorem string_of_ok {l : Literal} (h : string s = .ok l r) :
    ∃ t : StringText, s = t.text ++ r ∧ l = .string t.value := by
  have one {quote : Char} (isQuote : quote = '\'' ∨ quote = '"') (h : quotedBy quote s = .ok l r) :
      ∃ t : StringText, s = t.text ++ r ∧ l = .string t.value := by
    rw [quotedBy_eq] at h
    simp only [bind_eq_ok_iff, char_eq_ok_iff, upToQuote_eq_ok_iff, pure_apply,
      Reply.ok.injEq] at h
    obtain ⟨_, m, ⟨rfl, -⟩, u, m', ht, _, _, ⟨rfl, -⟩, rfl, rfl⟩ := h
    obtain ⟨parts, rfl, -, plain, rfl⟩ := quotedText_of_some ht
    exact ⟨⟨quote, parts, isQuote, plain⟩, by simp [StringText.text], rfl⟩
  rcases orElse_eq_ok_iff.1 h with h | ⟨-, h⟩
  · exact one (.inl rfl) h
  · exact one (.inr rfl) h

/-! ### Paths -/

theorem read_eq_ok_iff {α : Type} {p : Parser α} :
    read p s = .ok u r ↔ ∃ a, p s = .ok a r ∧ u = s.take (s.length - r.length) := by
  unfold Parser.read
  cases p s with
  | ok a m =>
    simp only [Reply.ok.injEq]
    constructor
    · rintro ⟨rfl, rfl⟩
      exact ⟨a, ⟨rfl, rfl⟩, rfl⟩
    · rintro ⟨_, ⟨rfl, rfl⟩, rfl⟩
      exact ⟨rfl, rfl⟩
  | miss here => simp
  | abort here => simp

theorem misses_read {α : Type} {p : Parser α} (h : Misses p s) : Misses (read p) s := by
  obtain ⟨here, h⟩ := h
  refine ⟨here, ?_⟩
  simp [Parser.read, h]

theorem misses_pointer_cons {c : Char} (h : c ≠ '/') : Misses pointer (c :: s) :=
  (misses_char_cons h).bind

theorem misses_path_cons {c : Char} (h : c ≠ '$') (h' : c ≠ '/') : Misses path (c :: s) := by
  refine Misses.bind ((misses_read ?_).orElse (misses_pointer_cons h'))
  exact (misses_char_cons h).bind

/-- A path is read as it is written, unless a segment or the name at its end goes on. -/
theorem path_append {p : Path} (hu : Path.path u = .ok p []) (hr : EndsRun Path.isNameChar r)
    (finished : Misses Path.segment r) : Path.path (u ++ r) = .ok p r := by
  obtain ⟨d, rfl, rfl⟩ := Path.derivation_of_path hu
  rw [List.append_nil, Path.Derivation.text, List.cons_append, Path.path_cons]
  exact Path.many_segment_run d hr finished

theorem path_run {p : Path} (hu : Path.path u = .ok p []) (hr : EndsRun Path.isNameChar r)
    (finished : Misses Path.segment r) : path (u ++ r) = .ok (.path (String.ofList u)) r := by
  have read : read Path.path (u ++ r) = .ok u r :=
    read_eq_ok_iff.2 ⟨p, path_append hu hr finished, by simp⟩
  unfold path
  rw [bind_of_ok (orElse_of_ok read), pure_apply]

theorem pointer_run (hu : ∀ c ∈ u, endsPointer c = false) (hr : ∀ c ∈ r.head?, endsPointer c = true) :
    path ('/' :: (u ++ r)) = .ok (.path (String.ofList ('/' :: u))) r := by
  have dollar : Misses (read Path.path) ('/' :: (u ++ r)) :=
    misses_read (misses_char_cons (by decide)).bind
  have rest : takeWhile (fun c => !endsPointer c) (u ++ r) = .ok u r :=
    takeWhile_run (by simpa using hu) fun c hc => by simp [hr c hc]
  have slash : pointer ('/' :: (u ++ r)) = .ok ('/' :: u) r := by
    unfold pointer
    rw [bind_of_ok (char_cons '/' _), bind_of_ok rest, pure_apply]
  unfold path
  rw [bind_of_ok ((orElse_of_misses dollar).trans slash), pure_apply]

/-- Whatever is read as a path is one, or a JSON Pointer. -/
theorem path_of_ok {t : Term} (h : path s = .ok t r) :
    ∃ u, s = u ++ r ∧ t = .path (String.ofList u) ∧
      ((∃ p, Path.path u = .ok p []) ∨
        ∃ v, u = '/' :: v ∧ ∀ c ∈ v, endsPointer c = false) := by
  unfold path at h
  simp only [bind_eq_ok_iff, orElse_eq_ok_iff, read_eq_ok_iff, pure_apply, Reply.ok.injEq] at h
  obtain ⟨u, m, ⟨p, hp, rfl⟩ | ⟨-, hu⟩, rfl, rfl⟩ := h
  · obtain ⟨d, rfl, rfl⟩ := Path.derivation_of_path hp
    exact ⟨d.text, rfl, by simp, .inl ⟨_, Path.path_run d⟩⟩
  · unfold pointer at hu
    simp only [bind_eq_ok_iff, char_eq_ok_iff, takeWhile_eq_ok_iff, pure_apply, Reply.ok.injEq] at hu
    obtain ⟨_, _, ⟨rfl, rfl⟩, v, _, ⟨rfl, hv, -⟩, rfl, rfl⟩ := hu
    exact ⟨'/' :: v, rfl, rfl, .inr ⟨v, rfl, by simpa using hv⟩⟩

/-! ### Names -/

theorem functionName_eq_ok_iff :
    functionName s = .ok u r ↔
      s = u ++ r ∧ u ≠ [] ∧ (∀ c ∈ u.head?, Function.isNameStart c = true) ∧
        (∀ c ∈ u.tail, Function.isNameChar c = true) ∧ EndsRun Function.isNameChar r := by
  unfold functionName
  simp only [bind_eq_ok_iff, satisfy_eq_ok_iff, takeWhile_eq_ok_iff, pure_apply, Reply.ok.injEq]
  constructor
  · rintro ⟨c, m, ⟨rfl, hc⟩, u, _, ⟨rfl, hu, hr⟩, rfl, rfl⟩
    exact ⟨rfl, by simp, by simpa using hc, hu, hr⟩
  · rintro ⟨rfl, hne, hc, hu, hr⟩
    obtain ⟨c, u, rfl⟩ := List.exists_cons_of_ne_nil hne
    exact ⟨c, u ++ r, ⟨rfl, hc c rfl⟩, u, r, ⟨rfl, hu, hr⟩, rfl, rfl⟩

theorem misses_functionName_cons {c : Char} (h : Function.isNameStart c = false) :
    Misses functionName (c :: s) :=
  (misses_satisfy_iff.2 (endsRun_cons.2 h)).bind

theorem isNameChar_of_isNameStart {c : Char} (h : Function.isNameStart c = true) :
    Function.isNameChar c = true := by
  simp only [Function.isNameStart, Bool.or_eq_true, beq_iff_eq] at h
  rcases h with h | rfl
  · simp [Function.isNameChar, Char.isAlphanum, h]
  · rfl

end Verdict.Rule
