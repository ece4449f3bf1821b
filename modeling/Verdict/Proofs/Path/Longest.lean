import Verdict.Proofs.Path.Reading

/-!
# The longest path in front of a text

The parser of paths reads the longest text that the grammar derives in front of a text, and what it
returns is the path of the only derivation of that text.  Both come from the step: a text can be cut
into steps in one way only, apart from where a last name is cut off.
-/

namespace Verdict.Path

open Verdict.Parser

variable {s r m here : List Char}

/-! ### Repeated segments -/

theorem step_length_pos (step : Step) : 0 < step.text.length := by
  cases step with
  | star deep => simp [Step.text]
  | name deep key nonempty plain => cases deep <;> simp [Step.text, Step.points]
  | bracket deep before inner after hb ha =>
    simp only [Step.text, List.length_append, List.length_cons]
    omega

/-- A step that comes behind a name never goes on with that name. -/
theorem endsRun_step (step : Step) : EndsRun isNameChar (step.text ++ r) := by
  cases step with
  | star deep => cases deep <;> exact endsRun_cons.2 (by decide)
  | name deep key nonempty plain => cases deep <;> exact endsRun_cons.2 (by decide)
  | bracket deep before inner after hb ha => cases deep <;> exact endsRun_cons.2 (by decide)

theorem endsRun_body {d : Derivation} (hr : EndsRun isNameChar r) :
    EndsRun isNameChar (Derivation.body d ++ r) := by
  cases d with
  | nil => exact hr
  | cons step d =>
    rw [Derivation.body_cons, List.append_assoc]
    exact endsRun_step step

theorem many_segment_eq_ok_iff {segments : Path} :
    many segment s = .ok segments r ↔
      (segments = [] ∧ s = r ∧ Misses segment s) ∨
      ∃ x m rest, segments = x :: rest ∧ segment s = .ok x m ∧ many segment m = .ok rest r := by
  have progress {x : Segment} {m : List Char} (h : segment s = .ok x m) :
      m.length < s.length := by
    obtain ⟨step, rfl, -⟩ := segment_of_ok h
    have := step_length_pos step
    rw [List.length_append]
    omega
  constructor
  · intro h
    rcases many_eq_ok_iff.1 h with ⟨rfl, rfl, h | ⟨x, m, hx, hm⟩⟩ | ⟨x, m, rest, rfl, hx, -, hm⟩
    · exact .inl ⟨rfl, rfl, h⟩
    · have := progress hx
      omega
    · exact .inr ⟨x, m, rest, rfl, hx, hm⟩
  · rintro (⟨rfl, rfl, h⟩ | ⟨x, m, rest, rfl, hx, hm⟩)
    · exact many_of_misses h
    · exact many_of_ok hx (progress hx) hm

theorem body_of_many {segments : Path} (h : many segment s = .ok segments r) :
    ∃ d : Derivation, s = Derivation.body d ++ r ∧ Derivation.path d = segments := by
  induction segments generalizing s with
  | nil =>
    rcases many_segment_eq_ok_iff.1 h with ⟨-, rfl, -⟩ | ⟨x, m, rest, h, -⟩
    · exact ⟨[], rfl, rfl⟩
    · simp at h
  | cons x segments ih =>
    rcases many_segment_eq_ok_iff.1 h with ⟨h, -⟩ | ⟨x, m, rest, h, hx, hm⟩
    · simp at h
    · obtain ⟨rfl, rfl⟩ := List.cons.inj h
      obtain ⟨step, rfl, rfl, -⟩ := segment_of_ok hx
      obtain ⟨d, rfl, rfl⟩ := ih hm
      exact ⟨step :: d, by simp, rfl⟩

/-- A derived text is read as it is derived, if nothing goes on behind it. -/
theorem many_segment_run (d : Derivation) (hr : EndsRun isNameChar r) (finished : Misses segment r) :
    many segment (Derivation.body d ++ r) = .ok (Derivation.path d) r := by
  induction d with
  | nil => exact many_of_misses finished
  | cons step d ih =>
    rw [Derivation.body_cons, List.append_assoc]
    exact many_segment_eq_ok_iff.2
      (.inr ⟨_, _, _, rfl, segment_run step fun _ => endsRun_body hr, ih⟩)

/-- A name that goes on behind a step can be made part of it. -/
theorem exists_step_of_not_endsRun (step : Step) (open_ : step.isOpen = true) :
    ∃ (longer : Step) (rest : List Char), step.text ++ m = longer.text ++ rest ∧
      EndsRun isNameChar rest ∧ rest.length ≤ m.length := by
  cases step with
  | star deep => simp [Step.isOpen] at open_
  | bracket deep before inner after hb ha => simp [Step.isOpen] at open_
  | name deep key nonempty plain =>
    have all : ∀ c ∈ key ++ m.takeWhile isNameChar, isNameChar c = true := by
      intro c hc
      rcases List.mem_append.1 hc with hc | hc
      · exact plain c hc
      · exact List.mem_takeWhile_imp hc
    refine ⟨.name deep (key ++ m.takeWhile isNameChar) (by simp [nonempty]) all,
      m.dropWhile isNameChar, ?_, endsRun_dropWhile _ _, ?_⟩
    · simp [Step.text]
    · exact (List.dropWhile_suffix _).length_le

/-- No derivation of a text in front is longer than what is read. -/
theorem length_le_of_many {d : Derivation} {segments : Path}
    (h : many segment (Derivation.body d ++ m) = .ok segments r) : r.length ≤ m.length := by
  have short {t : List Char} {rest : Path} (h : many segment t = .ok rest r) :
      r.length ≤ t.length := by
    obtain ⟨d, rfl, -⟩ := body_of_many h
    simp
  induction d generalizing segments with
  | nil => exact short h
  | cons step d ih =>
    rw [Derivation.body_cons, List.append_assoc] at h
    have next {longer : Step} {rest : List Char}
        (same : step.text ++ (Derivation.body d ++ m) = longer.text ++ rest)
        (hr : longer.isOpen = true → EndsRun isNameChar rest) :
        ∃ tail, many segment rest = .ok tail r := by
      have hx := segment_run longer hr
      rw [← same] at hx
      rcases many_segment_eq_ok_iff.1 h with ⟨-, -, h⟩ | ⟨x, t, tail, -, ht, h⟩
      · exact absurd hx h.ne_ok
      · rw [hx] at ht
        obtain ⟨-, rfl⟩ := Reply.ok.inj ht
        exact ⟨tail, h⟩
    by_cases finished : step.isOpen = true → EndsRun isNameChar (Derivation.body d ++ m)
    · obtain ⟨tail, h⟩ := next rfl finished
      exact ih h
    · -- The step ends in a name that goes on, so that it is the last one of the derivation.
      obtain ⟨open_, go⟩ := Classical.not_imp.1 finished
      have last : d = [] := by
        by_contra hd
        obtain ⟨first, d, rfl⟩ := List.exists_cons_of_ne_nil hd
        refine go ?_
        rw [Derivation.body_cons, List.append_assoc]
        exact endsRun_step first
      subst last
      obtain ⟨longer, rest, same, hr, le⟩ := exists_step_of_not_endsRun (m := m) step open_
      obtain ⟨tail, h⟩ := next (by simpa using same) fun _ => hr
      exact (short h).trans le

/-! ### Unambiguity -/

/-- A sign is cut off a position in one way only. -/
theorem signed_inj {sign sign' : Option Char} {digits digits' : List Char}
    (hs : ∀ c ∈ sign, c = '+' ∨ c = '-') (hs' : ∀ c ∈ sign', c = '+' ∨ c = '-')
    (hd : ∀ c ∈ digits, c.isDigit = true) (hd' : ∀ c ∈ digits', c.isDigit = true)
    (h : sign.toList ++ digits = sign'.toList ++ digits') : sign = sign' ∧ digits = digits' := by
  have other {c : Char} (hc : c = '+' ∨ c = '-') : c.isDigit ≠ true := by
    rcases hc with rfl | rfl <;> decide
  cases sign with
  | none =>
    cases sign' with
    | none => exact ⟨rfl, h⟩
    | some c =>
      obtain rfl : digits = c :: digits' := h
      exact absurd (hd c (by simp)) (other (hs' c rfl))
  | some c =>
    cases sign' with
    | none =>
      obtain rfl : c :: digits = digits' := h
      exact absurd (hd' c (by simp)) (other (hs c rfl))
    | some c' =>
      obtain ⟨rfl, rfl⟩ := List.cons.inj h
      exact ⟨rfl, rfl⟩

theorem Inner.text_injective {inner inner' : Inner} (h : inner.text = inner'.text) :
    inner = inner' := by
  have read : Inner.selector inner = Inner.selector inner' := by
    have h₁ := inner_run (r := []) inner endsRun_nil
    rw [h, inner_run inner' endsRun_nil] at h₁
    exact (Reply.ok.inj h₁).1.symm
  cases inner with
  | wildcard =>
    cases inner' with
    | wildcard => rfl
    | key => simp [Inner.selector] at read
    | index => simp [Inner.selector] at read
  | key quote name isQuote closed =>
    cases inner' with
    | wildcard => simp [Inner.selector] at read
    | index => simp [Inner.selector] at read
    | key quote' name' isQuote' closed' =>
      simp only [Inner.text, List.cons_append, List.cons.injEq] at h
      obtain ⟨rfl, h⟩ := h
      obtain rfl : name = name' := List.append_cancel_right h
      rfl
  | index sign digits isSign nonempty decimal fits =>
    cases inner' with
    | wildcard => simp [Inner.selector] at read
    | key => simp [Inner.selector] at read
    | index sign' digits' isSign' nonempty' decimal' fits' =>
      obtain ⟨rfl, rfl⟩ := signed_inj isSign isSign' decimal decimal' h
      rfl

theorem Step.segmentOf_inj {deep deep' : Bool} {x x' : Selector}
    (h : segmentOf deep x = segmentOf deep' x') : deep = deep' ∧ x = x' := by
  cases deep <;> cases deep' <;> simp_all [segmentOf]

section Brackets

variable {deep : Bool} {key before after : List Char} {inner : Inner} {hb : Blank before}
  {ha : Blank after}

theorem Step.star_ne_bracket : (star deep).text ≠ (bracket deep before inner after hb ha).text := by
  cases deep <;> simp [text, points, bracketPoints]

theorem Step.name_ne_bracket {nonempty : key ≠ []} {plain : ∀ c ∈ key, isNameChar c = true} :
    (name deep key nonempty plain).text ≠ (bracket deep before inner after hb ha).text := by
  intro h
  cases deep with
  | true =>
    have inside : '[' ∈ key := by
      rw [show key = _ from List.append_cancel_left h]
      simp
    exact absurd (plain '[' inside) (by decide)
  | false => simp [text, points, bracketPoints] at h

end Brackets

/-- A segment is the text of one step only. -/
theorem Step.text_injective {step step' : Step} (h : step.text = step'.text) : step = step' := by
  have read : step.segment = step'.segment := by
    have h₁ := segment_run (r := []) step fun _ => endsRun_nil
    rw [h, segment_run step' fun _ => endsRun_nil] at h₁
    exact (Reply.ok.inj h₁).1.symm
  cases step with
  | star deep =>
    cases step' with
    | star deep' => rw [(segmentOf_inj read).1]
    | name deep' key nonempty plain => simpa using (segmentOf_inj read).2
    | bracket deep' before inner after hb ha =>
      obtain ⟨rfl, -⟩ := segmentOf_inj read
      exact absurd h star_ne_bracket
  | name deep key nonempty plain =>
    cases step' with
    | star deep' => simpa using (segmentOf_inj read).2
    | name deep' key' nonempty' plain' =>
      obtain ⟨rfl, -⟩ := segmentOf_inj read
      obtain rfl : key = key' := List.append_cancel_left h
      rfl
    | bracket deep' before inner after hb ha =>
      obtain ⟨rfl, -⟩ := segmentOf_inj read
      exact absurd h name_ne_bracket
  | bracket deep before inner after hb ha =>
    cases step' with
    | star deep' =>
      obtain ⟨rfl, -⟩ := segmentOf_inj read
      exact absurd h.symm star_ne_bracket
    | name deep' key nonempty plain =>
      obtain ⟨rfl, -⟩ := segmentOf_inj read
      exact absurd h.symm name_ne_bracket
    | bracket deep' before' inner' after' hb' ha' =>
      obtain ⟨rfl, -⟩ := segmentOf_inj read
      have h₁ := (List.cons.inj (List.append_cancel_left h)).2
      obtain ⟨rfl, h₂⟩ :=
        append_inj_of_endsRun h₁ hb hb' inner.endsRun_isSpacing inner'.endsRun_isSpacing
      have h₃ := inner_run inner (endsRun_isDigit_of_blank (r := []) ha)
      rw [h₂, inner_run inner' (endsRun_isDigit_of_blank ha')] at h₃
      have same := (Reply.ok.inj h₃).2
      rw [← same] at h₂
      obtain rfl := Inner.text_injective (List.append_cancel_right h₂)
      obtain rfl := List.append_cancel_right same
      rfl

theorem body_cons_ne_nil (step : Step) (d : Derivation) : Derivation.body (step :: d) ≠ [] := by
  apply List.ne_nil_of_length_pos
  have := step_length_pos step
  rw [Derivation.body_cons, List.length_append]
  omega

/-- No two derivations give the same text. -/
theorem body_injective {d d' : Derivation} (h : Derivation.body d = Derivation.body d') :
    d = d' := by
  induction d generalizing d' with
  | nil =>
    cases d' with
    | nil => rfl
    | cons step d' => exact absurd h.symm (body_cons_ne_nil step d')
  | cons step d ih =>
    cases d' with
    | nil => exact absurd h (body_cons_ne_nil step d)
    | cons step' d' =>
      rw [Derivation.body_cons, Derivation.body_cons] at h
      have next (d : Derivation) : EndsRun isNameChar (Derivation.body d) := by
        simpa using endsRun_body (d := d) endsRun_nil
      have read := segment_run step fun _ => next d
      rw [h, segment_run step' fun _ => next d'] at read
      have same := (Reply.ok.inj read).2
      rw [← same] at h
      obtain rfl := Step.text_injective (List.append_cancel_right h)
      rw [ih same.symm]

/-! ### Paths -/

theorem path_cons : path ('$' :: s) = many segment s := by
  unfold path
  rw [bind_of_ok (char_cons '$' s)]

/-- A path is read wherever there is a dollar sign, and nowhere else. -/
theorem exists_path_iff : (∃ p r, path s = .ok p r) ↔ s.head? = some '$' := by
  constructor
  · rintro ⟨p, r, h⟩
    obtain ⟨_, t, hc, -⟩ := bind_eq_ok_iff.1 h
    rw [(char_eq_ok_iff.1 hc).1]
    rfl
  · intro h
    obtain ⟨t, rfl⟩ : ∃ t, s = '$' :: t := by cases s <;> simp_all
    rw [path_cons]
    cases ht : many segment t with
    | ok p r => exact ⟨p, r, rfl⟩
    | miss here => exact absurd ht many_ne_miss
    | abort here => exact absurd ht (neverAborts_segment.many _ _)

/-- What is read is derived. -/
theorem derivation_of_path {p : Path} (h : path s = .ok p r) :
    ∃ d : Derivation, s = d.text ++ r ∧ d.path = p := by
  obtain ⟨t, rfl⟩ : ∃ t, s = '$' :: t := by
    have := exists_path_iff.1 ⟨p, r, h⟩
    cases s <;> simp_all
  rw [path_cons] at h
  obtain ⟨d, rfl, rfl⟩ := body_of_many h
  exact ⟨d, rfl, rfl⟩

/-- What is derived in front of a text is no longer than what is read of it. -/
theorem length_le_of_path {d : Derivation} {p : Path} (h : path (d.text ++ m) = .ok p r) :
    r.length ≤ m.length := by
  rw [Derivation.text, List.cons_append, path_cons] at h
  exact length_le_of_many h

theorem text_injective {d d' : Derivation} (h : d.text = d'.text) : d = d' :=
  body_injective (List.cons.inj h).2

/-- A text that is derived in front of another and as long as possible is what is read. -/
theorem path_eq_ok_iff {p : Path} :
    path s = .ok p r ↔
      ∃ d : Derivation, s = d.text ++ r ∧ d.path = p ∧
        ∀ (d' : Derivation) r', s = d'.text ++ r' → d'.text.length ≤ d.text.length := by
  constructor
  · intro h
    obtain ⟨d, hs, hd⟩ := derivation_of_path h
    refine ⟨d, hs, hd, fun d' r' hs' => ?_⟩
    have shorter := length_le_of_path (hs' ▸ h)
    have same := congrArg List.length (hs.symm.trans hs')
    rw [List.length_append, List.length_append] at same
    omega
  · rintro ⟨d, rfl, rfl, longest⟩
    obtain ⟨p, r', h⟩ := exists_path_iff.2 (show (d.text ++ r).head? = some '$' from rfl)
    obtain ⟨d', hs, rfl⟩ := derivation_of_path h
    -- Both are the longest, so that they have one length and one text.
    have le := longest d' r' hs
    have ge := length_le_of_path h
    have same := congrArg List.length hs
    rw [List.length_append, List.length_append] at same
    obtain ⟨ht, rfl⟩ := List.append_inj hs (by omega)
    rw [h, text_injective ht]

/-- The text of a whole derivation is read as such. -/
theorem path_run (d : Derivation) : path d.text = .ok d.path [] := by
  refine path_eq_ok_iff.2 ⟨d, by simp, rfl, fun d' r' h => ?_⟩
  rw [h, List.length_append]
  omega

theorem parse_eq_ok_iff {text : String} {p : Path} :
    parse text = .ok p ↔ path (Text.trim text.toList) = .ok p [] := by
  unfold parse run
  cases path (Text.trim text.toList) with
  | ok p' r => cases r <;> simp
  | miss here => simp
  | abort here => simp

/-- Paths are read as their grammar says: a path begins with a dollar sign, of all texts in front
that are derived the longest is read, its derivation is the only one, and a text is a path if it is
derived as a whole, blanks around it apart. -/
theorem path_reads_longest_derivation :
    (∀ s, (∃ p r, path s = .ok p r) ↔ s.head? = some '$') ∧
    (∀ s p r, path s = .ok p r ↔
      ∃ d : Derivation, s = d.text ++ r ∧ d.path = p ∧
        ∀ (d' : Derivation) r', s = d'.text ++ r' → d'.text.length ≤ d.text.length) ∧
    (∀ d d' : Derivation, d.text = d'.text → d = d') ∧
    (∀ text p, parse text = .ok p ↔
      ∃ d : Derivation, Text.trim text.toList = d.text ∧ d.path = p) ∧
    (∀ text, (∃ e, parse text = .error e) ↔
      ¬ ∃ d : Derivation, Text.trim text.toList = d.text) := by
  have whole (text : String) (p : Path) :
      parse text = .ok p ↔ ∃ d : Derivation, Text.trim text.toList = d.text ∧ d.path = p := by
    rw [parse_eq_ok_iff]
    constructor
    · intro h
      obtain ⟨d, hs, hd⟩ := derivation_of_path h
      exact ⟨d, by simpa using hs, hd⟩
    · rintro ⟨d, hs, rfl⟩
      rw [hs]
      exact path_run d
  refine ⟨fun s => exists_path_iff, fun s p r => path_eq_ok_iff, fun d d' => text_injective, whole,
    fun text => ⟨?_, fun none => ?_⟩⟩
  · rintro ⟨e, he⟩ ⟨d, hd⟩
    rw [(whole text _).2 ⟨d, hd, rfl⟩] at he
    simp at he
  · cases h : parse text with
    | error e => exact ⟨e, rfl⟩
    | ok p =>
      obtain ⟨d, hd, -⟩ := (whole text p).1 h
      exact absurd ⟨d, hd⟩ none

end Verdict.Path
