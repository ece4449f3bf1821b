import Verdict.Proofs.Rule.Contents
import Verdict.Proofs.Rule.Solid

/-!
# What a remainder stands behind

If a text is read only in part, the part that was read is a rule by itself, and holds the condition
that was read, `accepted_before_remainder`.  Nothing that was decided on the way is decided in another
way when the remainder is cut off: terms and conditions survive the cut, `survives_term` and
`survives_negation`, by induction on the length of the text.  Behind a condition there must be nothing
that it could go on with, `Before`; that is so in front of the token that was read next, and at the cut
itself.
-/

namespace Verdict

namespace Rule

open Verdict.Parser

variable {s m n r u w z : List Char} {bound : Nat} {follow : List Char → Prop}

/-! ### What comes next -/

/-- Behind blanks, the text begins with a character of the set or is at its end. -/
def Before (set : List Char) (m : List Char) : Prop :=
  ∀ c ∈ (skip m).head?, c ∈ set

theorem before_nil (set : List Char) : Before set [] := by
  simp [Before, skip]

theorem Before.mono {set set' : List Char} (h : Before set m) (sub : set ⊆ set') : Before set' m :=
  fun c hc => sub (h c hc)

theorem Before.endsRun {set : List Char} {accepts : Char → Bool} (h : Before set m)
    (none : set.any accepts = false) : EndsRun accepts (skip m) :=
  fun c hc => eq_false_of_ne_true (List.any_eq_false.1 none c (h c hc))

theorem Before.head?_ne {set : List Char} {c : Char} (h : Before set m) (other : c ∉ set) :
    (skip m).head? ≠ some c :=
  fun hc => other (h c hc)

theorem before_of_char {c d : Char} (h : spaced (char c) m = .ok d n) : Before [c] m := by
  obtain ⟨t, read, -⟩ := spaced_eq_ok_iff.1 h
  intro e he
  rw [(char_eq_ok_iff.1 read).1] at he
  simpa using he.symm

theorem before_of_token {c : Char} {x : Unit} (h : spaced (token (c :: u)) m = .ok x n) :
    Before [c] m := by
  obtain ⟨t, read, -⟩ := spaced_eq_ok_iff.1 h
  intro e he
  rw [token_eq_ok_iff.1 read] at he
  simpa using he.symm

theorem before_of_strictOperator {join : Condition Term → Condition Term → Condition Term}
    (h : strictOperator m = .ok join n) : Before ['a', 'o'] m := by
  intro c hc
  by_contra other
  refine (misses_strictOperator fun d hd => ?_).ne_ok h
  obtain rfl := Option.mem_unique hc hd
  simpa using other

/-! ### Marks -/

theorem survives_mark {c : Char} (hc : Text.isBlank c = false) :
    Survives bound r follow (spaced (char c)) :=
  (solid_char hc).survives.spaced

/-- What is inside parentheses needs to survive in front of the closing one only. -/
theorem survives_closed {α β : Type} {p : Parser α} (h : Survives bound r (Before [')']) p)
    (g : α → β) :
    Survives bound r Anything (do let a ← p; let _ ← spaced (char ')'); return g a) := by
  refine h.bind (fun a => (survives_mark (by decide)).map _) fun a m _ n read _ => ?_
  obtain ⟨_, _, closing, -⟩ := bind_eq_ok_iff.1 read
  exact before_of_char closing

/-- Items are joined by a mark that may stand behind an item, but not behind the last one. -/
theorem survives_joined {α : Type} {p : Parser α} {set set' : List Char} {c : Char}
    (closes : Closes (c :: u)) (h : Survives bound r (Before set) p) (mark : c ∈ set)
    (other : c ∉ set') (sub : set' ⊆ set) :
    Survives bound r (Before set') (sepBy1 p (spaced (token (c :: u)))) := by
  have separates : Survives bound r Anything (spaced (token (c :: u))) :=
    (solid_token closes.last).survives.spaced
  refine h.sepBy1 separates (consumes_token (by simp)).spaced
    (fun n hn => misses_spaced_token (hn.head?_ne other)) ?_
  rintro m (hm | ⟨_, _, read⟩)
  · exact hm.mono sub
  · exact (before_of_token read).mono (by simpa using mark)

/-! ### Terms -/

theorem survives_call (h : Survives bound r Anything term) :
    Survives (bound + 1) r Anything (call term) := by
  have arguments : Survives bound r (Before [')']) (sepBy term comma) := by
    have some : Survives bound r (Before [')']) (sepBy1 term comma) :=
      h.sepBy1 (survives_mark (by decide)) (consumes_char _).spaced
        (fun n hn => misses_spaced_char (hn.head?_ne (by decide))) fun _ _ => trivial
    refine some.orElse (survives_pure []) fun s z ts m n _ _ read hn => ?_
    simp only [pure_apply, Reply.ok.injEq] at read
    obtain ⟨-, rfl⟩ := read
    exact (misses_term (hn.endsRun (by decide))).bind
  refine consumes_functionName.survives_then solid_functionName.survives fun name => ?_
  exact (survives_mark (by decide)).then fun _ => survives_closed arguments _

theorem misses_constant_of_call {t : Term} (miss : Misses constant (s ++ z))
    (h : call term s = .ok t n) : Misses constant s := by
  unfold call at h
  simp only [bind_eq_ok_iff] at h
  obtain ⟨f, _, name, _, _, open_, -⟩ := h
  obtain ⟨a, t, ha, rfl, -⟩ := spaced_char_of_ok open_
  obtain ⟨rfl, -⟩ := functionName_eq_ok_iff.1 name
  have isName : CallName f := by
    rw [List.append_assoc, List.append_assoc, List.cons_append] at miss
    exact callName_of_ok name miss (endsRun_open ha (by decide))
  exact misses_constant_name isName (endsRun_open ha (by decide))

theorem bare_of_path_ok {t : Term} (h : path s = .ok t n) : bare s = .ok t n := by
  obtain ⟨u, rfl, -, ⟨p, whole⟩ | ⟨v, rfl, -⟩⟩ := path_of_ok h
  · have dollar := Path.exists_path_iff.1 ⟨p, [], whole⟩
    cases u with
    | nil => simp at dollar
    | cons c u =>
      obtain rfl : c = '$' := by simpa using dollar
      exact bare_of_path (.inl rfl) h
  · exact bare_of_path (.inr rfl) h

theorem bare_of_number_ok {l : Literal} (h : number s = .ok l n) : bare s = .ok (.literal l) n := by
  obtain ⟨x, _, read, last⟩ := bind_eq_ok_iff.1 h
  simp only [pure_apply, Reply.ok.injEq] at last
  obtain ⟨rfl, rfl⟩ := last
  obtain ⟨t, rfl, -⟩ := numeral_of_ok read
  obtain ⟨c, v, ht, hc⟩ := t.starts
  rw [ht, List.cons_append] at read ⊢
  exact bare_of_number hc read

theorem bare_of_string_ok {l : Literal} (h : string s = .ok l n) : bare s = .ok (.literal l) n := by
  obtain ⟨t, rfl, -⟩ := string_of_ok h
  exact bare_of_string t.isQuote h

theorem survives_bare (h : Survives bound r Anything term) :
    Survives (bound + 1) r Anything bare where
  shortens := shortens_constant.map.orElse ((shortens_call shortens_term).orElse
    (shortens_path.orElse (shortens_number.map.orElse shortens_string.map)))
  again s w t m short hw read long := by
    unfold bare at read
    simp only [orElse_eq_ok_iff, map_eq_ok_iff, misses_map_iff] at read
    rcases read with ⟨l, read, rfl⟩ | ⟨word, read | ⟨-, read | ⟨-, ⟨l, read, rfl⟩ | ⟨-, l, read, rfl⟩⟩⟩⟩
    · obtain ⟨n, v, hv, rfl, again⟩ := solid_constant.survives.again short hw read long
      exact ⟨n, v, hv, rfl, fun hn => bare_of_constant (again hn)⟩
    · obtain ⟨n, v, hv, rfl, again⟩ := (survives_call h).again short hw read long
      exact ⟨n, v, hv, rfl, fun hn =>
        bare_of_call (misses_constant_of_call word (again hn)) (again hn)⟩
    · obtain ⟨n, v, hv, rfl, again⟩ := solid_path.survives.again short hw read long
      exact ⟨n, v, hv, rfl, fun hn => bare_of_path_ok (again hn)⟩
    · obtain ⟨n, v, hv, rfl, again⟩ := solid_number.survives.again short hw read long
      exact ⟨n, v, hv, rfl, fun hn => bare_of_number_ok (again hn)⟩
    · obtain ⟨n, v, hv, rfl, again⟩ := solid_string.survives.again short hw read long
      exact ⟨n, v, hv, rfl, fun hn => bare_of_string_ok (again hn)⟩

theorem survives_term (bound : Nat) (r : List Char) : Survives bound r Anything term := by
  induction bound with
  | zero => exact survives_zero shortens_term
  | succ bound ih =>
    rw [term_eq_spaced]
    exact (survives_bare ih).spaced

/-! ### Conditions -/

/-- What may stand behind a condition that binds as tightly as a negation. -/
abbrev negationEnds : List Char :=
  [')', '|', '&', 'a', 'o']

theorem survives_compared : Survives bound r (Before negationEnds) compared := by
  have right : Survives bound r (Before negationEnds)
      (do let op ← spaced comparison; let right ← term; return (op, right)) :=
    solid_comparison.survives.spaced.then fun op =>
      ((survives_term bound r).map _).mono fun _ _ => trivial
  refine (survives_term bound r).then fun left => (right.optional fun n hn => ?_).map _
  exact (misses_spaced_iff.2 (misses_comparison (hn.endsRun (by decide)))).bind

theorem survives_strictOperator : Survives bound r follow strictOperator := by
  have one {word : List Char} (closes : Closes word)
      (join : Condition Term → Condition Term → Condition Term) :
      Solid (do keyword word; return join) :=
    (solid_keyword closes).map fun _ => join
  have either := (one ⟨['a', 'n'], 'd', rfl, by decide⟩ .and).orElse
    (one ⟨['o'], 'r', rfl, by decide⟩ .or) fun s z join n _ read => by
      obtain ⟨_, _, word, -⟩ := bind_eq_ok_iff.1 read
      rw [(keyword_eq_ok_iff.1 word).1]
      exact (misses_keyword_cons (by decide)).bind
  exact either.survives.spaced

theorem survives_strict (h : Survives bound r (Before negationEnds) negation) :
    Survives bound r (Before [')', '|', '&']) (strict negation) := by
  have step : Survives bound r (Before negationEnds) strictStep :=
    survives_strictOperator.then fun join => h.map _
  have operator {m n : List Char} {x : _ × Condition Term} (read : strictStep m = .ok x n) :
      Before negationEnds m := by
    obtain ⟨_, _, word, -⟩ := bind_eq_ok_iff.1 read
    exact (before_of_strictOperator word).mono (by simp)
  have others : Survives bound r (Before [')', '|', '&']) (many strictStep) := by
    refine step.many consumes_strictStep (fun n hn => ?_) ?_
    · exact (misses_strictOperator (hn.endsRun (by decide))).bind
    · rintro m (hm | ⟨_, _, read⟩)
      · exact hm.mono (by simp)
      · exact operator read
  rw [strict_eq]
  refine h.bind (fun first => others.map _) fun first m c n found hn => ?_
  obtain ⟨steps, n', read, last⟩ := bind_eq_ok_iff.1 found
  simp only [pure_apply, Reply.ok.injEq] at last
  obtain ⟨-, rfl⟩ := last
  rcases exists_of_many read hn with hm | ⟨_, _, read⟩
  · exact hm.mono (by simp)
  · exact operator read

theorem survives_requirements (h : Survives bound r (Before negationEnds) negation) :
    Survives bound r (Before [')', '|']) (requirements negation) :=
  (survives_joined ⟨['&'], '&', rfl, by decide⟩ (survives_strict h) (by decide) (by decide)
    (by decide)).map _

theorem survives_alternatives (h : Survives bound r (Before negationEnds) negation) :
    Survives bound r (Before [')']) (alternatives negation) :=
  (survives_joined ⟨['|'], '|', rfl, by decide⟩ (survives_requirements h) (by decide) (by decide)
    (by decide)).map _

theorem survives_parenthesised (h : Survives bound r (Before negationEnds) negation) :
    Survives (bound + 1) r Anything (parenthesised negation) :=
  (consumes_char _).spaced.survives_then (survives_mark (by decide)) fun _ =>
    survives_closed (survives_alternatives h) _

theorem survives_negated (h : Survives bound r (Before negationEnds) negation) :
    Survives (bound + 1) r (Before negationEnds) negated := by
  have word := solid_keyword ⟨['n', 'o'], 't', rfl, by decide⟩
  have mark : Solid (token ['!'] <|> keyword ['n', 'o', 't']) :=
    (solid_token (Closes.last ⟨[], '!', rfl, by decide⟩)).orElse word
      fun _ _ _ _ miss _ => misses_token_of_append miss
  exact consumes_negationMark.survives_then mark.survives.spaced fun _ => h.map _

theorem negation_of_parenthesised {c : Condition Term} (h : parenthesised negation s = .ok c n) :
    negation s = .ok c n := by
  obtain ⟨_, _, opening, -⟩ := bind_eq_ok_iff.1 h
  obtain ⟨t, read, -⟩ := spaced_eq_ok_iff.1 opening
  have mark : Misses negated (skip s) := by
    rw [(char_eq_ok_iff.1 read).1]
    exact misses_negationMark_open.bind
  unfold Misses at mark
  rw [skips_negated.skip] at mark
  rw [negation_eq_orElse, orElse_of_misses mark]
  exact orElse_of_ok h

/-- What begins with a term in front of which no negation is read is a comparison. -/
theorem negation_of_free {t : Term} (free : Free t) (h : term s = .ok t n) :
    negation s = compared s := by
  obtain ⟨u, m, hu, written, -⟩ := term_of_ok h
  have skips : Skips compared := skips_term.bind _
  rw [← skips_negation.skip, ← skips.skip, hu]
  exact negation_of_term (free u m written) written

theorem survives_negation (bound : Nat) (r : List Char) :
    Survives bound r (Before negationEnds) negation := by
  induction bound with
  | zero => exact survives_zero shortens_negation
  | succ bound ih =>
    refine ⟨shortens_negation, fun s w c m short hw read long => ?_⟩
    rw [negation_eq_orElse] at read
    simp only [orElse_eq_ok_iff] at read
    rcases read with read | ⟨miss, read | ⟨-, read⟩⟩
    · obtain ⟨n, v, hv, rfl, again⟩ := (survives_negated ih).again short hw read long
      refine ⟨n, v, hv, rfl, fun hn => ?_⟩
      rw [negation_eq_orElse]
      exact orElse_of_ok (again hn)
    · obtain ⟨n, v, hv, rfl, again⟩ :=
        (survives_parenthesised ih).again short hw read long
      exact ⟨n, v, hv, rfl, fun _ => negation_of_parenthesised (again trivial)⟩
    · obtain ⟨n, v, hv, rfl, again⟩ := survives_compared.again short hw read long
      -- The same term is read first, and it says that no negation is read in front of it.
      obtain ⟨t, m', first, rest⟩ := bind_eq_ok_iff.1 read
      have less : (n ++ (v ++ r)).length ≤ m'.length :=
        (Shortens.optional (shortens_comparison.spaced.bind fun _ => shortens_term.bind fun _ =>
          shortens_pure _)).bind (fun _ => shortens_pure _) rest
      obtain ⟨n', -, -, -, here⟩ := (survives_term (bound + 1) r).again short hw first (long.trans less)
      refine ⟨n, v, hv, rfl, fun hn => ?_⟩
      rw [negation_of_free (free_of_term miss first) (here trivial), again hn]

/-! ### Whole texts -/

theorem survives_condition (bound : Nat) (r : List Char) :
    Survives bound r (Before [')']) condition := by
  rw [condition_eq]
  exact survives_alternatives (survives_negation bound r)

theorem ends_path : Ends s path :=
  ends_of_append fun _ _ _ h =>
    let ⟨u, same, _⟩ := path_of_ok h
    ⟨u, same⟩

theorem ends_condition : Ends s condition := by
  have terms (depth : Nat) : Finds s (Term.Forall (fun _ => True) fun _ => True) (termUpTo depth) := by
    refine finds_termUpTo ends_constant ends_number ends_string ?_ depth
    intro t a m ht h
    obtain ⟨u, -, rfl, -⟩ := path_of_ok h
    exact ⟨(ends_path ht h).1, .path trivial⟩
  exact (finds_condition terms).mono fun _ _ => trivial

theorem ends_jsonPath : Ends s Path.path :=
  ends_of_append fun _ _ _ h =>
    let ⟨d, same, _⟩ := Path.derivation_of_path h
    ⟨d.text, same⟩

end Rule

namespace Parser

theorem Error.message_unread (rest : List Char) :
    (Error.unread rest).message =
      "Parser did not consume all input. Remainder: '" ++ String.ofList rest ++ "'" :=
  rfl

theorem Error.exists_located (label code : String) (here : List Char) :
    ∃ u, Error.located label code here = label ++ u := by
  simp only [Error.located, String.append_assoc]
  exact ⟨_, rfl⟩

/-- Only the explanation with a remainder begins as it does. -/
theorem Error.unread_of_message {e : Error} {rest : String}
    (h : e.message = "Parser did not consume all input. Remainder: '" ++ rest ++ "'") :
    e = .unread rest.toList := by
  have apart {label x y : String} (differs : label.toList[4]? = some 'i')
      (same : label ++ x = "Parser did not consume all input. Remainder: '" ++ y) : False := by
    have fifth := congrArg (fun s => s.toList[4]?) same
    simp only [String.toList_append] at fifth
    rw [List.getElem?_append_left (List.getElem?_eq_some_iff.1 differs).1, differs,
      List.getElem?_append_left (by decide)] at fifth
    revert fifth
    decide
  cases e with
  | unread r =>
    rw [Error.message_unread, String.append_left_inj, String.append_right_inj] at h
    rw [← h, String.toList_ofList]
  | unrecognised here =>
    obtain ⟨u, hu⟩ := Error.exists_located "Parsing Error" "Char" here
    change Error.located _ _ _ = _ at h
    rw [hu, String.append_assoc] at h
    exact (apart (by decide) h).elim
  | brokenNumber here =>
    obtain ⟨u, hu⟩ := Error.exists_located "Parsing Failure" "Float" here
    change Error.located _ _ _ = _ at h
    rw [hu, String.append_assoc] at h
    exact (apart (by decide) h).elim

/-- The text that could not be read stands in front of the explanation. -/
theorem Error.unread_of_report {e : Error} {label text rest : String}
    (h : label ++ text ++ "': " ++ e.message =
      label ++ text ++ "': Parser did not consume all input. Remainder: '" ++ rest ++ "'") :
    e = .unread rest.toList := by
  have words : "': Parser did not consume all input. Remainder: '" =
      "': " ++ "Parser did not consume all input. Remainder: '" := by decide
  refine Error.unread_of_message ((String.append_right_inj (label ++ text ++ "': ")).1 ?_)
  rw [h, words]
  simp only [String.append_assoc]

end Parser

open Verdict.Parser

/-- If a text is said to be read up to a remainder, the remainder is not empty and stands at the end of
the text without the blanks around it, and what stands before it is accepted by itself: it holds the
condition, or the path, that was read when the parser stopped. -/
theorem accepted_before_remainder (text rest : String) :
    (∀ e, Rule.parse text = .error e →
      e.message = "Rule parse error in '" ++ text ++
        "': Parser did not consume all input. Remainder: '" ++ rest ++ "'" →
      rest ≠ "" ∧ ∃ before c, Text.trim text.toList = before ++ rest.toList ∧
        Rule.condition (Text.trim text.toList) = .ok c rest.toList ∧
        Rule.parse (String.ofList before) = .ok c) ∧
    (∀ e, Path.parse text = .error e →
      e.message = "JSONPath parse error in '" ++ text ++
        "': Parser did not consume all input. Remainder: '" ++ rest ++ "'" →
      rest ≠ "" ∧ ∃ before p, Text.trim text.toList = before ++ rest.toList ∧
        Path.path (Text.trim text.toList) = .ok p rest.toList ∧
        Path.parse (String.ofList before) = .ok p) := by
  have nonempty (h : rest.toList ≠ []) : rest ≠ "" := by
    rintro rfl
    exact h rfl
  constructor
  · intro e failed message
    unfold Rule.parse at failed
    split at failed
    · cases failed
    next cause stopped =>
    obtain rfl := Except.error.inj failed
    obtain rfl := Error.unread_of_report message
    obtain ⟨left, before, c, same, read, alone⟩ := Survives.before_remainder
      (fun bound => Rule.survives_condition bound _) Rule.ends_condition (Rule.before_nil _) stopped
    refine ⟨nonempty left, before, c, same, read, Rule.parse_eq_ok_iff.2 ?_⟩
    rwa [String.toList_ofList]
  · intro e failed message
    unfold Path.parse at failed
    split at failed
    · cases failed
    next cause stopped =>
    obtain rfl := Except.error.inj failed
    obtain rfl := Error.unread_of_report message
    have survives (bound : Nat) : Survives bound rest.toList Anything Path.path :=
      Rule.solid_jsonPath.survives
    obtain ⟨left, before, p, same, read, alone⟩ :=
      Survives.before_remainder survives Rule.ends_jsonPath trivial stopped
    refine ⟨nonempty left, before, p, same, read, Path.parse_eq_ok_iff.2 ?_⟩
    rwa [String.toList_ofList]

/-- A call of `not` is read in the first text, since its two arguments are no condition; the comma
behind its comparison is not read, and the comparison is a rule by itself.  No segment of a path begins
with the blank in the second text. -/
theorem accepted_before_remainder_of_comma_and_blank :
    (∃ e, Rule.parse " not('a', 'b') == $.n , 'c'" = .error e ∧
      e.message = "Rule parse error in '" ++ " not('a', 'b') == $.n , 'c'" ++
        "': Parser did not consume all input. Remainder: '" ++ ", 'c'" ++ "'") ∧
    (∃ c, Rule.condition (Text.trim " not('a', 'b') == $.n , 'c'".toList) = .ok c ", 'c'".toList ∧
      Rule.parse "not('a', 'b') == $.n " = .ok c) ∧
    (∃ e, Path.parse "$.a[0] .b" = .error e ∧
      e.message = "JSONPath parse error in '" ++ "$.a[0] .b" ++
        "': Parser did not consume all input. Remainder: '" ++ " .b" ++ "'") ∧
    ∃ p, Path.path (Text.trim "$.a[0] .b".toList) = .ok p " .b".toList ∧
      Path.parse "$.a[0]" = .ok p := by
  have rule : Rule.parse " not('a', 'b') == $.n , 'c'" =
      .error (.unreadable " not('a', 'b') == $.n , 'c'" (.unread ", 'c'".toList)) := by
    have left : read Rule.condition (Text.trim " not('a', 'b') == $.n , 'c'".toList) =
        .ok "not('a', 'b') == $.n ".toList ", 'c'".toList := by decide +kernel
    obtain ⟨c, read, -⟩ := Rule.read_eq_ok_iff.1 left
    have stopped := run_eq_unread_iff.2 ⟨by decide, c, read⟩
    unfold Rule.parse
    rw [stopped]
  have path : Path.parse "$.a[0] .b" = .error ⟨"$.a[0] .b", .unread " .b".toList⟩ := by
    have stopped : run Path.path (Text.trim "$.a[0] .b".toList) =
        .error (.unread " .b".toList) := by decide +kernel
    unfold Path.parse
    rw [stopped]
  have ruleMessage : (Rule.Error.unreadable " not('a', 'b') == $.n , 'c'"
      (.unread ", 'c'".toList)).message = "Rule parse error in '" ++ " not('a', 'b') == $.n , 'c'" ++
        "': Parser did not consume all input. Remainder: '" ++ ", 'c'" ++ "'" := by decide +kernel
  have pathMessage : (Path.Error.mk "$.a[0] .b" (.unread " .b".toList)).message =
      "JSONPath parse error in '" ++ "$.a[0] .b" ++
        "': Parser did not consume all input. Remainder: '" ++ " .b" ++ "'" := by decide +kernel
  refine ⟨⟨_, rule, ruleMessage⟩, ?_, ⟨_, path, pathMessage⟩, ?_⟩
  · obtain ⟨-, before, c, same, read, alone⟩ :=
      (accepted_before_remainder _ _).1 _ rule ruleMessage
    have front : Text.trim " not('a', 'b') == $.n , 'c'".toList =
        "not('a', 'b') == $.n ".toList ++ ", 'c'".toList := by decide +kernel
    obtain rfl := List.append_cancel_right (front.symm.trans same)
    rw [String.ofList_toList] at alone
    exact ⟨c, read, alone⟩
  · obtain ⟨-, before, p, same, read, alone⟩ :=
      (accepted_before_remainder _ _).2 _ path pathMessage
    have front : Text.trim "$.a[0] .b".toList = "$.a[0]".toList ++ " .b".toList := by decide +kernel
    obtain rfl := List.append_cancel_right (front.symm.trans same)
    rw [String.ofList_toList] at alone
    exact ⟨p, read, alone⟩

end Verdict
