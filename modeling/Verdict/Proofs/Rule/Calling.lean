import Verdict.Proofs.Rule.Rendering

/-!
# Calling a function by its name

A registry takes any name, while rules have words of their own: the constants are tried before calls,
and a negation is tried before either.  `Callable` says of a name and a number of arguments that no
word of the rules gets in the way, and `compile_call` that the text of such a call is compiled to
that call, whatever the arguments.  A function `not` is out of reach with one argument only, since
then a rule stands in the parentheses.
-/

namespace Verdict.Rule

open Verdict.Parser

variable {s r u x m : List Char} {ts : List Term} {name : String} {c : Condition Term}

/-- The words that are read as constants. -/
def constants : List (List Char) :=
  [['n', 'u', 'l', 'l'], ['t', 'r', 'u', 'e'], ['f', 'a', 'l', 's', 'e']]

/-- A call of the name with so many arguments does not begin like a constant or a negation. -/
structure Callable (name : List Char) (arguments : Nat) : Prop where
  noConstant : stem name ∉ constants
  noNegation : name = ['n', 'o', 't'] → arguments ≠ 1
  noNumber : ∀ c v, name = 'n' :: 'o' :: 't' :: '.' :: c :: v → c.isDigit = false

/-! ### Behind the word `not` -/

theorem rule_of_term {free free' : Term → Prop} {t : Term} (ht : free t)
    (h : Written free' (.term t) u) : Written free (.rule (.operand t)) u :=
  .sole (.alternative (.single (.requirement (.unary (.operand ht (h.change trivial))))))

/-- No arguments are no rule, and behind the first of several stands a comma. -/
theorem Group.misses_parenthesised (inside : ∀ t ∈ ts, NotCalledNot t) (several : ts.length ≠ 1)
    (h : Group ts r x) : Misses (parenthesised negation) x := by
  cases ts with
  | nil =>
    cases h with
    | none ha hb => exact misses_parenthesised_none ha hb
    | some _ _ _ inside => cases inside
  | cons t ts =>
    obtain ⟨a, b, u, z, rfl, ha, hb, hu, hz, next⟩ := h.first
    have more : ts ≠ [] := by
      rintro rfl
      exact several rfl
    obtain ⟨-, n, comma⟩ := next.resolve_left fun last => more last.1
    have first := reads_of_written safe_notCalledNot (rule_of_term (inside t (by simp)) hu) z
      (endsRule_of_next hz next)
    unfold parenthesised
    refine (misses_bind_of_ok (hu.open_run ha hb)).2 ((misses_bind_of_ok first).2 ?_)
    exact (misses_spaced_closing comma).bind

/-- A point begins nothing but a number. -/
theorem misses_negation_point (h : EndsRun Char.isDigit s) : Misses negation ('.' :: s) := by
  have noSign : sign ('.' :: s) = .ok false ('.' :: s) :=
    sign_eq_ok_iff.2 ⟨none, rfl, by simp, fun _ => endsRun_cons.2 rfl, rfl⟩
  have noDigits : Misses digits ('.' :: s) := by
    refine (misses_takeWhile1_iff.2 (endsRun_cons.2 rfl)).bind.orElse ?_
    exact (misses_bind_of_ok (char_cons '.' s)).2 (misses_takeWhile1_iff.2 h).bind
  have noNumber : Misses number ('.' :: s) :=
    Misses.bind ((misses_bind_of_ok noSign).2 noDigits.bind)
  have noString : Misses string ('.' :: s) := misses_string_cons (by decide) (by decide)
  have noTerm : Misses term ('.' :: s) := by
    rw [term_eq_spaced, misses_spaced_iff, skip_cons rfl, Misses, bare_eq_of_startsNumber rfl]
    exact (misses_map_iff.2 noNumber).orElse (misses_map_iff.2 noString)
  rw [negation_eq_orElse]
  exact misses_negated_of_point.orElse ((misses_parenthesised rfl).orElse noTerm.bind)

/-- No negation is read in front of a call that does not begin like one. -/
theorem free_of_callable (inside : ∀ t ∈ ts, NotCalledNot t)
    (callable : Callable name.toList ts.length) (h : Written anyTerm (.term (.call name ts)) u) :
    Free (.call name ts) := by
  by_cases plain : NotCalledNot (.call name ts)
  · exact free_of_misses h (misses_negated_of_notCalledNot (r := []) plain h)
  · obtain ⟨v, _, same, point⟩ := exists_name_of_not plain
    obtain ⟨rfl, rfl⟩ := Term.call.inj same
    obtain ⟨f, hf, -, split⟩ := h.exists_group
    obtain rfl := String.ofList_injective hf
    obtain ⟨x, hx, group⟩ := split []
    rw [String.toList_ofList] at callable
    refine free_of_misses h (r := []) ?_
    rw [hx]
    unfold negated
    cases v with
    | nil =>
      -- the name is the word itself, and its arguments are not one rule in parentheses
      have mark := negationMark_word (group.stops.endsRun (apart_of_opens (by decide)))
      refine (misses_bind_of_ok mark).2 (Misses.bind ?_)
      have none : Misses negation x := by
        rw [negation_eq_orElse]
        exact group.misses_negated.orElse
          ((group.misses_parenthesised inside (callable.noNegation rfl)).orElse group.misses_compared)
      rwa [Misses, skips_negation.skip]
    | cons c v =>
      -- the name goes on with a point, in front of which the word is read all the same
      obtain rfl : c = '.' := point c rfl
      have mark := negationMark_word (s := '.' :: (v ++ x)) (endsRun_cons.2 (by decide))
      refine (misses_bind_of_ok mark).2 (Misses.bind ?_)
      rw [skip_cons rfl]
      refine misses_negation_point ?_
      cases v with
      | nil => exact group.stops.endsRun (apart_of_opens (by decide))
      | cons d v => exact endsRun_cons.2 (callable.noNumber d v rfl)

/-! ### Conditions without operators -/

/-- A negation is the whole condition, unless an operator goes on with it. -/
theorem condition_of_negation (h : negation s = .ok c m) (operator : Misses strictOperator m)
    (requirement : Misses (spaced (token ['&', '&'])) m)
    (alternative : Misses (spaced (token ['|', '|'])) m) : condition s = .ok c m := by
  have strict : strict negation s = .ok c m := by
    have finished : many strictStep m = .ok [] m := many_of_misses operator.bind
    rw [strict_eq, bind_of_ok h, bind_of_ok finished, pure_apply]
    rfl
  have requirements : requirements negation s = .ok c m := by
    unfold requirements
    rw [bind_of_ok (sepBy1_of_misses strict requirement), pure_apply]
    rfl
  rw [condition_eq]
  unfold alternatives
  rw [bind_of_ok (sepBy1_of_misses requirements alternative), pure_apply]
  rfl

/-- The word `not` in front of a rule in parentheses is the mark of a negation. -/
theorem condition_not_parenthesised {free : Term → Prop} (safe : Safe free)
    (h : Written free (.rule c) u) :
    condition ('n' :: 'o' :: 't' :: '(' :: (u ++ [')'])) = .ok (.not c) [] := by
  have mark := negationMark_word (s := '(' :: (u ++ [')'])) (endsRun_cons.2 (by decide))
  rw [skip_cons rfl] at mark
  have inside : negation ('(' :: (u ++ [')'])) = .ok c [] := by
    have read := reads_parenthesised blank_nil blank_nil h (reads_of_written safe h) []
      endsRule_nil.toEndsNegation
    simpa [skip] using read
  exact condition_of_negation (negation_of_mark mark inside) endsRule_nil.operator
    endsRule_nil.requirement endsRule_nil.alternative

theorem constant_run {word : List Char} (h : word ∈ constants) :
    ∃ l, Written NotCalledNot (.term (.literal l)) word ∧
      ∀ r, EndsRun isWordChar r → constant (word ++ r) = .ok l r := by
  simp only [constants, List.mem_cons, List.not_mem_nil, or_false] at h
  rcases h with rfl | rfl | rfl
  · exact ⟨.null, .null, fun r hr => constant_eq_ok_iff.2 ⟨hr, .inl ⟨rfl, rfl⟩⟩⟩
  · exact ⟨.bool true, .isTrue, fun r hr => constant_eq_ok_iff.2 ⟨hr, .inr (.inl ⟨rfl, rfl⟩)⟩⟩
  · exact ⟨.bool false, .isFalse, fun r hr => constant_eq_ok_iff.2 ⟨hr, .inr (.inr ⟨rfl, rfl⟩)⟩⟩

/-- A parenthesis behind a constant is left. -/
theorem condition_constant_open {word : List Char} (h : word ∈ constants) :
    ∃ c, condition (word ++ '(' :: s) = .ok c ('(' :: s) := by
  obtain ⟨l, written, run⟩ := constant_run h
  have front : skip ('(' :: s) = '(' :: s := skip_cons rfl
  have spacing : EndsRun Text.isSpacing (word ++ '(' :: s) := by
    obtain ⟨d, v, rfl, hd⟩ := written.starts
    exact endsRun_cons.2 (isSpacing_of_startsRule (startsRule_of_starts hd))
  have term := term_of_bare spacing (bare_of_constant (run ('(' :: s) (endsRun_cons.2 (by decide))))
  rw [front] at term
  have noComparison : Misses (spaced comparison) ('(' :: s) := by
    rw [misses_spaced_iff, front]
    exact misses_comparison (endsRun_cons.2 (by decide))
  have negation : negation (word ++ '(' :: s) = .ok (.operand (.literal l)) ('(' :: s) := by
    rw [negation_of_term (misses_negated_of_notCalledNot (t := .literal l) trivial written _) written]
    unfold compared
    rw [bind_of_ok term, bind_of_ok (optional_of_misses noComparison.bind), pure_apply]
  refine ⟨_, condition_of_negation negation (misses_strictOperator ?_) (misses_spaced_token ?_)
    (misses_spaced_token ?_)⟩
  · rw [front]
    exact endsRun_cons.2 (by decide)
  · simp [front]
  · simp [front]

/-! ### The text of a call -/

section Calls

variable {σ : Type} {registry : Registry σ} {arguments : List (Operand σ)} {a call : Operand σ}

theorem exists_writeArguments (arguments : List (Operand σ)) :
    ∃ v, Operand.writeArguments arguments = v ++ [')'] := by
  have others (arguments : List (Operand σ)) : ∃ v, Operand.writeOthers arguments = v ++ [')'] := by
    induction arguments with
    | nil => exact ⟨[], rfl⟩
    | cons a arguments ih =>
      obtain ⟨v, hv⟩ := ih
      exact ⟨',' :: ' ' :: (a.write ++ v), by simp [Operand.writeOthers, hv]⟩
  cases arguments with
  | nil => exact ⟨[], rfl⟩
  | cons a arguments =>
    obtain ⟨v, hv⟩ := others arguments
    exact ⟨a.write ++ v, by simp [Operand.writeArguments, hv]⟩

theorem trim_closing {d : Char} (hd : Text.isBlank d = false) (v : List Char) :
    Text.trim (d :: (v ++ [')'])) = d :: (v ++ [')']) := by
  refine Text.Trimmed.trim ⟨by simpa using hd, fun c hc => ?_⟩
  rw [← List.cons_append, List.getLast?_append] at hc
  obtain rfl : ')' = c := by simpa using hc
  decide

theorem compile_of_callable (filled : registry.Filled)
    (inside : ∀ a ∈ arguments, a.Expressible registry)
    (made : registry.bind name arguments = .ok call)
    (callable : Callable name.toList arguments.length) :
    compile registry call.text = .ok (.operand call) ∧
      (Condition.operand call == .operand call) = true := by
  have isName := callName_of_isName (filled.isName_of_bind made) callable.noConstant
  have bound := fun a mem => (inside a mem).bind_term
  have writes : WritesTerm Free call.term call :=
    writesTerm_of_bind made isName (fun a mem => ⟨bound a mem, (inside a mem).finite⟩) fun a mem =>
      writesTerm_term filled (inside a mem)
  have free : Free call.term := by
    have written : Written anyTerm (.term call.term) call.write := writes.written.change trivial
    obtain ⟨returns, implementation, rfl⟩ := call_of_bind made
    refine free_of_callable (fun t mem => ?_) ?_ written
    · rw [Operand.terms_eq_map] at mem
      obtain ⟨a, here, rfl⟩ := List.mem_map.1 mem
      exact notCalledNot_term (inside a here)
    · rwa [Operand.terms_eq_map, List.length_map]
  have read : parse (String.ofList ([] ++ (call.write ++ []))) = .ok (.operand call.term) :=
    parse_of_safe safe_free (rule_of_term free writes.written) (by simp) (by simp)
  rw [List.nil_append, List.append_nil] at read
  refine ⟨compile_eq_ok_iff.2 ⟨.operand call.term, read, ?_⟩, writes.same⟩
  rw [Condition.bind, Operand.bind_term_of_bind bound made]
  rfl

/-- The text of a call of `not` with one argument is the negation of that argument. -/
theorem compile_text_not (filled : registry.Filled) (only : a.Expressible registry)
    (made : registry.bind "not" [a] = .ok call) :
    compile registry call.text = .ok (.not (.operand a)) := by
  have writes : WritesTerm NotCalledNot a.term a := writesTerm_term filled only
  have rule := rule_of_term (notCalledNot_term only) writes.written
  obtain ⟨returns, implementation, rfl⟩ := call_of_bind made
  refine compile_eq_ok_iff.2 ⟨.not (.operand a.term), parse_of_condition ?_, ?_⟩
  · have text : (Operand.call "not" [a] returns implementation).write =
        'n' :: ('o' :: 't' :: '(' :: a.write ++ [')']) := rfl
    rw [Operand.text, String.toList_ofList, text, trim_closing (by decide)]
    exact condition_not_parenthesised safe_notCalledNot rule
  · rw [Condition.bind, Condition.bind, only.bind_term]
    rfl

/-- The text of a call of a constant is no rule: the constant is read, and its arguments are left. -/
theorem compile_text_constant (made : registry.bind name arguments = .ok call)
    (h : name ∈ ["null", "true", "false"]) :
    ∃ rest, compile registry call.text = .error (.unreadable call.text (.unread rest)) := by
  obtain ⟨returns, implementation, rfl⟩ := call_of_bind made
  obtain ⟨v, hv⟩ := exists_writeArguments arguments
  have word : name.toList ∈ constants := by
    simp only [List.mem_cons, List.not_mem_nil, or_false] at h
    rcases h with rfl | rfl | rfl <;> decide +kernel
  obtain ⟨c, left⟩ := condition_constant_open (s := v ++ [')']) word
  obtain ⟨d, u, same, blank⟩ : ∃ d u, name.toList = d :: u ∧ Text.isBlank d = false := by
    obtain ⟨l, written, -⟩ := constant_run word
    obtain ⟨d, u, same, hd⟩ := written.starts
    exact ⟨d, u, same, isBlank_of_startsRule (startsRule_of_starts hd)⟩
  have text : name.toList ++ '(' :: (v ++ [')']) = d :: (u ++ '(' :: v ++ [')']) := by simp [same]
  refine ⟨'(' :: (v ++ [')']), ?_⟩
  unfold compile parse run
  rw [Operand.text, String.toList_ofList, Operand.write, hv, text, trim_closing blank, ← text, left]
  rfl

/-- Each function can be called by its name, unless a word of the rules gets in the way; then `not` is
the negation of its one argument, and a constant has no arguments. -/
theorem compile_call (filled : registry.Filled) (inside : ∀ a ∈ arguments, a.Expressible registry)
    (made : registry.bind name arguments = .ok call) :
    (Callable name.toList arguments.length →
      compile registry call.text = .ok (.operand call) ∧
        (Condition.operand call == .operand call) = true) ∧
    (∀ a, name = "not" → arguments = [a] →
      compile registry call.text = .ok (.not (.operand a))) ∧
    (name ∈ ["null", "true", "false"] →
      ∃ rest, compile registry call.text = .error (.unreadable call.text (.unread rest))) := by
  refine ⟨compile_of_callable filled inside made, ?_, compile_text_constant made⟩
  rintro a rfl rfl
  exact compile_text_not filled (inside a (by simp)) made

theorem compile_call_of_not_two_arguments :
    let body : Implementation Unit := ⟨"neither", Function.onTexts fun s t => s == t⟩
    let function : Function Unit := ⟨"not", ⟨[.any, .number], .boolean⟩, body⟩
    let registry : Registry Unit := Registry.default.insert function (by rfl)
    let arguments : List (Operand Unit) := [.path "$.a", .literal (.number 2.5)]
    let call : Operand Unit := .call "not" arguments .boolean body
    (registry.Filled ∧ (∀ a ∈ arguments, a.Expressible registry) ∧
      registry.bind "not" arguments = .ok call ∧ Callable "not".toList arguments.length) ∧
    compile registry call.text = .ok (.operand call) ∧
      (Condition.operand call == .operand call) = true := by
  intro body function registry arguments call
  have filled : registry.Filled :=
    .insert Registry.filled_default (f := function) (by decide +kernel) _
  have inside : ∀ a ∈ arguments, a.Expressible registry := by
    refine List.forall_mem_cons.2 ⟨.path (by rfl), ?_⟩
    have number : (Operand.literal (.number 2.5)).Expressible registry :=
      .literal (show Float.isFinite 2.5 = true by decide +kernel)
    simpa using number
  have made : registry.bind "not" arguments = .ok call := by
    have found : registry.find? "not" = some function := Registry.find?_insert _
    rw [Registry.bind, found]
    rfl
  have callable : Callable "not".toList arguments.length :=
    ⟨by decide +kernel, by simp [arguments], by rintro c v ⟨⟩⟩
  exact ⟨⟨filled, inside, made, callable⟩, (compile_call filled inside made).1 callable⟩

/-- With one argument a function `not` cannot be called. -/
theorem compile_call_not_ne :
    let body : Implementation Unit := ⟨"neither", Function.onText fun s => .literal (.bool s.isEmpty)⟩
    let function : Function Unit := ⟨"not", ⟨[.any], .boolean⟩, body⟩
    let registry : Registry Unit := Registry.default.insert function (by rfl)
    let call : Operand Unit := .call "not" [.path "$.a"] .boolean body
    (registry.Filled ∧ (Operand.path "$.a").Expressible registry ∧
      registry.bind "not" [.path "$.a"] = .ok call) ∧
    ¬ ∃ t, compile registry call.text = .ok t ∧ (t == .operand call) = true := by
  intro body function registry call
  have filled : registry.Filled :=
    .insert Registry.filled_default (f := function) (by decide +kernel) _
  have path : (Operand.path "$.a").Expressible registry := .path (by rfl)
  have made : registry.bind "not" [.path "$.a"] = .ok call := by
    have found : registry.find? "not" = some function := Registry.find?_insert _
    rw [Registry.bind, found]
    rfl
  refine ⟨⟨filled, path, made⟩, ?_⟩
  rintro ⟨t, compiled, same⟩
  rw [compile_text_not filled path made] at compiled
  obtain rfl := Except.ok.inj compiled
  exact absurd same (by simp [BEq.beq, Condition.beq])

end Calls

end Verdict.Rule
