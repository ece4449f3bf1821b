import Verdict.Rule.Binding
import Verdict.Proofs.Rule.Sound
import Verdict.Proofs.Decimal.Written
import Verdict.Proofs.Evaluation.Reference
import Mathlib.Data.List.Forall2

/-!
# Bound conditions are written as rules

The text of a bound condition is a way to write the condition that was bound, as long as its numbers
are finite: `rewritten_of_written`.  With what is known about reading, a rule that was compiled can be
compiled again from its own text, and comes to the same condition, `compile_text`.
-/

namespace Verdict

open Verdict.Parser

variable {σ : Type} {r : Registry σ} {free : Term → Prop}

/-! ### Finite numbers -/

/-- A number, if it is one, is finite. -/
def Literal.Finite (l : Literal) : Prop :=
  ∀ x ∈ l.number?, x.isFinite = true

/-- Each number in the operand is finite. -/
inductive Operand.Finite : Operand σ → Prop
  | literal {l : Literal} (number : l.Finite) : Finite (.literal l)
  | path (text : String) : Finite (.path text)
  | call {name : String} {arguments : List (Operand σ)} {returns : Kind}
      {implementation : Implementation σ} (inside : ∀ a ∈ arguments, Finite a) :
      Finite (.call name arguments returns implementation)

namespace Rule

/-! ### Strings -/

theorem quoteFor_cases (s : List Char) :
    Literal.quoteFor s = '\'' ∨ Literal.quoteFor s = '"' := by
  unfold Literal.quoteFor
  split
  · exact .inr rfl
  · exact .inl rfl

/-- A string as it is written by rules. -/
def StringText.ofString (s : List Char) : StringText where
  quote := Literal.quoteFor s
  parts := s.map fun c => (decide (c = Literal.quoteFor s ∨ c = '\\'), c)
  isQuote := quoteFor_cases s
  plain := by
    intro part mem bare
    obtain ⟨c, -, rfl⟩ := List.mem_map.1 mem
    simpa using bare

theorem StringText.text_ofString (s : List Char) : (ofString s).text = Literal.writeString s := by
  have part (c : Char) (b : Prop) [Decidable b] :
      partText (decide b, c) = if b then ['\\', c] else [c] := by
    simp [partText]
  simp only [text, ofString, Literal.writeString, List.flatMap_map, part, List.cons_append]

theorem StringText.value_ofString (s : String) : (ofString s.toList).value = s := by
  simp [value, ofString, Function.comp_def]

/-! ### Operands -/

theorem call_of_bind {name : String} {arguments : List (Operand σ)} {o : Operand σ}
    (h : r.bind name arguments = .ok o) :
    ∃ returns implementation, o = .call name arguments returns implementation := by
  obtain ⟨f, -, -, -, rfl⟩ := Registry.bind_eq_ok_iff.1 h
  exact ⟨_, _, rfl⟩

theorem except_bind_eq_ok_iff {ε α β : Type} {x : Except ε α} {f : α → Except ε β} {b : β} :
    x >>= f = .ok b ↔ ∃ a, x = .ok a ∧ f a = .ok b := by
  cases x <;> simp [bind, Except.bind]

theorem of_bind_pure {ε α β : Type} {x : Except ε α} {f : α → β} {b : β}
    (h : (do return f (← x)) = .ok b) : ∃ a, x = .ok a ∧ b = f a := by
  obtain ⟨a, ha, h⟩ := except_bind_eq_ok_iff.1 h
  exact ⟨a, ha, (Except.ok.inj h).symm⟩

theorem of_bind_bind_pure {ε α β γ : Type} {x : Except ε α} {y : Except ε β} {f : α → β → γ} {c : γ}
    (h : (do let a ← x; let b ← y; return f a b) = .ok c) :
    ∃ a b, x = .ok a ∧ y = .ok b ∧ c = f a b := by
  obtain ⟨a, ha, h⟩ := except_bind_eq_ok_iff.1 h
  obtain ⟨b, hb, rfl⟩ := of_bind_pure h
  exact ⟨a, b, ha, hb, rfl⟩

/-! ### What is bound is written as it is read -/

/-- The operand is written as the term, and equal to itself. -/
structure WritesTerm (free : Term → Prop) (t : Term) (o : Operand σ) : Prop where
  written : Written free (.term t) o.write
  same : (o == o) = true

/-- The bound condition is written as the condition, and equal to itself. -/
structure Writes (free : Term → Prop) (c : Condition Term) (d : Condition (Operand σ)) : Prop where
  written : Written free (.negation c) d.write
  same : (d == d) = true

/-- Whatever the phrase is bound to is written as the phrase, if its numbers are finite. -/
def Rewritten (r : Registry σ) (free : Term → Prop) : Phrase → Prop
  | .term t => ∀ o, t.bind r = .ok o → o.Finite → WritesTerm free t o
  | .arguments ts => ∀ os, Term.bindAll r ts = .ok os → (∀ o ∈ os, o.Finite) →
    List.Forall₂ (WritesTerm free) ts os
  | .negation c | .strict c | .conjunction c | .rule c => ∀ d, c.bind r = .ok d →
    d.Forall Operand.Finite → Writes free c d
  | .requirements cs | .alternatives cs => ∀ ds, Condition.bindAll r cs = .ok ds →
    (∀ d ∈ ds, d.Forall Operand.Finite) → List.Forall₂ (Writes free) cs ds

/-! ### Operands as they are written -/

theorem beqAll_self {ts : List Term} {os : List (Operand σ)}
    (h : List.Forall₂ (WritesTerm free) ts os) : Operand.beqAll os os = true := by
  induction h with
  | nil => rfl
  | cons h hs ih =>
    rw [Operand.beqAll, Bool.and_eq_true]
    exact ⟨h.same, ih⟩

theorem written_arguments {t : Term} {ts : List Term} {o : Operand σ} {os : List (Operand σ)}
    (h : WritesTerm free t o) (hs : List.Forall₂ (WritesTerm free) ts os) :
    ∃ u, Operand.writeArguments (o :: os) = u ++ [')'] ∧ Written free (.arguments (t :: ts)) u := by
  induction hs generalizing t o with
  | nil => exact ⟨o.write, rfl, .argument h.written⟩
  | @cons t' o' ts os h' hs ih =>
    obtain ⟨u, hu, written⟩ := ih h'
    refine ⟨o.write ++ ([] ++ ',' :: ([' '] ++ u)), ?_,
      .arguments blank_nil blank_space h.written written⟩
    change o.write ++ ',' :: ' ' :: Operand.writeArguments (o' :: os) = _
    rw [hu]
    simp

theorem rewritten_call {name : List Char} {ts : List Term} (isName : CallName name)
    (ih : ∀ os, Term.bindAll r ts = .ok os → (∀ o ∈ os, o.Finite) →
      List.Forall₂ (WritesTerm free) ts os) :
    Rewritten r free (.term (.call (String.ofList name) ts)) := by
  intro o ho finite
  rw [Term.bind] at ho
  obtain ⟨os, hos, ho⟩ := except_bind_eq_ok_iff.1 ho
  obtain ⟨returns, implementation, rfl⟩ := call_of_bind ho
  cases finite with
  | call inside =>
    have args := ih os hos inside
    refine ⟨?_, ?_⟩
    · rw [Operand.write, String.toList_ofList]
      cases args with
      | nil => exact .callNone isName blank_nil blank_nil
      | cons first others =>
        obtain ⟨u, hu, written⟩ := written_arguments first others
        rw [hu]
        exact .call isName blank_nil blank_nil blank_nil written
    · change (String.ofList name == String.ofList name && Operand.beqAll os os) = true
      rw [beq_self_eq_true, Bool.true_and]
      exact beqAll_self args

theorem rewritten_literal {l : Literal} (h : l.Finite → Written free (.term (.literal l)) l.write)
    (same : l.Finite → (l == l) = true) : Rewritten r free (.term (.literal l)) := by
  intro o ho finite
  obtain rfl := Except.ok.inj ho
  cases finite with
  | literal number => exact ⟨h number, same number⟩

theorem rewritten_path {s : String} (h : Written free (.term (.path s)) s.toList) :
    Rewritten r free (.term (.path s)) := by
  intro o ho _
  obtain rfl := Except.ok.inj ho
  exact ⟨h, beq_self_eq_true s⟩

theorem rewritten_number (x : Float) : Rewritten r free (.term (.literal (.number x))) := by
  refine rewritten_literal (fun h => ?_) fun h => Decimal.beq_self_of_isFinite (h x rfl)
  obtain ⟨t, ht, hx⟩ := Decimal.exists_numberText (h x rfl)
  change Written free _ (Literal.numberStyle.number x)
  rw [← ht, ← hx]
  exact .number t

theorem rewritten_string (s : String) : Rewritten r free (.term (.literal (.string s))) := by
  refine rewritten_literal (fun _ => ?_) fun _ => beq_self_eq_true s
  have written : Written free (.term (.literal (.string (StringText.ofString s.toList).value)))
      (StringText.ofString s.toList).text := .string _
  rw [StringText.value_ofString, StringText.text_ofString] at written
  exact written

/-! ### Conditions as they are written -/

section Conditions

variable {c x y : Condition Term} {cs : List (Condition Term)} {d e : Condition (Operand σ)}
  {ds : List (Condition (Operand σ))}

theorem beqItems_self (h : List.Forall₂ (Writes free) cs ds) : Condition.beqItems ds ds = true := by
  induction h with
  | nil => rfl
  | cons h hs ih =>
    rw [Condition.beqItems, Bool.and_eq_true]
    exact ⟨h.same, ih⟩

/-- Items between signs are written as the list that the sign stands for. -/
theorem written_items {sign : Char} {phrase : List (Condition Term) → Phrase}
    (single : ∀ {c u}, Written free (.negation c) u → Written free (phrase [c]) u)
    (cons : ∀ {c cs u v}, Written free (.negation c) u → Written free (phrase cs) v →
      Written free (phrase (c :: cs)) (u ++ ([' '] ++ sign :: sign :: ([' '] ++ v))))
    (h : Writes free c d) (hs : List.Forall₂ (Writes free) cs ds) :
    ∃ u, d.write ++ Condition.writeItems [sign, sign] ds = u ++ [')'] ∧
      Written free (phrase (c :: cs)) u := by
  induction hs generalizing c d with
  | nil => exact ⟨d.write, rfl, single h.written⟩
  | @cons c' d' cs ds h' hs ih =>
    obtain ⟨u, hu, written⟩ := ih h'
    refine ⟨d.write ++ ([' '] ++ sign :: sign :: ([' '] ++ u)), ?_, cons h.written written⟩
    have split : Condition.writeItems [sign, sign] (d' :: ds) =
        ' ' :: sign :: sign :: ' ' :: (d'.write ++ Condition.writeItems [sign, sign] ds) := by
      rw [Condition.writeItems]
      rfl
    rw [split, hu]
    simp

theorem written_requirements (h : Writes free c d) (hs : List.Forall₂ (Writes free) cs ds) :
    ∃ u, d.write ++ Condition.writeItems ['&', '&'] ds = u ++ [')'] ∧
      Written free (.requirements (c :: cs)) u :=
  written_items (fun h => .requirement (.unary h))
    (fun h hs => .requirements blank_space blank_space (.unary h) hs) h hs

theorem written_alternatives (h : Writes free c d) (hs : List.Forall₂ (Writes free) cs ds) :
    ∃ u, d.write ++ Condition.writeItems ['|', '|'] ds = u ++ [')'] ∧
      Written free (.alternatives (c :: cs)) u :=
  written_items (fun h => .alternative (.single (.requirement (.unary h))))
    (fun h hs => .alternatives blank_space blank_space (.single (.requirement (.unary h))) hs) h hs

theorem writes_of_rule {u : List Char} (h : Written free (.rule c) u)
    (text : d.write = '(' :: (u ++ [')'])) (same : (d == d) = true) : Writes free c d := by
  refine ⟨?_, same⟩
  rw [text]
  exact .parenthesised blank_nil blank_nil h

theorem writes_all (several : 2 ≤ cs.length) (h : List.Forall₂ (Writes free) cs ds) :
    Writes free (.all cs) (.all ds) := by
  have same := beqItems_self h
  cases h with
  | nil => simp at several
  | cons first others =>
    obtain ⟨u, hu, written⟩ := written_requirements first others
    refine writes_of_rule (.sole (.alternative (.all several written))) ?_ same
    rw [← hu, Condition.write]
    rfl

theorem writes_any (several : 2 ≤ cs.length) (h : List.Forall₂ (Writes free) cs ds) :
    Writes free (.any cs) (.any ds) := by
  have same := beqItems_self h
  cases h with
  | nil => simp at several
  | cons first others =>
    obtain ⟨u, hu, written⟩ := written_alternatives first others
    refine writes_of_rule (.any several written) ?_ same
    rw [← hu, Condition.write]
    rfl

theorem writes_of_strict {u : List Char} (h : Written free (.strict c) u)
    (text : d.write = '(' :: (u ++ [')'])) (same : (d == d) = true) : Writes free c d :=
  writes_of_rule (.sole (.alternative (.single (.requirement h)))) text same

theorem beq_sides (hx : Writes free x d) (hy : Writes free y e) :
    (d.beq d && e.beq e) = true := by
  rw [Bool.and_eq_true]
  exact ⟨hx.same, hy.same⟩

theorem writes_and (hx : Writes free x d) (hy : Writes free y e) :
    Writes free (.and x y) (.and d e) := by
  have written := Written.and blank_space blank_space (List.cons_ne_nil _ _) (List.cons_ne_nil _ _)
    (.unary hx.written) hy.written
  refine writes_of_strict written ?_ (beq_sides hx hy)
  rw [Condition.write]
  simp

theorem writes_or (hx : Writes free x d) (hy : Writes free y e) :
    Writes free (.or x y) (.or d e) := by
  have written := Written.or blank_space blank_space (List.cons_ne_nil _ _) (List.cons_ne_nil _ _)
    (.unary hx.written) hy.written
  refine writes_of_strict written ?_ (beq_sides hx hy)
  rw [Condition.write]
  simp

theorem writes_not (hx : Writes free x d) : Writes free (.not x) (.not d) := by
  have inside : Written free (.rule x) d.write :=
    .sole (.alternative (.single (.requirement (.unary hx.written))))
  have written := Written.bang blank_nil (.parenthesised blank_nil blank_nil inside)
  refine ⟨?_, hx.same⟩
  rw [Condition.write]
  simpa using written

theorem writes_compare {t t' : Term} {a b : Operand σ} (op : Comparison) (ht : free t)
    (ha : WritesTerm free t a) (hb : WritesTerm free t' b) :
    Writes free (.compare op t t') (.compare op a b) := by
  refine ⟨?_, ?_⟩
  · have written := Written.compare op blank_space blank_space ht ha.written hb.written
    rw [Condition.write]
    simpa using written
  · change (op == op && a == a && b == b) = true
    rw [ha.same, hb.same, beq_self_eq_true]
    rfl

end Conditions

/-! ### Phrases as they are written -/

section Phrases

variable {c : Condition Term} {cs : List (Condition Term)}

theorem rewritten_not (ih : Rewritten r free (.negation c)) :
    Rewritten r free (.negation (.not c)) := by
  intro d hd finite
  rw [Condition.bind] at hd
  obtain ⟨a, ha, rfl⟩ := of_bind_pure hd
  cases finite with
  | not inside => exact writes_not (ih a ha inside)

theorem rewritten_cons (ih : Rewritten r free (.negation c))
    (ih' : Rewritten r free (.requirements cs)) : Rewritten r free (.requirements (c :: cs)) := by
  intro ds hds finite
  rw [Condition.bindAll] at hds
  obtain ⟨d, ds', hd, hds', rfl⟩ := of_bind_bind_pure hds
  exact .cons (ih d hd (finite d (by simp))) (ih' ds' hds' fun e he => finite e (by simp [he]))

theorem rewritten_single (ih : Rewritten r free (.negation c)) :
    Rewritten r free (.requirements [c]) := by
  refine rewritten_cons ih fun ds hds _ => ?_
  obtain rfl := Except.ok.inj hds
  exact .nil

theorem rewritten_only (ih : Rewritten r free (.requirements [c])) :
    Rewritten r free (.negation c) := by
  intro d hd finite
  have all : Condition.bindAll r [c] = .ok [d] := by
    rw [Condition.bindAll, hd]
    rfl
  have writes := ih [d] all (by simpa using finite)
  cases writes with
  | cons h _ => exact h

end Phrases

/-- Whatever a written phrase is bound to is written as that phrase. -/
theorem rewritten_of_written {ph : Phrase} {u : List Char} (h : Written free ph u) :
    Rewritten r free ph := by
  induction h with
  | null => exact rewritten_literal (fun _ => .null) fun _ => rfl
  | isTrue => exact rewritten_literal (fun _ => .isTrue) fun _ => rfl
  | isFalse => exact rewritten_literal (fun _ => .isFalse) fun _ => rfl
  | number t => exact rewritten_number _
  | string t => exact rewritten_string _
  | path whole => exact rewritten_path (by rw [String.toList_ofList]; exact .path whole)
  | pointer plain => exact rewritten_path (by rw [String.toList_ofList]; exact .pointer plain)
  | callNone isName ha hb =>
    refine rewritten_call isName fun os hos _ => ?_
    obtain rfl := Except.ok.inj hos
    exact .nil
  | call isName ha hb hd inside ih => exact rewritten_call isName ih
  | argument only ih =>
    intro os hos finite
    rw [Term.bindAll] at hos
    obtain ⟨o, os', ho, hos', rfl⟩ := of_bind_bind_pure hos
    obtain rfl := Except.ok.inj hos'
    exact .cons (ih o ho (finite o (by simp))) .nil
  | arguments ha hb first others ih ih' =>
    intro os hos finite
    rw [Term.bindAll] at hos
    obtain ⟨o, os', ho, hos', rfl⟩ := of_bind_bind_pure hos
    exact .cons (ih o ho (finite o (by simp))) (ih' os' hos' fun o ho => finite o (by simp [ho]))
  | operand safe only ih =>
    intro d hd finite
    rw [Condition.bind] at hd
    obtain ⟨o, ho, rfl⟩ := of_bind_pure hd
    cases finite with
    | operand finite =>
      have writes := ih o ho finite
      exact ⟨.operand safe writes.written, writes.same⟩
  | compare op ha hb safe left right ih ih' =>
    intro d hd finite
    rw [Condition.bind] at hd
    obtain ⟨a, b, ha, hb, rfl⟩ := of_bind_bind_pure hd
    cases finite with
    | compare left right => exact writes_compare op safe (ih a ha left) (ih' b hb right)
  | parenthesised ha hb inside ih => exact ih
  | bang ha inside ih => exact rewritten_not ih
  | word ha some inside ih => exact rewritten_not ih
  | unary only ih => exact ih
  | and ha hb some some' left right ih ih' =>
    intro d hd finite
    rw [Condition.bind] at hd
    obtain ⟨a, b, ha, hb, rfl⟩ := of_bind_bind_pure hd
    cases finite with
    | and left right => exact writes_and (ih a ha left) (ih' b hb right)
  | or ha hb some some' left right ih ih' =>
    intro d hd finite
    rw [Condition.bind] at hd
    obtain ⟨a, b, ha, hb, rfl⟩ := of_bind_bind_pure hd
    cases finite with
    | or left right => exact writes_or (ih a ha left) (ih' b hb right)
  | requirement only ih => exact rewritten_single ih
  | requirements ha hb first others ih ih' => exact rewritten_cons ih ih'
  | single only ih => exact rewritten_only ih
  | all several inside ih =>
    intro d hd finite
    rw [Condition.bind] at hd
    obtain ⟨ds, hds, rfl⟩ := of_bind_pure hd
    cases finite with
    | all inside => exact writes_all several (ih ds hds inside)
  | alternative only ih => exact rewritten_single ih
  | alternatives ha hb first others ih ih' => exact rewritten_cons ih ih'
  | sole only ih => exact rewritten_only ih
  | any several inside ih =>
    intro d hd finite
    rw [Condition.bind] at hd
    obtain ⟨ds, hds, rfl⟩ := of_bind_pure hd
    cases finite with
    | any inside => exact writes_any several (ih ds hds inside)

/-! ### Whole rules -/

theorem compile_eq_ok_iff {text : String} {t : Condition (Operand σ)} :
    compile r text = .ok t ↔ ∃ c, parse text = .ok c ∧ c.bind r = .ok t := by
  unfold compile
  rw [except_bind_eq_ok_iff]
  refine exists_congr fun c => and_congr_right fun _ => ?_
  cases c.bind r <;> simp

/-- What a rule was compiled to is written as a rule that is compiled to the same. -/
theorem compile_text {text : String} {t : Condition (Operand σ)} (h : compile r text = .ok t)
    (finite : t.Forall Operand.Finite) :
    ∃ t', compile r t.text = .ok t' ∧ (t' == t) = true ∧ t'.text = t.text := by
  obtain ⟨c, read, bound⟩ := compile_eq_ok_iff.1 h
  obtain ⟨u, written⟩ := writable_of_parse read
  have writes : Writes Free c t := rewritten_of_written written t bound finite
  have rule : Written Free (.rule c) t.write :=
    .sole (.alternative (.single (.requirement (.unary writes.written))))
  have again : parse t.text = .ok c := by
    have reads : parse (String.ofList ([] ++ (t.write ++ []))) = .ok c :=
      parse_of_safe safe_free rule (by simp) (by simp)
    simpa [Condition.text] using reads
  exact ⟨t, compile_eq_ok_iff.2 ⟨c, again, bound⟩, writes.same, rfl⟩

theorem compile_text_call_not :
    let five := Decimal.Numeral.toFloat ⟨false, ['5'], [], 0⟩
    let body : Implementation Unit := ⟨"not", Function.onTexts fun s t => s == t⟩
    let registry : Registry Unit :=
      ⟨[⟨"not", ⟨[.any, .number], .boolean⟩, body⟩], List.pairwise_singleton _ _⟩
    let t : Condition (Operand Unit) :=
      .operand (.call "not" [.path "$.a", .literal (.number five)] .boolean body)
    compile registry " not ($.a,5.)" = .ok t ∧ t.Forall Operand.Finite ∧
      ∃ t', compile registry t.text = .ok t' ∧ (t' == t) = true ∧ t'.text = t.text := by
  intro five body registry t
  have blank : Blank [' '] := blank_space
  have path : Written Free (.term (.path "$.a")) ['$', '.', 'a'] :=
    .path (p := [.child (.key "a")]) (by rfl)
  have number : Written Free (.term (.literal (.number five))) ['5', '.'] :=
    .number ⟨none, ['5'], some [], none, by simp, by simp, by simp, by simp⟩
  have call : Written Free (.term (.call "not" [.path "$.a", .literal (.number five)]))
      ['n', 'o', 't', ' ', '(', '$', '.', 'a', ',', '5', '.', ')'] :=
    .call ⟨by simp [Function.isNameStart], by simp, by simp [Function.isNameChar], by decide⟩
      blank blank_nil blank_nil (.arguments blank_nil blank_nil path (.argument number))
  have misses : Misses negated
      (['n', 'o', 't', ' ', '(', '$', '.', 'a', ',', '5', '.', ')'] ++ []) := by decide +kernel
  have rule := Written.sole (.alternative (.single (.requirement (.unary
    (.operand (free_of_misses (call.change trivial) misses) call)))))
  have read : parse " not ($.a,5.)" =
      .ok (.operand (.call "not" [.path "$.a", .literal (.number five)])) := by
    have one : ∀ x ∈ [' '], Text.isBlank x = true := List.all_eq_true.1 (by decide)
    have none : ∀ x ∈ ([] : List Char), Text.isBlank x = true := by simp
    have read := parse_of_safe safe_free rule one none
    rw [show " not ($.a,5.)" = String.ofList _ from rfl]
    exact read
  have bound : Condition.bind registry (.operand (.call "not" [.path "$.a",
      .literal (.number five)])) = .ok t := by rfl
  have compiled : compile registry " not ($.a,5.)" = .ok t := compile_eq_ok_iff.2 ⟨_, read, bound⟩
  have number : five.isFinite = true := by decide +kernel
  have finite : t.Forall Operand.Finite := by
    refine .operand (.call fun a mem => ?_)
    rcases List.mem_cons.1 mem with rfl | mem
    · exact .path _
    · rw [List.mem_singleton.1 mem]
      exact .literal (by rintro _ ⟨⟩; exact number)
  exact ⟨compiled, finite, compile_text compiled finite⟩

end Rule

end Verdict
