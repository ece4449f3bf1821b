import Verdict.Proofs.Evaluation.Reference
import Verdict.Proofs.Parser.Ends
import Verdict.Proofs.Rule.Sound

/-!
# What stands in a rule

All operands of a condition that is read were read from the text, wherever in the tree they stand: what
holds of each literal and of each path that is read at an end of the text holds throughout the
condition, `forall_of_parse`.  The induction is on the depth up to which terms and negations are read.
At the same time no list in the condition has less than two items, since a list of one is that one.
-/

namespace Verdict

/-- What holds of each literal and of each path text in a term. -/
inductive Term.Forall (literals : Literal → Prop) (paths : String → Prop) : Term → Prop
  | literal {l : Literal} (here : literals l) : Forall literals paths (.literal l)
  | path {text : String} (here : paths text) : Forall literals paths (.path text)
  | call {name : String} {arguments : List Term}
      (inside : ∀ t ∈ arguments, Forall literals paths t) :
      Forall literals paths (.call name arguments)

/-- No list in the condition has less than two items. -/
inductive Condition.Normal {α : Type} : Condition α → Prop
  | all {items : List (Condition α)} (several : 2 ≤ items.length) (inside : ∀ x ∈ items, Normal x) :
      Normal (.all items)
  | any {items : List (Condition α)} (several : 2 ≤ items.length) (inside : ∀ x ∈ items, Normal x) :
      Normal (.any items)
  | and {x y : Condition α} (left : Normal x) (right : Normal y) : Normal (.and x y)
  | or {x y : Condition α} (left : Normal x) (right : Normal y) : Normal (.or x y)
  | not {x : Condition α} (inside : Normal x) : Normal (.not x)
  | compare (op : Comparison) (a b : α) : Normal (.compare op a b)
  | operand (a : α) : Normal (.operand a)

namespace Rule

open Verdict.Parser

variable {text : List Char}

/-! ### Tokens -/

theorem ends_keyword (word : List Char) : Ends text (keyword word) :=
  (ends_token word).bind fun _ => ends_notBefore _

theorem ends_constant : Ends text constant := by
  refine ends_of_append fun s l r h => ?_
  obtain ⟨-, ⟨hs, -⟩ | ⟨hs, -⟩ | ⟨hs, -⟩⟩ := constant_eq_ok_iff.1 h
  · exact ⟨_, hs⟩
  · exact ⟨_, hs⟩
  · exact ⟨_, hs⟩

theorem ends_number : Ends text number := by
  refine Ends.bind (ends_of_append fun s n r h => ?_) fun _ => finds_pure trivial
  obtain ⟨t, hs, -⟩ := numeral_of_ok h
  exact ⟨t.text, hs⟩

theorem ends_string : Ends text string := by
  refine ends_of_append fun s l r h => ?_
  obtain ⟨t, hs, -⟩ := string_of_ok h
  exact ⟨t.text, hs⟩

theorem ends_functionName : Ends text functionName :=
  ends_of_append fun _ u _ h => ⟨u, (functionName_eq_ok_iff.1 h).1⟩

theorem ends_comparison : Ends text comparison := by
  have one (u : List Char) (op : Comparison) : Ends text (do token u; return op) :=
    (ends_token u).bind fun _ => finds_pure trivial
  exact (one _ _).orElse ((one _ _).orElse ((one _ _).orElse
    ((one _ _).orElse ((one _ _).orElse (one _ _)))))

theorem ends_negationMark : Ends text negationMark :=
  Finds.spaced ((ends_token _).orElse (ends_keyword _))

theorem finds_strictOperator :
    Finds text (fun join => join = .and ∨ join = .or) strictOperator :=
  Finds.spaced (Finds.orElse ((ends_keyword _).bind fun _ => finds_pure (.inl rfl))
    ((ends_keyword _).bind fun _ => finds_pure (.inr rfl)))

/-! ### Terms -/

section Terms

variable {literals : Literal → Prop} {paths : String → Prop}

theorem finds_call {p : Parser Term} (h : Finds text (Term.Forall literals paths) p) :
    Finds text (Term.Forall literals paths) (call p) :=
  ends_functionName.bind fun _ => (ends_char _).spaced.bind fun _ _ =>
    (h.sepBy (ends_char _).spaced).bind fun _ inside =>
      (ends_char _).spaced.bind fun _ _ => finds_pure (.call inside)

theorem finds_termUpTo (constants : Finds text literals constant) (numbers : Finds text literals number)
    (strings : Finds text literals string) (here : Finds text (Term.Forall literals paths) path)
    (depth : Nat) : Finds text (Term.Forall literals paths) (termUpTo depth) := by
  induction depth with
  | zero => exact finds_never
  | succ depth ih =>
    refine Finds.spaced (Finds.orElse (constants.map fun _ => .literal) ?_)
    refine (finds_call ih).orElse (here.orElse ?_)
    exact (numbers.map fun _ => .literal).orElse (strings.map fun _ => .literal)

end Terms

/-! ### Conditions -/

section Conditions

variable {fine : Term → Prop} {p : Parser (Condition Term)}

/-- A condition without needless lists, all operands of which are fine. -/
def Good (fine : Term → Prop) (c : Condition Term) : Prop :=
  c.Normal ∧ c.Forall fine

theorem finds_compared (terms : ∀ depth, Finds text fine (termUpTo depth)) :
    Finds text (Good fine) compared := by
  have one : Finds text fine term := fun s _ _ hs h => terms (s.length + 1) hs h
  have other : Finds text (fun x : Comparison × Term => fine x.2)
      (do let op ← spaced comparison; let right ← term; return (op, right)) :=
    ends_comparison.spaced.bind fun op _ => one.bind fun right found => finds_pure found
  refine one.bind fun left found => other.optional.bind fun o behind => finds_pure ?_
  cases o with
  | none => exact ⟨.operand left, .operand found⟩
  | some x => exact ⟨.compare x.1 left x.2, .compare found (behind x rfl)⟩

theorem finds_strict (h : Finds text (Good fine) p) : Finds text (Good fine) (strict p) := by
  have step : Finds text (fun other => (other.1 = .and ∨ other.1 = .or) ∧ Good fine other.2)
      (do let join ← strictOperator; let right ← p; return (join, right)) :=
    finds_strictOperator.bind fun _ kind => h.bind fun _ found => finds_pure ⟨kind, found⟩
  refine h.bind fun first found => step.many.bind fun others behind => finds_pure ?_
  exact joined_of (fun hx hy => ⟨.and hx.1 hy.1, .and hx.2 hy.2⟩)
    (fun hx hy => ⟨.or hx.1 hy.1, .or hx.2 hy.2⟩) found behind

theorem finds_requirements (h : Finds text (Good fine) p) :
    Finds text (Good fine) (requirements p) :=
  ((finds_strict h).sepBy1 (ends_token _).spaced).bind fun _ ⟨nonempty, each⟩ =>
    finds_pure (collect_of (fun _ several each =>
      ⟨.all several fun x mem => (each x mem).1, .all fun x mem => (each x mem).2⟩) nonempty each)

theorem finds_alternatives (h : Finds text (Good fine) p) :
    Finds text (Good fine) (alternatives p) :=
  ((finds_requirements h).sepBy1 (ends_token _).spaced).bind fun _ ⟨nonempty, each⟩ =>
    finds_pure (collect_of (fun _ several each =>
      ⟨.any several fun x mem => (each x mem).1, .any fun x mem => (each x mem).2⟩) nonempty each)

theorem finds_negationUpTo (terms : ∀ depth, Finds text fine (termUpTo depth)) (depth : Nat) :
    Finds text (Good fine) (negationUpTo depth) := by
  induction depth with
  | zero => exact finds_never
  | succ depth ih =>
    refine Finds.orElse ?_ (Finds.orElse ?_ (finds_compared terms))
    · exact ends_negationMark.bind fun _ => ih.bind fun _ found =>
        finds_pure ⟨.not found.1, .not found.2⟩
    · exact (ends_char _).spaced.bind fun _ _ => (finds_alternatives ih).bind fun _ found =>
        (ends_char _).spaced.bind fun _ _ => finds_pure found

theorem finds_condition (terms : ∀ depth, Finds text fine (termUpTo depth)) :
    Finds text (Good fine) condition :=
  fun s _ _ hs h => finds_alternatives (finds_negationUpTo terms (s.length + 1)) hs h

end Conditions

/-- A text that holds a condition is read as a whole, from the first character that is no blank to the
last one. -/
theorem parse_eq_ok_iff {text : String} {c : Condition Term} :
    parse text = .ok c ↔ condition (Text.trim text.toList) = .ok c [] := by
  unfold parse run
  cases condition (Text.trim text.toList) with
  | ok c' r => cases r <;> simp
  | miss here => simp
  | abort here => simp

/-- A rule has no needless lists, and what holds of all that is read as a literal or as a path at any
end of its text holds of all its operands. -/
theorem good_of_parse {text : String} {c : Condition Term} {literals : Literal → Prop}
    {paths : String → Prop} (h : parse text = .ok c)
    (constants : Finds (Text.trim text.toList) literals constant)
    (numbers : Finds (Text.trim text.toList) literals number)
    (strings : Finds (Text.trim text.toList) literals string)
    (here : Finds (Text.trim text.toList) (Term.Forall literals paths) path) :
    Good (Term.Forall literals paths) c :=
  (finds_condition (finds_termUpTo constants numbers strings here) (List.suffix_refl _)
    (parse_eq_ok_iff.1 h)).2

end Rule

end Verdict
