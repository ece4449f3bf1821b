import Verdict.Proofs.Decimal.Finite
import Verdict.Proofs.Rule.Contents
import Verdict.Proofs.Rule.Printing

/-!
# The numbers of a rule

No number of a rule is a NaN, and each is the nearest to one that is written in the text with digits,
`numbers_of_parse`.  It need not be finite: what is written may be too large, and is then read as an
infinity, which does not keep the rule from being accepted, `infinite_number_of_parse`.
-/

namespace Verdict.Rule

open Verdict.Parser Verdict.Decimal

variable {text : List Char}

/-- If the literal is a number, then it is the value of one that is written in the text. -/
def NumberIn (text : List Char) (l : Literal) : Prop :=
  ∀ x ∈ l.number?, ∃ t : NumberText, t.text <:+: text ∧ x = t.numeral.toFloat ∧
    FiniteBelow t.numeral.toDecimal.value x

theorem finds_number : Finds text (NumberIn text) number := by
  intro s l r here h
  obtain ⟨behind, -⟩ := ends_number here h
  obtain ⟨n, m, read, rest⟩ := bind_eq_ok_iff.1 h
  obtain ⟨t, rfl, rfl⟩ := numeral_of_ok read
  obtain ⟨rfl, -⟩ : Literal.number t.numeral.toFloat = l ∧ m = r := by simpa using rest
  refine ⟨behind, fun x hx => ⟨t, ?_, ?_⟩⟩
  · exact (List.prefix_append t.text m).isInfix.trans here.isInfix
  · obtain rfl : t.numeral.toFloat = x := Option.some.inj hx
    exact ⟨rfl, t.numeral.finiteBelow_toFloat⟩

theorem finds_constant : Finds text (NumberIn text) constant := by
  intro s l r here h
  obtain ⟨behind, -⟩ := ends_constant here h
  obtain ⟨-, ⟨-, rfl⟩ | ⟨-, rfl⟩ | ⟨-, rfl⟩⟩ := constant_eq_ok_iff.1 h
  all_goals exact ⟨behind, by simp [NumberIn, Literal.number?]⟩

theorem finds_string : Finds text (NumberIn text) string := by
  intro s l r here h
  obtain ⟨behind, -⟩ := ends_string here h
  obtain ⟨t, -, rfl⟩ := string_of_ok h
  exact ⟨behind, by simp [NumberIn, Literal.number?]⟩

/-- What is written without blanks around it is read as a whole. -/
theorem parse_of_negation {c : Condition Term} {u : List Char}
    (written : Written NotCalledNot (.negation c) u) : parse (String.ofList u) = .ok c := by
  have rule := Written.sole (.alternative (.single (.requirement (.unary written))))
  have none : ∀ x ∈ ([] : List Char), Text.isBlank x = true := by simp
  have read := parse_of_safe safe_notCalledNot rule none none
  rwa [List.nil_append, List.append_nil] at read

/-- Each number in a rule is the nearest to one that is written in the text.  It is no NaN, and it is
finite just when what is written lies below the limit. -/
theorem numbers_of_parse {text : String} {c : Condition Term} (accepted : parse text = .ok c) :
    c.Forall (Term.Forall (NumberIn (Text.trim text.toList)) fun _ => True) := by
  refine (good_of_parse accepted finds_constant finds_number finds_string ?_).2
  intro s t r here h
  obtain ⟨u, rfl, rfl, -⟩ := path_of_ok h
  exact ⟨(List.suffix_append u r).trans here, .path trivial⟩

theorem numbers_of_parse_large :
    let large : NumberText := ⟨none, ['1'], none, some ⟨'e', none, ['3', '0', '8'], by simp, by simp,
      by simp, by simp⟩, by simp, by simp, by simp, by simp⟩
    let larger : NumberText := ⟨none, ['1'], none, some ⟨'e', none, ['3', '0', '9'], by simp, by simp,
      by simp, by simp⟩, by simp, by simp, by simp, by simp⟩
    let c : Condition Term := .compare .less (.call "abs" [.literal (.number large.numeral.toFloat)])
      (.literal (.number larger.numeral.toFloat))
    parse "abs(1e308)<1e309" = .ok c ∧
      c.Forall (Term.Forall (NumberIn (Text.trim "abs(1e308)<1e309".toList)) fun _ => True) ∧
      large.numeral.toFloat.isFinite = true ∧ larger.numeral.toFloat = infinity := by
  intro large larger c
  have notNot : stem "abs".toList ≠ ['n', 'o', 't'] := by decide
  have call : Written NotCalledNot (.term (.call "abs" [.literal (.number large.numeral.toFloat)]))
      ['a', 'b', 's', '(', '1', 'e', '3', '0', '8', ')'] :=
    .call ⟨by simp [Function.isNameStart], by simp, by simp [Function.isNameChar], by decide⟩
      blank_nil blank_nil blank_nil (.argument (.number large))
  have compared : Written NotCalledNot (.negation c)
      ['a', 'b', 's', '(', '1', 'e', '3', '0', '8', ')', '<', '1', 'e', '3', '0', '9'] :=
    .compare .less blank_nil blank_nil notNot call (.number larger)
  have read := parse_of_negation compared
  rw [show String.ofList _ = "abs(1e308)<1e309" from rfl] at read
  exact ⟨read, numbers_of_parse read, by decide +kernel, by decide +kernel⟩

/-- A number that is too large is accepted as well. -/
theorem infinite_number_of_parse :
    ∃ c, parse "1e999" = .ok c ∧ ¬ c.Forall (Term.Forall Literal.Finite fun _ => True) := by
  let t : NumberText := ⟨none, ['1'], none, some ⟨'e', none, ['9', '9', '9'], by simp, by simp,
    by simp, by simp⟩, by simp, by simp, by simp, by simp⟩
  have alone : Written NotCalledNot (.negation (.operand (.literal (.number t.numeral.toFloat))))
      t.text := .operand trivial (.number t)
  have read := parse_of_negation alone
  rw [show String.ofList t.text = "1e999" from rfl] at read
  have infinite : t.numeral.toFloat.isFinite = false := by decide +kernel
  refine ⟨_, read, fun finite => ?_⟩
  cases finite with
  | operand only =>
    cases only with
    | literal here => exact Bool.false_ne_true (infinite.symm.trans (here _ rfl))

end Verdict.Rule
