import Verdict.Proofs.Rule.Normal
import Verdict.Proofs.Rule.Printing
import Verdict.Proofs.Function.Registry

/-!
# Conditions built by hand

A condition need not come from a text.  Whoever builds one puts lists of any length where they like,
and their own functions behind the calls.  If its operands can be said in a rule at all,
`Operand.Expressible`, then so can the condition: its text is a rule that is compiled to the condition
without its needless lists, and that is decided by the same steps, `compile_source_eq_normal`.
-/

namespace Verdict

open Verdict.Parser

variable {σ : Type} {r : Registry σ} {name : String} {o : Operand σ}

/-! ### Names of functions -/

namespace Rule

/-- The words that must not stand in front of the first point of a name, if it is called in a rule. -/
def reserved : List (List Char) :=
  [['n', 'u', 'l', 'l'], ['t', 'r', 'u', 'e'], ['f', 'a', 'l', 's', 'e'], ['n', 'o', 't']]

theorem callName_of_isName (isName : Function.isName name = true)
    (constants : stem name.toList ∉
      [['n', 'u', 'l', 'l'], ['t', 'r', 'u', 'e'], ['f', 'a', 'l', 's', 'e']]) :
    CallName name.toList := by
  unfold Function.isName at isName
  cases h : name.toList with
  | nil => simp [h] at isName
  | cons c cs =>
    simp only [h, Bool.and_eq_true, List.all_eq_true] at isName
    obtain ⟨⟨start, plain⟩, -⟩ := isName
    rw [h] at constants
    refine ⟨by simpa using start, by simp, fun d mem => ?_, constants⟩
    rcases List.mem_cons.1 mem with rfl | mem
    · exact isNameChar_of_isNameStart start
    · exact plain d mem

end Rule

/-! ### What can be said in a rule -/

/-- A rule can hold the literal: null, a truth value, a finite number or a string. -/
def Literal.Expressible : Literal → Prop
  | .number x => x.isFinite = true
  | .node _ => False
  | _ => True

/-- A rule can hold the operand: its literals, its paths, and its calls, which the registry makes. -/
inductive Operand.Expressible (r : Registry σ) : Operand σ → Prop
  | literal {l : Literal} (only : l.Expressible) : Expressible r (.literal l)
  | path {text : String} (whole : Rule.path text.toList = .ok (.path text) []) :
      Expressible r (.path text)
  | call {name : String} {arguments : List (Operand σ)} {o : Operand σ}
      (inside : ∀ a ∈ arguments, Expressible r a) (made : r.bind name arguments = .ok o)
      (apart : Rule.stem name.toList ∉ Rule.reserved) : Expressible r o

mutual

/-- The term that an operand was bound from. -/
def Operand.term : Operand σ → Term
  | .literal l => .literal l
  | .path text => .path text
  | .call name arguments _ _ => .call name (Operand.terms arguments)

/-- The terms that operands were bound from. -/
def Operand.terms : List (Operand σ) → List Term
  | [] => []
  | a :: operands => a.term :: Operand.terms operands

end

theorem Operand.terms_eq_map (operands : List (Operand σ)) : terms operands = operands.map term := by
  induction operands with
  | nil => rfl
  | cons a operands ih => rw [terms, List.map_cons, ih]

namespace Condition

variable {α β : Type}

mutual

/-- The condition with other operands in place of its own. -/
def map (f : α → β) : Condition α → Condition β
  | .all items => .all (mapAll f items)
  | .any items => .any (mapAll f items)
  | .and x y => .and (x.map f) (y.map f)
  | .or x y => .or (x.map f) (y.map f)
  | .not x => .not (x.map f)
  | .compare op a b => .compare op (f a) (f b)
  | .operand a => .operand (f a)

/-- The conditions with other operands in place of their own. -/
def mapAll (f : α → β) : List (Condition α) → List (Condition β)
  | [] => []
  | x :: items => x.map f :: mapAll f items

end

end Condition

/-! ### Binding again -/

theorem Operand.bindAll_terms {operands : List (Operand σ)}
    (each : ∀ a ∈ operands, a.term.bind r = .ok a) :
    Term.bindAll r (terms operands) = .ok operands := by
  induction operands with
  | nil => rfl
  | cons a operands ih =>
    rw [terms, Term.bindAll, each a (by simp), ih fun b mem => each b (List.mem_cons_of_mem a mem)]
    rfl

/-- A call that was made is made again from the terms of its arguments. -/
theorem Operand.bind_term_of_bind {arguments : List (Operand σ)}
    (each : ∀ a ∈ arguments, a.term.bind r = .ok a) (made : r.bind name arguments = .ok o) :
    o.term.bind r = .ok o := by
  obtain ⟨returns, implementation, rfl⟩ := Rule.call_of_bind made
  rw [term, Term.bind, bindAll_terms each]
  exact made

theorem Operand.Expressible.bind_term (h : o.Expressible r) : o.term.bind r = .ok o := by
  induction h with
  | literal only => rfl
  | path whole => rfl
  | call inside made apart ih => exact bind_term_of_bind ih made

/-- If the terms of a condition are bound to its operands, then the condition is bound to itself. -/
theorem Condition.bind_map_term {c : Condition (Operand σ)}
    (h : c.Forall fun o => o.term.bind r = .ok o) : (c.map Operand.term).bind r = .ok c := by
  have list {items : List (Condition (Operand σ))}
      (each : ∀ x ∈ items, (x.map Operand.term).bind r = .ok x) :
      bindAll r (mapAll Operand.term items) = .ok items := by
    induction items with
    | nil => rfl
    | cons x items ih =>
      rw [mapAll, bindAll, each x (by simp), ih fun y mem => each y (List.mem_cons_of_mem x mem)]
      rfl
  induction h with
  | all inside ih => rw [map, bind, list ih]; rfl
  | any inside ih => rw [map, bind, list ih]; rfl
  | and left right ihx ihy => rw [map, bind, ihx, ihy]; rfl
  | or left right ihx ihy => rw [map, bind, ihx, ihy]; rfl
  | not inside ih => rw [map, bind, ih]; rfl
  | compare left right => rw [map, bind, left, right]; rfl
  | operand only => rw [map, bind, only]; rfl

/-! ### Operands as they are written -/

theorem Literal.Expressible.finite {l : Literal} (h : l.Expressible) : l.Finite := by
  rintro x mem
  cases l with
  | number y =>
    obtain rfl : y = x := by simpa [number?] using mem
    exact h
  | _ => simp [number?] at mem

theorem Operand.finite_of_bind {arguments : List (Operand σ)} (each : ∀ a ∈ arguments, a.Finite)
    (made : r.bind name arguments = .ok o) : o.Finite := by
  obtain ⟨returns, implementation, rfl⟩ := Rule.call_of_bind made
  exact .call each

theorem Operand.Expressible.finite (h : o.Expressible r) : o.Finite := by
  induction h with
  | literal only => exact .literal only.finite
  | path whole => exact .path _
  | call inside made apart ih => exact finite_of_bind ih made

namespace Rule

variable {free : Term → Prop}

theorem written_path {text : String} (whole : path text.toList = .ok (.path text) []) :
    Written free (.term (.path text)) text.toList := by
  obtain ⟨u, hu, same, shape⟩ := path_of_ok whole
  obtain rfl : text = String.ofList u := Term.path.inj same
  rw [String.toList_ofList]
  rcases shape with ⟨p, hp⟩ | ⟨v, rfl, plain⟩
  · exact .path hp
  · exact .pointer plain

theorem rewritten_of_expressible {l : Literal} (h : l.Expressible) :
    Rewritten r free (.term (.literal l)) := by
  cases l with
  | null => exact rewritten_literal (fun _ => .null) fun _ => rfl
  | bool b =>
    cases b with
    | true => exact rewritten_literal (fun _ => .isTrue) fun _ => rfl
    | false => exact rewritten_literal (fun _ => .isFalse) fun _ => rfl
  | number x => exact rewritten_number x
  | string s => exact rewritten_string s
  | node v => exact h.elim

theorem writesTerm_terms {operands : List (Operand σ)}
    (each : ∀ a ∈ operands, WritesTerm free a.term a) :
    List.Forall₂ (WritesTerm free) (Operand.terms operands) operands := by
  induction operands with
  | nil => exact .nil
  | cons a operands ih =>
    exact .cons (each a (by simp)) (ih fun b mem => each b (List.mem_cons_of_mem a mem))

/-- A call that was made is written as the term it was bound from, if its arguments are. -/
theorem writesTerm_of_bind {arguments : List (Operand σ)} (made : r.bind name arguments = .ok o)
    (isName : CallName name.toList) (inside : ∀ a ∈ arguments, a.term.bind r = .ok a ∧ a.Finite)
    (each : ∀ a ∈ arguments, WritesTerm free a.term a) : WritesTerm free o.term o := by
  have again := Operand.bind_term_of_bind (fun a mem => (inside a mem).1) made
  have finite := Operand.finite_of_bind (fun a mem => (inside a mem).2) made
  have call : Rewritten r free
      (.term (.call (String.ofList name.toList) (Operand.terms arguments))) := by
    refine rewritten_call isName fun os bound _ => ?_
    -- the arguments of the call are what their terms are bound to
    rw [Operand.bindAll_terms fun a mem => (inside a mem).1] at bound
    obtain rfl := Except.ok.inj bound
    exact writesTerm_terms each
  obtain ⟨returns, implementation, rfl⟩ := call_of_bind made
  rw [String.ofList_toList] at call
  exact call _ again finite

/-- An operand that can be said in a rule is written as the term it was bound from. -/
theorem writesTerm_term (filled : r.Filled) (h : o.Expressible r) : WritesTerm free o.term o := by
  induction h with
  | literal only => exact rewritten_of_expressible (r := r) only _ rfl (.literal only.finite)
  | path whole => exact rewritten_path (r := r) (written_path whole) _ rfl (.path _)
  | call inside made apart ih =>
    have isName : CallName _ := callName_of_isName (filled.isName_of_bind made) fun mem =>
      apart (List.mem_append_left [['n', 'o', 't']] mem)
    exact writesTerm_of_bind made isName
      (fun a mem => ⟨(inside a mem).bind_term, (inside a mem).finite⟩) ih

theorem notCalledNot_term (h : o.Expressible r) : NotCalledNot o.term := by
  cases h with
  | literal only => trivial
  | path whole => trivial
  | call inside made apart =>
    obtain ⟨returns, implementation, rfl⟩ := call_of_bind made
    exact fun called => apart (by simp [called, reserved])

/-! ### Conditions as they are written -/

section Conditions

variable {c : Condition (Operand σ)} {ds : List (Condition (Operand σ))}

/-- A list of any length is written as the condition that it stands for. -/
theorem writes_collected {join : List (Condition (Operand σ)) → Condition (Operand σ)}
    {join' : List (Condition Term) → Condition Term} {none : Bool}
    (joins : ∀ items, (join items).map Operand.term = join' (Condition.mapAll Operand.term items))
    (empty : Writes free (.operand (.literal (.bool none))) (join []))
    (single : ∀ {c d}, Writes free c d → Writes free c (join [d]))
    (several : ∀ {cs ds}, 2 ≤ cs.length → List.Forall₂ (Writes free) cs ds →
      Writes free (join' cs) (join ds))
    (each : ∀ d ∈ ds, Writes free (d.normal.map Operand.term) d) :
    Writes free ((Condition.collected join none (Condition.normalAll ds)).map Operand.term)
      (join ds) := by
  have all (ds : List (Condition (Operand σ)))
      (each : ∀ d ∈ ds, Writes free (d.normal.map Operand.term) d) :
      List.Forall₂ (Writes free) (Condition.mapAll Operand.term (Condition.normalAll ds)) ds := by
    induction ds with
    | nil => exact .nil
    | cons d ds ih =>
      exact .cons (each d (by simp)) (ih fun e mem => each e (List.mem_cons_of_mem d mem))
  match ds, each with
  | [], _ => exact empty
  | [d], each => exact single (each d (by simp))
  | d :: e :: ds, each =>
    have joined : Condition.collected join none (Condition.normalAll (d :: e :: ds)) =
        join (Condition.normalAll (d :: e :: ds)) := rfl
    rw [joined, joins]
    exact several (by simp [Condition.normalAll, Condition.mapAll]) (all _ each)

theorem writes_single {t : Condition Term} (h : Writes free t c) :
    Writes free t (.all [c]) ∧ Writes free t (.any [c]) := by
  have inside : Written free (.rule t) c.write :=
    .sole (.alternative (.single (.requirement (.unary h.written))))
  have same : (c.beq c && true) = true := by
    rw [Bool.and_true]
    exact h.same
  exact ⟨writes_of_rule inside rfl same, writes_of_rule inside rfl same⟩

theorem writes_constant {b : Bool} (text : c.write = (Literal.bool b).write)
    (same : (c == c) = true) : Writes NotCalledNot (.operand (.literal (.bool b))) c := by
  refine ⟨?_, same⟩
  rw [text]
  cases b with
  | true => exact .operand trivial .isTrue
  | false => exact .operand trivial .isFalse

/-- A condition whose operands can be said in a rule is written as the condition without its needless
lists. -/
theorem writes_normal (filled : r.Filled) (h : c.Forall (Operand.Expressible r)) :
    Writes NotCalledNot (c.normal.map Operand.term) c := by
  induction h with
  | all inside ih =>
    exact writes_collected (fun _ => rfl) (writes_constant rfl rfl)
      (fun h => (writes_single h).1) writes_all ih
  | any inside ih =>
    exact writes_collected (fun _ => rfl) (writes_constant rfl rfl)
      (fun h => (writes_single h).2) writes_any ih
  | and left right ihx ihy => exact writes_and ihx ihy
  | or left right ihx ihy => exact writes_or ihx ihy
  | not inside ih => exact writes_not ih
  | compare left right =>
    exact writes_compare _ (notCalledNot_term left) (writesTerm_term filled left)
      (writesTerm_term filled right)
  | operand only =>
    have writes : WritesTerm NotCalledNot _ _ := writesTerm_term filled only
    exact ⟨.operand (notCalledNot_term only) writes.written, writes.same⟩

end Conditions

end Rule

/-- The text of a condition is compiled to the condition without its needless lists, and to decide that
one comes to the same, with the same lookups. -/
theorem Rule.compile_source_eq_normal (filled : r.Filled) {root : Condition (Operand σ)}
    (expressible : root.Forall (Operand.Expressible r)) :
    compile r (ofCondition root).source = .ok root.normal ∧
      ∀ (e : Evaluator σ) (document : Json),
        e.examine root.normal document = e.examine root document := by
  have constant (b : Bool) : (Operand.literal (.bool b)).Expressible r := .literal trivial
  refine ⟨compile_eq_ok_iff.2 ⟨root.normal.map Operand.term, ?_, ?_⟩, fun e => e.examine_normal root⟩
  · have writes := writes_normal filled expressible
    have rule : Written NotCalledNot (.rule (root.normal.map Operand.term)) root.write :=
      .sole (.alternative (.single (.requirement (.unary writes.written))))
    have reads : parse (String.ofList ([] ++ (root.write ++ []))) = _ :=
      parse_of_safe safe_notCalledNot rule (by simp) (by simp)
    simpa [ofCondition, Condition.text] using reads
  · exact Condition.bind_map_term ((expressible.normal constant).mono fun _ h => h.bind_term)

theorem Rule.compile_source_eq_normal_of_nested :
    let body : Implementation Unit := ⟨"tag.nulls", Function.onTexts fun s t => s == t⟩
    let tag : Function Unit := ⟨"tag.nulls", ⟨[.any, .number], .boolean⟩, body⟩
    let registry : Registry Unit := Registry.default.insert tag (by rfl)
    let call : Operand Unit := .call "tag.nulls" [.path "/a~1b", .literal (.number 2.5)] .boolean body
    let lone : Condition (Operand Unit) := .compare .less (.path "$..a[-1]") (.literal (.string "it's"))
    let root : Condition (Operand Unit) :=
      .and (.all [.any [.operand call]]) (.not (.any [.all [], .any [lone], .any []]))
    (registry.Filled ∧ root.Forall (Operand.Expressible registry)) ∧
    compile registry (ofCondition root).source = .ok (.and (.operand call)
      (.not (.any [.operand (.literal (.bool true)), lone, .operand (.literal (.bool false))]))) ∧
    ∀ (e : Evaluator Unit) (document : Json),
      e.examine root.normal document = e.examine root document := by
  intro body tag registry call lone root
  have isName : Function.isName tag.name = true := by decide +kernel
  have filled : registry.Filled := by
    refine .register Registry.filled_default (f := tag) ?_
    rw [Registry.register, if_pos isName]
    rfl
  have number : (Operand.literal (.number 2.5)).Expressible registry :=
    .literal (show Float.isFinite 2.5 = true by decide +kernel)
  have made : registry.bind "tag.nulls" [.path "/a~1b", .literal (.number 2.5)] = .ok call := by
    have found : registry.find? "tag.nulls" = some tag := Registry.find?_insert _
    rw [Registry.bind, found]
    rfl
  have called : call.Expressible registry := by
    refine .call (fun a mem => ?_) made (by decide +kernel)
    rcases List.mem_cons.1 mem with rfl | mem
    · exact .path (by rfl)
    · rw [List.mem_singleton.1 mem]
      exact number
  have compared : lone.Forall (Operand.Expressible registry) :=
    .compare (.path (by rfl)) (.literal trivial)
  have expressible : root.Forall (Operand.Expressible registry) := by
    refine .and (.all ?_) (.not (.any ?_))
    · simpa using .any (by simpa using .operand called)
    · simpa using ⟨.all (by simp), .any (by simpa using compared), .any (by simp)⟩
  exact ⟨⟨filled, expressible⟩, compile_source_eq_normal filled expressible⟩

end Verdict
