import Verdict.Proofs.Evaluation.Agreement
import Verdict.Proofs.Path.Definite
import Verdict.Proofs.Resolver.Addresses

/-!
# Functions of arrays

`arr.len` and `arr.contains` take a path to an array as well as a path to all its elements, and come
to the same.  What they come to can be asked without them: an array holds a value just when a path to
one of its elements equals that value.  An element and what a path to it resolves to are the same
literal, which is compared from the same side in both cases.
-/

namespace Verdict

/-! ### Paths that go on -/

namespace Path

theorem select_append_child (path : Path) (selector : Selector) (document : Json) :
    select (path ++ [.child selector]) document =
      (path.select document).flatMap selector.choice := by
  rw [select, selectFrom_append, selectFrom_eq_flatMap, select]
  refine congrArg (List.flatMap · _) (funext fun v => ?_)
  rw [meaning, show meaning [] = fun w => [w] from rfl, List.flatMap_singleton']

/-- A path text without blanks around it is derived as it stands. -/
theorem exists_derivation {text : String} {path : Path} (trimmed : Text.Trimmed text.toList)
    (h : parse text = .ok path) : ∃ d : Derivation, text = String.ofList d.text ∧ d.path = path := by
  rw [parse_eq_ok_iff, trimmed.trim] at h
  obtain ⟨d, same, derived⟩ := derivation_of_path h
  rw [List.append_nil] at same
  exact ⟨d, by rw [← same, String.ofList_toList], derived⟩

namespace Derivation

theorem ofList_text_append (d : Derivation) (inner : Inner) :
    String.ofList (text (d ++ [.ofInner inner])) =
      String.ofList d.text ++ String.ofList ('[' :: (inner.text ++ [']'])) := by
  rw [← String.ofList_append, text, text, body, body, List.flatMap_append, List.flatMap_singleton,
    Step.text_ofInner, List.cons_append]

theorem path_append (d : Derivation) (inner : Inner) :
    path (d ++ [.ofInner inner]) = d.path ++ [.child inner.selector] := by
  rw [path, List.map_append]
  rfl

end Derivation

end Path

namespace Resolver

variable {d : Path.Derivation}

/-- All children of the value that a definite path leads to. -/
theorem target_wildcard (definite : Path.isDefinite d.path = true) (pointers : Bool)
    (document : Json) :
    target pointers document (String.ofList d.text ++ "[*]") =
      some (.array (((target pointers document (String.ofList d.text)).map Json.children).getD [])) := by
  have goes : String.ofList d.text ++ "[*]" =
      String.ofList (Path.Derivation.text (d ++ [.ofInner .wildcard])) :=
    (d.ofList_text_append .wildcard).symm
  have several : Path.isDefinite (d.path ++ [.child .wildcard]) = false := by
    simp [Path.isDefinite, Segment.isDefinite]
  rw [goes, target_text, target_text, d.path_append, Path.Inner.selector, Path.query,
    if_neg (by simp [several]), Path.select_append_child, ← Path.toList_query definite]
  cases d.path.query document with
  | none => rfl
  | some v =>
    rw [Option.toList_some, List.flatMap_singleton]
    rfl

/-- One element of the value that a definite path leads to. -/
theorem target_position (definite : Path.isDefinite d.path = true) {n : Int}
    (fits : Path.isPosition n = true) (pointers : Bool) (document : Json) :
    target pointers document
        (String.ofList d.text ++ String.ofList ('[' :: (positionText n ++ [']']))) =
      (target pointers document (String.ofList d.text)).bind
        fun v => ((Selector.index n).choice v).head? := by
  have goes := d.ofList_text_append (.ofPosition n fits)
  rw [Path.Inner.text_ofPosition] at goes
  have single : Path.isDefinite (d.path ++ [.child (.index n)]) = true := by
    simpa [Path.isDefinite, Segment.isDefinite] using definite
  rw [← goes, target_text, target_text, d.path_append, Path.Inner.selector_ofPosition, Path.query,
    if_pos single, Path.select_append_child, ← Path.toList_query definite]
  cases d.path.query document with
  | none => rfl
  | some v =>
    rw [Option.toList_some, List.flatMap_singleton]
    rfl

end Resolver

/-! ### Calls -/

namespace Operand

/-- The call of `arr.len` with an argument. -/
def arrayLength (a : Operand Path.Memo) : Operand Path.Memo :=
  .call "arr.len" [a] .number ⟨"arr.len", Function.arrayLength⟩

/-- The call of `arr.contains` with two arguments. -/
def arrayContains (a b : Operand Path.Memo) : Operand Path.Memo :=
  .call "arr.contains" [a, b] .boolean ⟨"arr.contains", Function.arrayContains⟩

theorem bind_arrayLength (a : Operand Path.Memo) :
    Registry.default.bind "arr.len" [a] = .ok a.arrayLength := by
  cases a <;> rfl

theorem bind_arrayContains (a b : Operand Path.Memo) :
    Registry.default.bind "arr.contains" [a, b] = .ok (a.arrayContains b) := by
  cases a <;> cases b <;> rfl

theorem Bound.arrayLength {a : Operand Path.Memo} (bound : a.Bound) : a.arrayLength.Bound :=
  .call (by simpa using bound) (bind_arrayLength a)

theorem Bound.arrayContains {a b : Operand Path.Memo} (left : a.Bound) (right : b.Bound) :
    (a.arrayContains b).Bound :=
  .call (by simpa using ⟨left, right⟩) (bind_arrayContains a b)

variable {look : String → Option Json}

theorem value_arrayLength (text : String) :
    value look (arrayLength (.path text : Operand Path.Memo)) =
      .number (Float.ofNat (((look text).map Json.children).getD []).length) := by
  have counted : Function.length (Meaning.literalOf (look text)) =
      (((look text).map Json.children).getD []).length := by
    cases look text with
    | none => rfl
    | some v => cases v <;> simp [Meaning.literalOf, Literal.ofJson, Function.length, Json.children]
  rw [← counted]
  rfl

theorem value_arrayContains {text : String} {items : List Json}
    (resolves : look text = some (.array items)) (v : Operand Path.Memo) :
    value look (arrayContains (.path text) v) =
      .bool (items.any fun item => Literal.ofJson item == v.value look) := by
  have given : Function.contains (Meaning.literalOf (look text)) (v.value look) =
      items.any fun item => Literal.ofJson item == v.value look := by
    rw [resolves]
    rfl
  rw [← given]
  rfl

end Operand

/-- Is the value neither an array nor an object? -/
def Json.isScalar : Json → Bool
  | .array _ => false
  | .object _ => false
  | _ => true

theorem Json.children_of_isScalar {v : Json} (scalar : v.isScalar = true) : v.children = [] := by
  cases v <;> first | rfl | cases scalar

/-! ### What they come to -/

section Answers

variable {look : String → Option Json} {items : List Json}

/-- If there is a text for each element, some element equals a value just when some text stands for
it. -/
theorem any_beq_iff {element : Nat → String} {v : Operand Path.Memo}
    (each : ∀ i, i < items.length → look (element i) = items[i]?) :
    (items.any fun item => Literal.ofJson item == v.value look) = true ↔
      ∃ i, i < items.length ∧
        (Condition.compare .equal (.path (element i)) v).holds look = true := by
  have literal {i : Nat} (inside : i < items.length) :
      (Condition.compare .equal (.path (element i)) v).holds look =
        (Literal.ofJson items[i] == v.value look) := by
    rw [Condition.holds, Comparison.holds, Operand.value, each i inside,
      List.getElem?_eq_getElem inside]
    rfl
  rw [List.any_eq_true]
  constructor
  · rintro ⟨item, mem, equal⟩
    obtain ⟨i, inside, rfl⟩ := List.getElem_of_mem mem
    exact ⟨i, inside, (literal inside).trans equal⟩
  · rintro ⟨i, inside, equal⟩
    exact ⟨items[i], List.getElem_mem inside, (literal inside).symm.trans equal⟩

end Answers

/-- The functions of arrays come to the same for a definite path and for the path to all children of
what it leads to; and an array has an element that equals a value just when the element at some
position does, counted from the start or from the end.  That holds in any session, and for arrays
whose positions fit 64 bits, as they do in any array that fits into memory. -/
theorem array_functions_agree_with_paths (settings : Settings) (document : Json) {text : String}
    {path : Path} (trimmed : Text.Trimmed text.toList) (accepted : Path.parse text = .ok path)
    (definite : path.isDefinite = true) {v : Operand Path.Memo} (bound : v.Bound)
    {memo : Path.Memo} (sound : memo.Sound) {uses : List (Use Path.Memo)}
    (lawful : ∀ use ∈ uses, use.Lawful Path.Memo.Sound) :
    let env : Environment Path.Memo := { Evaluator.ofSettings settings with document }
    let session := (Session.start memo).after env uses
    let answer (o : Operand Path.Memo) : Literal := ((o.meaning env).object session).1
    let equals (o : Operand Path.Memo) : Bool :=
      ((Condition.compare .equal o v).evaluate env session).1
    let resolved := ((env.resolver.resolve document text).run memo).1
    let element (n : Int) : Operand Path.Memo :=
      .path (text ++ String.ofList ('[' :: (positionText n ++ [']'])))
    let whole : Operand Path.Memo := .path text
    let all : Operand Path.Memo := .path (text ++ "[*]")
    answer whole.arrayLength = answer all.arrayLength ∧
    ((∀ w ∈ resolved, w.isScalar = true) → answer whole.arrayLength = .number 0) ∧
    ∀ items, resolved = some (.array items) → items.length ≤ 0x8000000000000000 →
      answer (whole.arrayContains v) = answer (all.arrayContains v) ∧
      (answer (whole.arrayContains v) = .bool true ↔
        ∃ i : Nat, i < items.length ∧ equals (element i) = true) ∧
      (answer (whole.arrayContains v) = .bool true ↔
        ∃ i : Nat, i < items.length ∧ equals (element (i - items.length)) = true) := by
  intro env session answer equals resolved element whole all
  let look : String → Option Json := Resolver.target settings.jsonPointerPaths document
  have resolves : env.resolver.Pure Path.Memo.Sound (Resolver.target settings.jsonPointerPaths) :=
    Resolver.pure_jsonPath _ _
  have faithful : session.Faithful Path.Memo.Sound look :=
    Session.faithful_after resolves (Session.faithful_start sound) lawful
  have answers {o : Operand Path.Memo} (h : o.Bound) : answer o = o.value look :=
    ((Operand.denotes_of_bound resolves h).object session faithful).1 _ rfl
  have compares (n : Int) :
      equals (element n) = (Condition.compare .equal (element n) v).holds look :=
    (Condition.ensures_holds resolves (.compare (.path _) bound) session faithful).1
  have here : resolved = look text := resolves.answers document text memo sound
  obtain ⟨d, rfl, rfl⟩ := Path.exists_derivation trimmed accepted
  have children : look (String.ofList d.text ++ "[*]") =
      some (.array (((look (String.ofList d.text)).map Json.children).getD [])) :=
    Resolver.target_wildcard definite settings.jsonPointerPaths document
  have lengths := answers (.arrayLength (.path (String.ofList d.text)))
  rw [Operand.value_arrayLength] at lengths
  refine ⟨?_, fun scalar => ?_, fun items array fits => ?_⟩
  · rw [lengths, answers (.arrayLength (.path _)), Operand.value_arrayLength, children]
    rfl
  · rw [lengths]
    cases found : look (String.ofList d.text) with
    | none => rfl
    | some w =>
      rw [Option.map_some, Option.getD_some,
        Json.children_of_isScalar (scalar w (here.trans found))]
      rfl
  · rw [here] at array
    have elements (i : Nat) (n : Int) (place : n = i ∨ n = i - items.length)
        (inside : i < items.length) :
        look (String.ofList d.text ++ String.ofList ('[' :: (positionText n ++ [']']))) =
          items[i]? := by
      have position := Path.isPosition_iff.2 (show -0x8000000000000000 ≤ n ∧ n < _ by omega)
      have found := List.getElem?_eq_getElem inside
      refine (Resolver.target_position definite position _ _).trans ?_
      change (look _).bind _ = _
      rw [array, Option.bind_some, Path.choice_position place found, found]
      rfl
    have contained := answers (.arrayContains (.path (String.ofList d.text)) bound)
    rw [Operand.value_arrayContains array] at contained
    rw [array] at children
    refine ⟨?_, ?_, ?_⟩
    · rw [contained, answers (.arrayContains (.path _) bound),
        Operand.value_arrayContains children]
      rfl
    · rw [contained, Literal.bool.injEq]
      simp only [compares]
      exact any_beq_iff fun i => elements i i (.inl rfl)
    · rw [contained, Literal.bool.injEq]
      simp only [compares]
      exact any_beq_iff fun i => elements i (i - items.length) (.inr rfl)

theorem array_functions_agree_with_paths_of_two :
    let document : Json := .object [("a", .array [.null, .string "x"])]
    let env : Environment Path.Memo := { Evaluator.ofSettings .default with document }
    let session := (Session.start Path.Memo.empty).after env [.object (.path "$.a")]
    let answer (o : Operand Path.Memo) : Literal := ((o.meaning env).object session).1
    let v : Operand Path.Memo := .literal (.string "x")
    let equals (text : String) : Bool :=
      ((Condition.compare .equal (.path text) v).evaluate env session).1
    answer (Operand.path "$.a").arrayLength = answer (Operand.path "$.a[*]").arrayLength ∧
    answer ((Operand.path "$.a").arrayContains v) = answer ((Operand.path "$.a[*]").arrayContains v) ∧
    (answer ((Operand.path "$.a").arrayContains v) = .bool true ↔
      equals "$.a[-2]" = true ∨ equals "$.a[-1]" = true) := by
  intro document env session answer v equals
  have trimmed : Text.Trimmed "$.a".toList :=
    Path.trimmed_text [.name false ['a'] (by simp) (List.forall_mem_singleton.2 rfl)]
  have accepted : Path.parse "$.a" = .ok [.child (.key "a")] := rfl
  have lawful : ∀ use ∈ [Use.object (.path "$.a")], use.Lawful Path.Memo.Sound := by
    simpa [Use.Lawful] using Operand.Lawful.path "$.a"
  obtain ⟨lengths, -, arrays⟩ := array_functions_agree_with_paths .default document trimmed accepted
    rfl (.literal (.string "x")) Path.Memo.sound_empty lawful
  obtain ⟨contained, -, fromEnd⟩ := arrays [.null, .string "x"] rfl (by decide)
  refine ⟨lengths, contained, fromEnd.trans ⟨?_, ?_⟩⟩
  · rintro ⟨i, inside, equal⟩
    match i, inside with
    | 0, _ => exact .inl equal
    | 1, _ => exact .inr equal
  · rintro (equal | equal)
    · exact ⟨0, by decide, equal⟩
    · exact ⟨1, by decide, equal⟩

end Verdict
