import Verdict.Proofs.Decimal.Written
import Verdict.Proofs.Path.Meaning
import Verdict.Proofs.Resolver.Sharing
import Verdict.Proofs.Rule.Resolvable

/-!
# Two notations for one place

A place in a document is told by the keys and positions that lead to it.  `Address.pointer` writes them
as a JSON Pointer, and `Spells` says how they are written as a path: keys in quotes that they do not
hold, positions counted from the start or from the end.  The two notations go to a resolver in different
ways, and it finds the same value: `resolve_address`.
-/

namespace Verdict

open Verdict.Parser

/-! ### Places -/

/-- A step from a value to one of its children. -/
inductive Json.Down where
  | member (key : String)
  | element (position : Nat)

/-- The steps from the root of a document to a place in it. -/
abbrev Address : Type := List Json.Down

/-- The value at a place. -/
def Json.at? : Address → Json → Option Json
  | [], v => some v
  | .member key :: address, v => (v.member? key).bind (Json.at? address)
  | .element i :: address, v => (v.item? i).bind (Json.at? address)

/-! ### Pointers -/

namespace Json.Pointer

/-- A key as a reference token, which holds no slash. -/
def escape (key : List Char) : List Char :=
  key.flatMap fun c => if c = '~' then ['~', '0'] else if c = '/' then ['~', '1'] else [c]

theorem unescape_cons {c : Char} (h : c ≠ '~') (s : List Char) :
    unescape (c :: s) = c :: unescape s := by
  rw [unescape.eq_def]
  simp [h]

theorem unescape_escape (key : List Char) : unescape (escape key) = key := by
  induction key with
  | nil => rfl
  | cons c key ih =>
    rw [escape, List.flatMap_cons, ← escape]
    by_cases tilde : c = '~'
    · subst tilde
      exact congrArg (List.cons _) ih
    by_cases slash : c = '/'
    · subst slash
      exact congrArg (List.cons _) ih
    rw [if_neg tilde, if_neg slash, List.singleton_append, unescape_cons tilde, ih]

theorem not_mem_escape (key : List Char) : '/' ∉ escape key := by
  intro mem
  obtain ⟨c, -, hc⟩ := List.mem_flatMap.1 mem
  by_cases tilde : c = '~'
  · simp [tilde] at hc
  by_cases slash : c = '/'
  · simp [slash] at hc
  · rw [if_neg tilde, if_neg slash, List.mem_singleton] at hc
    exact slash hc.symm

theorem unescape_of_not_mem {token : List Char} (plain : '~' ∉ token) : unescape token = token := by
  induction token with
  | nil => rfl
  | cons c token ih =>
    rw [unescape_cons (List.ne_of_not_mem_cons plain).symm, ih (List.not_mem_of_not_mem_cons plain)]

theorem tokensAfter_append {token u : List Char} (plain : '/' ∉ u) (s : List Char) :
    tokensAfter token (u ++ s) = tokensAfter (u.reverse ++ token) s := by
  induction u generalizing token with
  | nil => rfl
  | cons c u ih =>
    have here : c ≠ '/' := (List.ne_of_not_mem_cons plain).symm
    rw [List.cons_append, tokensAfter.eq_3 token c _ here, List.reverse_cons, List.append_assoc]
    exact ih (List.not_mem_of_not_mem_cons plain)

/-- Tokens without slashes are told apart by the slashes in front of them. -/
theorem tokens?_flatMap {tokens : List (List Char)} (plain : ∀ token ∈ tokens, '/' ∉ token) :
    tokens? (tokens.flatMap ('/' :: ·)) = some (tokens.map unescape) := by
  cases tokens with
  | nil => rfl
  | cons token tokens =>
    rw [List.flatMap_cons, List.cons_append, tokens?, Option.some_inj]
    induction tokens generalizing token with
    | nil =>
      rw [List.flatMap_nil, tokensAfter_append (plain token (by simp)), tokensAfter]
      simp
    | cons next tokens ih =>
      have others := ih next fun t mem => plain t (List.mem_cons_of_mem token mem)
      rw [tokensAfter_append (plain token (by simp)), List.flatMap_cons, List.cons_append,
        tokensAfter, others]
      simp

/-- No position but zero begins with a zero. -/
theorem head?_toDigits_ne {n : Nat} (h : n ≠ 0) : (Nat.toDigits 10 n).head? ≠ some '0' := by
  induction n using Nat.strong_induction_on with
  | _ n ih =>
    by_cases small : n < 10
    · rw [Nat.toDigits_of_lt_base small, List.head?_cons, Ne, Option.some_inj, Nat.digitChar_eq_zero]
      exact h
    · have front := ih (n / 10) (by omega) (by omega)
      rw [Nat.toDigits_of_base_le (by decide) (by omega), List.head?_append]
      cases first : (Nat.toDigits 10 (n / 10)).head? with
      | none => exact absurd (List.head?_eq_none_iff.1 first) Nat.toDigits_ne_nil
      | some c => simpa [first] using front

/-- A position is read as it is written. -/
theorem position?_toDigits {n : Nat} (fits : n < 0x10000000000000000) :
    position? (Nat.toDigits 10 n) = some n := by
  by_cases zero : n = 0
  · subst zero
    rfl
  have front := head?_toDigits_ne zero
  have digits : (Nat.toDigits 10 n).all Char.isDigit = true :=
    List.all_eq_true.2 fun _ mem => Decimal.isDigit_of_mem_toDigits mem
  have value := Decimal.ofDigits_toDigits n
  rw [position?.eq_def]
  split
  · rename_i h
    exact absurd h Nat.toDigits_ne_nil
  · rename_i h
    simp [h] at front
  · rename_i h
    simp [h] at front
  · rw [digits, value, decide_eq_true fits]
    rfl

end Json.Pointer

namespace Address

/-- The reference token of a step. -/
def token : Json.Down → List Char
  | .member key => Json.Pointer.escape key.toList
  | .element i => Nat.toDigits 10 i

/-- The JSON Pointer to a place. -/
def pointer (address : Address) : String :=
  String.ofList ((address.map token).flatMap ('/' :: ·))

theorem not_mem_token (step : Json.Down) : '/' ∉ token step := by
  cases step with
  | member key => exact Json.Pointer.not_mem_escape _
  | element i =>
    intro mem
    exact absurd (Decimal.isDigit_of_mem_toDigits mem) (by decide)

theorem walk_tokens {address : Address} {document node : Json}
    (there : document.at? address = some node)
    (near : ∀ i, .element i ∈ address → i < 0x8000000000000000) :
    Json.Pointer.walk ((address.map token).map Json.Pointer.unescape) document = some node := by
  induction address generalizing document with
  | nil => exact there
  | cons step address ih =>
    have rest {v : Json} (there : v.at? address = some node) :=
      ih there fun i mem => near i (List.mem_cons_of_mem step mem)
    rw [List.map_cons, List.map_cons, Json.Pointer.walk]
    cases step with
    | member key =>
      obtain ⟨v, found, there⟩ := Option.bind_eq_some_iff.1 there
      refine Option.bind_eq_some_iff.2 ⟨v, ?_, rest there⟩
      rw [token, Json.Pointer.unescape_escape]
      cases document with
      | object members =>
        rw [Json.Pointer.step, String.ofList_toList]
        exact found
      | _ => cases found
    | element i =>
      obtain ⟨v, found, there⟩ := Option.bind_eq_some_iff.1 there
      refine Option.bind_eq_some_iff.2 ⟨v, ?_, rest there⟩
      have plain : '~' ∉ Nat.toDigits 10 i := fun mem =>
        absurd (Decimal.isDigit_of_mem_toDigits mem) (by decide)
      have fits := near i (by simp)
      rw [token, Json.Pointer.unescape_of_not_mem plain]
      cases document with
      | array items =>
        rw [Json.Pointer.step, Json.Pointer.position?_toDigits (by omega), Option.bind_some]
        exact found
      | _ => cases found

end Address

/-! ### Paths -/

/-- A position as it is written in a bracket, counted from the start or, below zero, from the end. -/
def positionText (n : Int) : List Char :=
  if n < 0 then '-' :: Nat.toDigits 10 n.natAbs else Nat.toDigits 10 n.natAbs

namespace Path

theorem signedValue_natAbs (n : Int) :
    signedValue (if n < 0 then some '-' else none) (Nat.toDigits 10 n.natAbs) = n := by
  rw [signedValue, Decimal.ofDigits_toDigits]
  by_cases before : n < 0
  · rw [if_pos before, if_pos rfl]
    omega
  · rw [if_neg before, if_neg (by simp)]
    omega

/-- A position in a bracket. -/
def Inner.ofPosition (n : Int) (fits : isPosition n = true) : Inner :=
  .index (if n < 0 then some '-' else none) (Nat.toDigits 10 n.natAbs)
    (by split <;> simp) Nat.toDigits_ne_nil (fun _ => Decimal.isDigit_of_mem_toDigits)
    (by rw [signedValue_natAbs]; exact isPosition_iff.1 fits)

theorem Inner.text_ofPosition (n : Int) (fits : isPosition n = true) :
    (ofPosition n fits).text = positionText n := by
  rw [ofPosition, text, positionText]
  by_cases before : n < 0
  · rw [if_pos before, if_pos before]
    rfl
  · rw [if_neg before, if_neg before]
    rfl

theorem Inner.selector_ofPosition (n : Int) (fits : isPosition n = true) :
    (ofPosition n fits).selector = .index n := by
  rw [ofPosition, selector, signedValue_natAbs]

/-- A bracket as a step, with nothing around what stands in it. -/
def Step.ofInner (inner : Inner) : Step :=
  .bracket false [] inner [] blank_nil blank_nil

theorem Step.text_ofInner (inner : Inner) : (ofInner inner).text = '[' :: (inner.text ++ [']']) := rfl

theorem Step.segment_ofInner (inner : Inner) : (ofInner inner).segment = .child inner.selector := rfl

end Path

/-- The text leads to the place as a path does behind its dollar sign: a key stands in quotes that it
does not hold, a position is counted from the start or from the end and fits 64 bits, as it does in any
array that fits into memory. -/
inductive Spells : Json → Address → List Char → Prop
  | here (v : Json) : Spells v [] []
  | member {v w : Json} {key : String} {quote : Char} {address : Address} {u : List Char}
      (isQuote : quote = '\'' ∨ quote = '"') (closed : quote ∉ key.toList)
      (found : v.member? key = some w) (rest : Spells w address u) :
      Spells v (.member key :: address) ('[' :: quote :: (key.toList ++ quote :: ']' :: u))
  | element {items : List Json} {w : Json} {i : Nat} {n : Int} {address : Address} {u : List Char}
      (place : n = i ∨ n = i - items.length) (fits : Path.isPosition n = true)
      (found : items[i]? = some w) (rest : Spells w address u) :
      Spells (.array items) (.element i :: address) ('[' :: (positionText n ++ ']' :: u))

namespace Path

theorem choice_position {items : List Json} {w : Json} {i : Nat} {n : Int}
    (place : n = i ∨ n = i - items.length) (found : items[i]? = some w) :
    (Selector.index n).choice (.array items) = [w] := by
  obtain ⟨inside, -⟩ := List.getElem?_eq_some_iff.1 found
  rw [Selector.choice]
  rcases place with rfl | rfl
  · rw [if_pos (by omega), Int.toNat_natCast, found]
    rfl
  · have counted : ((items.length : Int) + (i - items.length)).toNat = i := by omega
    rw [if_neg (by omega), if_pos (by omega), counted, found]
    rfl

/-- What spells a place is derived by the grammar, and stands for a path to that place. -/
theorem derivation_of_spells {document node : Json} {address : Address} {u : List Char}
    (spells : Spells document address u) (there : document.at? address = some node) :
    ∃ d : Derivation, d.body = u ∧ isDefinite d.path = true ∧ meaning d.path document = [node] := by
  induction spells with
  | here v =>
    obtain rfl := Option.some.inj there
    exact ⟨[], rfl, rfl, rfl⟩
  | @member v w key quote address u isQuote closed found rest ih =>
    rw [Json.at?, found] at there
    obtain ⟨d, rfl, definite, means⟩ := ih there
    refine ⟨.ofInner (.key quote key.toList isQuote closed) :: d, ?_, ?_, ?_⟩
    · simp [Step.text_ofInner, Inner.text]
    · exact definite
    · have segment : (Step.ofInner (.key quote key.toList isQuote closed)).segment =
          .child (.key key) := by
        rw [Step.segment_ofInner, Inner.selector, String.ofList_toList]
      rw [Derivation.path, List.map_cons, segment, meaning, Selector.choice, found,
        Option.toList_some, List.flatMap_singleton]
      exact means
  | @element items w i n address u place fits found rest ih =>
    have item : (Json.array items).item? i = some w := found
    rw [Json.at?, item] at there
    obtain ⟨d, rfl, definite, means⟩ := ih there
    refine ⟨.ofInner (.ofPosition n fits) :: d, ?_, ?_, ?_⟩
    · simp [Step.text_ofInner, Inner.text_ofPosition]
    · rw [Derivation.path, List.map_cons, Step.segment_ofInner, Inner.selector_ofPosition]
      exact definite
    · rw [Derivation.path, List.map_cons, Step.segment_ofInner, Inner.selector_ofPosition, meaning,
        choice_position place found, List.flatMap_singleton]
      exact means

end Path

/-- A place can be spelled if no key on the way holds both quotes and each position fits 64 bits. -/
theorem exists_spells {document node : Json} {address : Address}
    (there : document.at? address = some node)
    (quotable : ∀ key, .member key ∈ address → '\'' ∉ key.toList ∨ '"' ∉ key.toList)
    (near : ∀ i, .element i ∈ address → i < 0x8000000000000000) :
    ∃ u, Spells document address u := by
  induction address generalizing document with
  | nil => exact ⟨[], .here document⟩
  | cons step address ih =>
    have rest {v : Json} (there : v.at? address = some node) :=
      ih there (fun key mem => quotable key (List.mem_cons_of_mem step mem))
        fun i mem => near i (List.mem_cons_of_mem step mem)
    cases step with
    | member key =>
      obtain ⟨v, found, there⟩ := Option.bind_eq_some_iff.1 there
      obtain ⟨u, spells⟩ := rest there
      rcases quotable key (by simp) with closed | closed
      · exact ⟨_, .member (.inl rfl) closed found spells⟩
      · exact ⟨_, .member (.inr rfl) closed found spells⟩
    | element i =>
      obtain ⟨v, found, there⟩ := Option.bind_eq_some_iff.1 there
      obtain ⟨u, spells⟩ := rest there
      have fits : Path.isPosition i = true := by
        have := near i (by simp)
        exact Path.isPosition_iff.2 ⟨by omega, by omega⟩
      cases document with
      | array items => exact ⟨_, .element (.inl rfl) fits found spells⟩
      | _ => cases found

/-! ### Resolving -/

namespace Resolver

theorem target_pointer {document node : Json} {address : Address}
    (there : document.at? address = some node)
    (near : ∀ i, .element i ∈ address → i < 0x8000000000000000) :
    target true document address.pointer = some node := by
  have begins : isPath address.pointer = false ∧ isPointer address.pointer = true := by
    rw [isPath, isPointer, Address.pointer, String.toList_ofList]
    cases address with
    | nil => exact ⟨rfl, rfl⟩
    | cons step address => exact ⟨rfl, rfl⟩
  have plain : ∀ token ∈ address.map Address.token, '/' ∉ token := by
    intro token mem
    obtain ⟨step, -, rfl⟩ := List.mem_map.1 mem
    exact Address.not_mem_token step
  rw [target, begins.1, begins.2, if_neg (by simp), if_pos (by simp), Json.pointer?, Address.pointer,
    String.toList_ofList, Json.Pointer.tokens?_flatMap plain, Option.bind_some]
  exact Address.walk_tokens there near

/-- The answer to the text of a derivation is that of its path. -/
theorem target_text (d : Path.Derivation) (pointers : Bool) (document : Json) :
    target pointers document (String.ofList d.text) = d.path.query document := by
  have begins : isPath (String.ofList d.text) = true := by
    rw [isPath, String.toList_ofList]
    rfl
  rw [target, begins, if_pos rfl, Path.parse_text]
  rfl

/-- A resolver that allows JSON Pointers answers the pointer to a place and each path that spells it
with the value at that place, whatever it was asked before. -/
theorem resolve_address {document node : Json} {address : Address}
    (there : document.at? address = some node)
    (quotable : ∀ key, .member key ∈ address → '\'' ∉ key.toList ∨ '"' ∉ key.toList)
    (near : ∀ i, .element i ∈ address → i < 0x8000000000000000)
    (capacity : Nat) (before : List (Json × String)) :
    let resolver := jsonPath true capacity
    let memo := ((resolver.answerAll before).run Path.Memo.empty).2
    let answer (text : String) := ((resolver.resolve document text).run memo).1
    answer address.pointer = some node ∧ (∃ u, Spells document address u) ∧
      ∀ u, Spells document address u → answer (String.ofList ('$' :: u)) = some node := by
  intro resolver memo answer
  have sound : memo.Sound := (pure_jsonPath true capacity).sound_of_leads Path.Memo.sound_empty
    (leads_answerAll before Path.Memo.empty)
  have answers (text : String) : answer text = target true document text :=
    (pure_jsonPath true capacity).answers document text memo sound
  refine ⟨?_, exists_spells there quotable near, fun u spells => ?_⟩
  · rw [answers, target_pointer there near]
  · obtain ⟨d, rfl, definite, means⟩ := Path.derivation_of_spells spells there
    have answered := target_text d true document
    rw [Path.query, if_pos definite, Path.select_eq_meaning, means] at answered
    exact (answers _).trans answered

theorem resolve_address_of_slash_and_quote :
    let document : Json := .object [("a/~1", .object [("it's", .array [.null, .bool true])])]
    let answer (text : String) := ((jsonPath true 4).resolve document text |>.run Path.Memo.empty).1
    answer "/a~1~01/it's/1" = some (.bool true) ∧
      answer "$['a/~1'][\"it's\"][-1]" = some (.bool true) := by
  intro document answer
  let address : Address := [.member "a/~1", .member "it's", .element 1]
  have there : document.at? address = some (.bool true) := rfl
  have spells : Spells document address "['a/~1'][\"it's\"][-1]".toList :=
    .member (.inl rfl) (by decide) rfl <| .member (.inr rfl) (by decide) rfl <|
      .element (n := -1) (.inr rfl) rfl rfl (.here _)
  obtain ⟨byPointer, -, byPath⟩ :=
    resolve_address there (by simp [address]) (by simp [address]) 4 []
  exact ⟨byPointer, byPath _ spells⟩

end Resolver

end Verdict
