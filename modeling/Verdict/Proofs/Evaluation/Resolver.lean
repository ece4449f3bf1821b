import Verdict.Resolver

/-!
# Resolvers whose answers depend on nothing else

The answer of a resolver should depend on the document and on the text alone.  The world behind a
resolver may still change from one answer to the next, and not every world need be one that it can
come to; so `Resolver.Pure` speaks of the sound worlds, which the resolver never leaves.
-/

namespace Verdict

variable {σ : Type}

/-- In a sound world the answers depend on the document and on the text alone, and the world stays
sound. -/
structure Resolver.Pure (resolver : Resolver σ) (sound : σ → Prop)
    (look : Json → String → Option Json) : Prop where
  answers : ∀ document text world, sound world →
    ((resolver.resolve document text).run world).1 = look document text
  stays : ∀ document text world, sound world →
    sound ((resolver.resolve document text).run world).2

/-- Each text is remembered as what it reads as. -/
def Path.Memo.Sound (memo : Path.Memo) : Prop :=
  ∀ entry ∈ memo.entries, entry.2 = (Path.parse entry.1).toOption

namespace Path.Memo

theorem sound_empty : empty.Sound := by
  simp [Sound, empty]

theorem Sound.find? {memo : Memo} (h : memo.Sound) {text : String} {path : Option Path}
    (found : memo.find? text = some path) : path = (Path.parse text).toOption := by
  obtain ⟨before, after, split, -⟩ := List.lookup_eq_some_iff.1 found
  exact h (text, path) (by simp [split])

theorem mem_of_mem_makeRoom {capacity : Nat} {entries : List (String × Option Path)}
    {order : List String} {entry : String × Option Path}
    (mem : entry ∈ (makeRoom capacity entries order).entries) : entry ∈ entries := by
  induction order generalizing entries with
  | nil => exact mem
  | cons oldest order ih =>
    rw [makeRoom] at mem
    split at mem
    · exact (List.mem_filter.1 (ih mem)).1
    · exact mem

theorem Sound.insert {memo : Memo} (h : memo.Sound) (capacity : Nat) (text : String) :
    (memo.insert capacity text (Path.parse text).toOption).Sound := by
  unfold Memo.insert
  split
  · exact h
  · intro entry mem
    rcases List.mem_cons.1 mem with rfl | mem
    · rfl
    · exact h entry (mem_of_mem_makeRoom mem)

end Path.Memo

namespace Resolver

/-- What a path, or a JSON Pointer if they are allowed, refers to. -/
def target (pointers : Bool) (document : Json) (text : String) : Option Json :=
  if isPath text then (Path.parse text).toOption.bind fun path => path.query document
  else if pointers && isPointer text then document.pointer? text.toList
  else none

theorem run_compile (capacity : Nat) (text : String) (memo : Path.Memo) :
    (compile capacity text).run memo =
      match memo.find? text with
      | some path => (path, memo)
      | none => ((Path.parse text).toOption,
          memo.insert capacity text (Path.parse text).toOption) := by
  unfold compile
  cases h : memo.find? text with
  | some path =>
    simp [h]
    rfl
  | none =>
    simp [h]
    rfl

/-- A text that is read is remembered from then on, if there is room at all. -/
theorem memo_run_compile (capacity : Nat) (text : String) (memo : Path.Memo) :
    ((compile capacity text).run memo).2 =
      memo.insert capacity text (Path.parse text).toOption := by
  rw [run_compile]
  cases found : memo.find? text with
  | some path =>
    have again : capacity = 0 ∨ (memo.find? text).isSome := .inr (by rw [found, Option.isSome_some])
    rw [Path.Memo.insert, if_pos again]
  | none => rfl

theorem compile_of_sound {memo : Path.Memo} (h : memo.Sound) (capacity : Nat) (text : String) :
    ((compile capacity text).run memo).1 = (Path.parse text).toOption ∧
      ((compile capacity text).run memo).2.Sound := by
  rw [run_compile]
  cases found : memo.find? text with
  | some path => exact ⟨h.find? found, h⟩
  | none => exact ⟨rfl, h.insert capacity text⟩

/-- Only a text that begins like a path is read. -/
theorem world_run_reading (pointers : Bool) (read : String → StateM σ (Option Path)) (document : Json)
    (text : String) (world : σ) :
    (((reading pointers read).resolve document text).run world).2 =
      if isPath text then ((read text).run world).2 else world := by
  unfold reading
  by_cases path : isPath text
  · simp only [path, if_true, StateT.run_bind]
    rfl
  · by_cases pointer : (pointers && isPointer text) = true
    · simp only [path, pointer, if_true]
      rfl
    · simp only [path, pointer]
      rfl

/-- If each text is read as what it holds, the answers are what the paths refer to. -/
theorem pure_reading (pointers : Bool) {read : String → StateM σ (Option Path)} {sound : σ → Prop}
    (reads : ∀ text world, sound world →
      ((read text).run world).1 = (Path.parse text).toOption ∧ sound ((read text).run world).2) :
    (reading pointers read).Pure sound (target pointers) := by
  constructor
  · intro document text world here
    have answer := (reads text world here).1
    unfold reading target
    by_cases path : isPath text
    · simp only [path, if_true, StateT.run_bind]
      rw [← answer]
      rfl
    · by_cases pointer : (pointers && isPointer text) = true
      · simp only [path, pointer, if_true]
        rfl
      · simp only [path, pointer]
        rfl
  · intro document text world here
    rw [world_run_reading]
    split
    · exact (reads text world here).2
    · exact here

/-- How texts read as paths may be remembered without changing an answer. -/
theorem pure_jsonPath (pointers : Bool) (capacity : Nat) :
    (jsonPath pointers capacity).Pure Path.Memo.Sound (target pointers) :=
  pure_reading pointers fun text _ here => compile_of_sound here capacity text

/-- Counting the texts that are looked up changes no answer. -/
theorem Pure.counting {inner : Resolver σ} {sound : σ → Prop} {look : Json → String → Option Json}
    (h : inner.Pure sound look) : inner.counting.Pure (fun w => sound w.1) look where
  answers document text world here := h.answers document text world.1 here
  stays document text world here := h.stays document text world.1 here

end Resolver

end Verdict
