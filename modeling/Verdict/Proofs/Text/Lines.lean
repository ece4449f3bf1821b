import Verdict.Text.Lines
import Mathlib.Data.List.Basic

/-!
# Texts and their lines

A text that is empty or ends with a line feed consists of whole lines: what follows it has no part in
its lines, and they are as many as its line feeds.  A carriage return in front of each line feed makes
no difference.
-/

namespace Verdict.Text

/-- The text is empty, or it ends with a line feed. -/
def IsWhole (s : List Char) : Prop :=
  ∀ c ∈ s.getLast?, c = '\n'

/-- The text with a carriage return in front of each line feed. -/
def withReturns (s : List Char) : List Char :=
  s.flatMap fun c => if c = '\n' then ['\r', '\n'] else [c]

variable {line s a b : List Char} {c : Char}

theorem linesAfter_feed : linesAfter line ('\n' :: s) = (dropReturn line).reverse :: lines s := rfl

theorem linesAfter_of_ne (h : c ≠ '\n') : linesAfter line (c :: s) = linesAfter (c :: line) s := by
  rw [linesAfter]
  exact h

theorem isWhole_of_cons (h : IsWhole (c :: s)) : IsWhole s := by
  intro d mem
  refine h d ?_
  rw [List.getLast?_cons, Option.mem_def.1 mem]
  rfl

theorem ne_nil_of_isWhole (h : IsWhole (c :: s)) (other : c ≠ '\n') : s ≠ [] := by
  rintro rfl
  exact other (h c rfl)

/-- What holds of whole lines of which the first continues `line`, as they are read character by
character.  If there is a line to continue, then it is ended. -/
theorem IsWhole.induction {p : List Char → List Char → Prop} (nil : p [] [])
    (feed : ∀ line s, p [] s → p line ('\n' :: s))
    (other : ∀ line c s, c ≠ '\n' → p (c :: line) s → p line (c :: s))
    (whole : IsWhole s) (ended : s = [] → line = []) : p line s := by
  induction s generalizing line with
  | nil =>
    obtain rfl := ended rfl
    exact nil
  | cons c s ih =>
    have rest := isWhole_of_cons whole
    by_cases h : c = '\n'
    · rw [h]
      exact feed line s (ih rest fun _ => rfl)
    · exact other line c s h (ih rest fun empty => absurd empty (ne_nil_of_isWhole whole h))

/-- Whole lines stay as they are in front of anything. -/
theorem lines_append (whole : IsWhole a) (b : List Char) : lines (a ++ b) = lines a ++ lines b := by
  refine IsWhole.induction (p := fun line a => linesAfter line (a ++ b) = linesAfter line a ++ lines b)
    rfl (fun line s ih => ?_) (fun line c s h ih => ?_) whole fun _ => rfl
  · rw [List.cons_append, linesAfter_feed, linesAfter_feed, List.cons_append]
    exact congrArg _ ih
  · rw [List.cons_append, linesAfter_of_ne h, linesAfter_of_ne h]
    exact ih

/-- Whole lines are as many as their line feeds. -/
theorem length_lines (whole : IsWhole s) : (lines s).length = s.count '\n' := by
  refine IsWhole.induction (p := fun line s => (linesAfter line s).length = s.count '\n')
    rfl (fun line s ih => ?_) (fun line c s h ih => ?_) whole fun _ => rfl
  · rw [linesAfter_feed, List.length_cons, List.count_cons_self]
    exact congrArg (· + 1) ih
  · rw [linesAfter_of_ne h, List.count_cons_of_ne h]
    exact ih

theorem mem_of_mem_dropReturn (mem : c ∈ dropReturn line) : c ∈ line := by
  unfold dropReturn at mem
  split at mem
  · exact List.mem_cons_of_mem _ mem
  · exact mem

theorem mem_of_mem_linesAfter {l : List Char} (here : l ∈ linesAfter line s) (mem : c ∈ l) :
    c ∈ line ∨ c ∈ s := by
  induction s generalizing line with
  | nil =>
    rw [linesAfter] at here
    split at here
    · simp at here
    · rw [List.mem_singleton.1 here, List.mem_reverse] at mem
      exact .inl mem
  | cons d s ih =>
    by_cases feed : d = '\n'
    · rw [feed, linesAfter_feed] at here
      rcases List.mem_cons.1 here with rfl | later
      · exact .inl (mem_of_mem_dropReturn (List.mem_reverse.1 mem))
      · have there : c ∈ s := (ih later).resolve_left List.not_mem_nil
        exact .inr (List.mem_cons_of_mem d there)
    · rw [linesAfter_of_ne feed] at here
      rcases ih here with before | there
      · rcases List.mem_cons.1 before with rfl | before
        · exact .inr List.mem_cons_self
        · exact .inl before
      · exact .inr (List.mem_cons_of_mem d there)

/-- The lines of a text hold no other characters than the text. -/
theorem mem_of_mem_lines {l : List Char} (here : l ∈ lines s) (mem : c ∈ l) : c ∈ s :=
  (mem_of_mem_linesAfter here mem).resolve_left List.not_mem_nil

theorem dropReturn_of_not_mem (h : '\r' ∉ line) : dropReturn line = line := by
  unfold dropReturn
  split
  · simp at h
  · rfl

theorem linesAfter_withReturns (hline : '\r' ∉ line) (h : '\r' ∉ s) :
    linesAfter line (withReturns s) = linesAfter line s := by
  induction s generalizing line with
  | nil => rfl
  | cons c s ih =>
    obtain ⟨first, rest⟩ := not_or.1 (List.mem_cons.not.1 h)
    by_cases feed : c = '\n'
    · have ended : withReturns (c :: s) = '\r' :: '\n' :: withReturns s := by
        rw [withReturns, List.flatMap_cons, if_pos feed]
        rfl
      rw [ended, linesAfter_of_ne (by decide), linesAfter_feed, feed, linesAfter_feed, lines, lines,
        ih (by simp) rest, dropReturn_of_not_mem hline]
      rfl
    · have same : withReturns (c :: s) = c :: withReturns s := by
        rw [withReturns, List.flatMap_cons, if_neg feed]
        rfl
      rw [same, linesAfter_of_ne feed, linesAfter_of_ne feed]
      exact ih (List.mem_cons.not.2 (not_or.2 ⟨first, hline⟩)) rest

/-- A carriage return that belongs to the ending of a line makes no difference. -/
theorem lines_withReturns (h : '\r' ∉ s) : lines (withReturns s) = lines s :=
  linesAfter_withReturns (by simp) h

end Verdict.Text
