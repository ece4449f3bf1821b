import Verdict.Documents
import Verdict.Json.Reader
import Verdict.Proofs.Text.Lines

/-!
# Documents on lines

Each line holds something by itself: nothing if it is blank, or else a document, as its reader has it.
The first line that does not is the error, with its number among all lines, blank ones too.  So a text of
whole lines may be read apart from what follows it, and blank lines may be inserted anywhere,
`read_goes_line_by_line`; nothing depends on the reader.
-/

namespace Verdict.Documents

variable {α ε : Type} {reader : List Char → Except ε α} {line : List Char}
  {lines before after : List (List Char)} {documents : List α} {cause : ε} {n : Nat}

/-! ### Numbers of lines -/

section Renumbered

variable {β : Type}

/-- The outcome with another number for the line that is the error. -/
def renumbered (f : Nat → Nat) : Except (Error ε) α → Except (Error ε) α
  | .error (.malformedLine number cause) => .error (.malformedLine (f number) cause)
  | outcome => outcome

theorem renumbered_renumbered (f g : Nat → Nat) (x : Except (Error ε) α) :
    renumbered g (renumbered f x) = renumbered (fun number => g (f number)) x := by
  rcases x with (_ | _) | _ <;> rfl

theorem renumbered_self (x : Except (Error ε) α) : renumbered (fun number => number) x = x := by
  rcases x with (_ | _) | _ <;> rfl

theorem renumbered_map (f : Nat → Nat) (x : Except (Error ε) α) (g : α → β) :
    renumbered f (x.map g) = (renumbered f x).map g := by
  rcases x with (_ | _) | _ <;> rfl

end Renumbered

/-! ### Lines -/

/-- What a line holds: no document if it is blank, or else the one that it is. -/
def held (reader : List Char → Except ε α) (line : List Char) : Except ε (List α) :=
  if line.all Text.isBlank then .ok [] else (reader line).map fun document => [document]

theorem held_of_blank (h : line.all Text.isBlank = true) : held reader line = .ok [] := by
  rw [held, if_pos h]

theorem ofLines_of_ok (h : held reader line = .ok documents) (n : Nat) (lines : List (List Char)) :
    ofLines reader n (line :: lines) = (ofLines reader (n + 1) lines).map (documents ++ ·) := by
  unfold held at h
  rw [ofLines]
  split at h
  · next blank =>
    obtain rfl := Except.ok.inj h
    rw [if_pos blank]
    cases ofLines reader (n + 1) lines <;> rfl
  · next full =>
    rw [if_neg full]
    cases document : reader line with
    | error cause =>
      rw [document] at h
      cases h
    | ok first =>
      rw [document] at h
      obtain rfl := Except.ok.inj h
      rfl

theorem ofLines_of_error (h : held reader line = .error cause) (n : Nat) (lines : List (List Char)) :
    ofLines reader n (line :: lines) = .error (.malformedLine n cause) := by
  unfold held at h
  rw [ofLines]
  split at h
  · cases h
  · next full =>
    rw [if_neg full]
    cases document : reader line with
    | error cause' =>
      rw [document] at h
      obtain rfl := Except.error.inj h
      rfl
    | ok first =>
      rw [document] at h
      cases h

/-- The documents are those that the lines hold, in order. -/
theorem toOption_ofLines (n : Nat) (lines : List (List Char)) :
    (ofLines reader n lines).toOption = (lines.mapM (held reader)).toOption.map List.flatten := by
  induction lines generalizing n with
  | nil => rfl
  | cons line lines ih =>
    rw [List.mapM_cons]
    cases h : held reader line with
    | error cause =>
      rw [ofLines_of_error h]
      rfl
    | ok documents =>
      have mapped : ((ofLines reader (n + 1) lines).map (documents ++ ·)).toOption =
          (ofLines reader (n + 1) lines).toOption.map (documents ++ ·) := by
        cases ofLines reader (n + 1) lines <;> rfl
      rw [ofLines_of_ok h, mapped, ih]
      cases lines.mapM (held reader) <;> rfl

/-- Lines are read apart from those that follow them, except that these are numbered on. -/
theorem ofLines_append (n : Nat) (lines others : List (List Char)) :
    ofLines reader n (lines ++ others) = do
      let first ← ofLines reader n lines
      let rest ← ofLines reader (n + lines.length) others
      return first ++ rest := by
  induction lines generalizing n with
  | nil =>
    change ofLines reader n others = (do return [] ++ (← ofLines reader n others))
    cases ofLines reader n others <;> rfl
  | cons line lines ih =>
    rw [List.cons_append]
    cases h : held reader line with
    | error cause =>
      rw [ofLines_of_error h, ofLines_of_error h]
      rfl
    | ok documents =>
      have next : n + (line :: lines).length = n + 1 + lines.length := by
        rw [List.length_cons]
        omega
      rw [ofLines_of_ok h, ofLines_of_ok h, ih, next]
      cases ofLines reader (n + 1) lines with
      | error e => rfl
      | ok first =>
        cases ofLines reader (n + 1 + lines.length) others with
        | error e => rfl
        | ok rest => exact congrArg Except.ok (List.append_assoc documents first rest).symm

theorem ofLines_add (n d : Nat) (lines : List (List Char)) :
    ofLines reader (n + d) lines = renumbered (· + d) (ofLines reader n lines) := by
  induction lines generalizing n with
  | nil => rfl
  | cons line lines ih =>
    cases h : held reader line with
    | error cause =>
      rw [ofLines_of_error h, ofLines_of_error h]
      rfl
    | ok documents =>
      have next : n + d + 1 = n + 1 + d := by omega
      rw [ofLines_of_ok h, ofLines_of_ok h, renumbered_map, next, ih]

/-- If each line holds something, then there is no error. -/
theorem exists_of_held (n : Nat)
    (each : ∀ line ∈ lines, ∃ documents, held reader line = .ok documents) :
    ∃ documents, ofLines reader n lines = .ok documents := by
  induction lines generalizing n with
  | nil => exact ⟨[], rfl⟩
  | cons line lines ih =>
    obtain ⟨first, others⟩ := List.forall_mem_cons.1 each
    obtain ⟨documents, h⟩ := first
    obtain ⟨behind, rest⟩ := ih (n + 1) others
    rw [ofLines_of_ok h, rest]
    exact ⟨_, rfl⟩

/-- The error is the first line that holds nothing, and gives its number. -/
theorem ofLines_eq_error_iff {e : Error ε} :
    ofLines reader n lines = .error e ↔ ∃ before line after cause, lines = before ++ line :: after ∧
      (∀ l ∈ before, ∃ documents, held reader l = .ok documents) ∧ held reader line = .error cause ∧
      e = .malformedLine (n + before.length) cause := by
  constructor
  · intro h
    induction lines generalizing n with
    | nil => cases h
    | cons line lines ih =>
      cases here : held reader line with
      | error cause =>
        rw [ofLines_of_error here] at h
        exact ⟨[], line, lines, cause, rfl, by simp, here, (Except.error.inj h).symm⟩
      | ok documents =>
        rw [ofLines_of_ok here] at h
        cases outcome : ofLines reader (n + 1) lines with
        | ok others =>
          rw [outcome] at h
          cases h
        | error e' =>
          rw [outcome] at h
          obtain rfl := Except.error.inj h
          obtain ⟨before, l, after, cause, rfl, fine, bad, rfl⟩ := ih outcome
          refine ⟨line :: before, l, after, cause, rfl, ?_, bad, ?_⟩
          · exact List.forall_mem_cons.2 ⟨⟨documents, here⟩, fine⟩
          · rw [List.length_cons, Nat.add_right_comm, Nat.add_assoc]
  · rintro ⟨before, line, after, cause, rfl, fine, bad, rfl⟩
    obtain ⟨documents, h⟩ := exists_of_held n fine
    rw [ofLines_append, h, ofLines_of_error bad]
    rfl

/-! ### Blank lines -/

/-- The items with others among them: `gaps` has those that come in front of each item, and at its end
those that come behind all of them. -/
def inserted : List (List α) → List α → List α
  | gaps, [] => gaps.flatten
  | [], items => items
  | gap :: gaps, item :: items => gap ++ item :: inserted gaps items

theorem inserted_nil (items : List α) : inserted [] items = items := by
  cases items <;> rfl

/-- Items can be inserted behind the first few. -/
theorem inserted_replicate (items gap others : List α) :
    inserted (List.replicate items.length [] ++ [gap]) (items ++ others) = items ++ (gap ++ others) := by
  induction items with
  | nil => cases others <;> simp [inserted, inserted_nil]
  | cons item items ih =>
    rw [List.length_cons, List.replicate_succ, List.cons_append, List.cons_append, inserted, ih]
    rfl

theorem length_flatten_take_replicate (m k : Nat) (gap : List α) :
    ((List.replicate m [] ++ [gap]).take k).flatten.length = if k ≤ m then 0 else gap.length := by
  rw [List.take_append, List.flatten_append, List.take_replicate, List.flatten_replicate_nil,
    List.length_replicate, List.nil_append]
  split
  · next before => rw [Nat.sub_eq_zero_of_le before, List.take_zero]; rfl
  · next behind =>
    rw [List.take_of_length_le (by rw [List.length_singleton]; omega), List.flatten_singleton]

theorem ofLines_blank (n : Nat) (blank : ∀ line ∈ lines, line.all Text.isBlank = true) :
    ofLines reader n lines = .ok [] := by
  induction lines generalizing n with
  | nil => rfl
  | cons line lines ih =>
    obtain ⟨first, others⟩ := List.forall_mem_cons.1 blank
    rw [ofLines_of_ok (held_of_blank first), ih (n + 1) others]
    rfl

theorem ofLines_blank_append (n : Nat) (blank : ∀ line ∈ before, line.all Text.isBlank = true)
    (lines : List (List Char)) :
    ofLines reader n (before ++ lines) = ofLines reader (n + before.length) lines := by
  rw [ofLines_append, ofLines_blank n blank]
  change (do return [] ++ (← ofLines reader (n + before.length) lines)) = _
  cases ofLines reader (n + before.length) lines <;> rfl

/-- Blank lines count, and do nothing else. -/
theorem ofLines_inserted {gaps : List (List (List Char))}
    (blank : ∀ gap ∈ gaps, ∀ line ∈ gap, line.all Text.isBlank = true) (lines : List (List Char)) :
    ofLines reader 0 (inserted gaps lines) =
      renumbered (fun i => i + (gaps.take (i + 1)).flatten.length) (ofLines reader 0 lines) := by
  induction lines generalizing gaps with
  | nil =>
    rw [inserted]
    refine ofLines_blank 0 fun line mem => ?_
    obtain ⟨gap, here, there⟩ := List.mem_flatten.1 mem
    exact blank gap here line there
  | cons line lines ih =>
    cases gaps with
    | nil =>
      simp only [List.take_nil, List.flatten_nil, List.length_nil, Nat.add_zero]
      exact (renumbered_self _).symm
    | cons gap gaps =>
      obtain ⟨first, others⟩ := List.forall_mem_cons.1 blank
      rw [inserted, ofLines_blank_append 0 first]
      cases h : held reader line with
      | error cause =>
        rw [ofLines_of_error h, ofLines_of_error h]
        simp [renumbered]
      | ok documents =>
        have shift (i : Nat) : i + (gaps.take (i + 1)).flatten.length + (gap.length + 1) =
            i + 1 + ((gap :: gaps).take (i + 1 + 1)).flatten.length := by
          rw [List.take_succ_cons, List.flatten_cons, List.length_append]
          omega
        rw [ofLines_of_ok h, ofLines_of_ok h, renumbered_map, Nat.add_assoc, ofLines_add, ih others,
          ofLines_add 0 1, renumbered_renumbered, renumbered_renumbered]
        simp only [shift]

/-! ### Texts -/

theorem read_true (s : List Char) : read reader true s = ofLines reader 1 (Text.lines s) := rfl

theorem read_append {a : List Char} (whole : Text.IsWhole a) (b : List Char) :
    read reader true (a ++ b) = do
      let first ← read reader true a
      let rest ← renumbered (· + (Text.lines a).length) (read reader true b)
      return first ++ rest := by
  rw [read_true, read_true, read_true, Text.lines_append whole, ofLines_append, ofLines_add]

/-- Blank lines among those of a text change no document, and what is behind them is numbered on. -/
theorem read_inserted {s t : List Char} {gaps : List (List (List Char))}
    (blank : ∀ gap ∈ gaps, ∀ line ∈ gap, line.all Text.isBlank = true)
    (lines : Text.lines t = inserted gaps (Text.lines s)) :
    read reader true t =
      renumbered (fun k => k + (gaps.take k).flatten.length) (read reader true s) := by
  rw [read_true, read_true, lines, ← Nat.zero_add 1, ofLines_add, ofLines_add, ofLines_inserted blank,
    renumbered_renumbered, renumbered_renumbered]
  simp only [Nat.add_right_comm]

/-- The lines of a blank text are blank. -/
theorem blank_of_mem_lines {w line : List Char} (blank : w.all Text.isBlank = true)
    (mem : line ∈ Text.lines w) : line.all Text.isBlank = true :=
  List.all_eq_true.2 fun c hc => List.all_eq_true.1 blank c (Text.mem_of_mem_lines mem hc)

/-- A blank text may be inserted behind whole lines, if it consists of whole lines or comes last. -/
theorem read_between {a w b : List Char} (ha : Text.IsWhole a) (hw : Text.IsWhole w ∨ b = [])
    (blank : w.all Text.isBlank = true) :
    read reader true (a ++ (w ++ b)) =
      renumbered (fun k => k + if k ≤ (Text.lines a).length then 0 else (Text.lines w).length)
        (read reader true (a ++ b)) := by
  let gaps := List.replicate (Text.lines a).length [] ++ [Text.lines w]
  have apart : Text.lines (w ++ b) = Text.lines w ++ Text.lines b := by
    rcases hw with whole | rfl
    · exact Text.lines_append whole b
    · rw [List.append_nil]
      exact (List.append_nil _).symm
  have lines : Text.lines (a ++ (w ++ b)) = inserted gaps (Text.lines (a ++ b)) := by
    rw [Text.lines_append ha, apart, Text.lines_append ha, inserted_replicate]
  have each : ∀ gap ∈ gaps, ∀ line ∈ gap, line.all Text.isBlank = true := by
    intro gap mem line here
    rcases List.mem_append.1 mem with empty | last
    · rw [List.eq_of_mem_replicate empty] at here
      exact absurd here List.not_mem_nil
    · rw [List.mem_singleton.1 last] at here
      exact blank_of_mem_lines blank here
  rw [read_inserted each lines]
  simp only [gaps, length_flatten_take_replicate]

/-- Each line is read by itself, and the number of a line that cannot be read counts all lines.  Whole
lines are read apart from what follows them: the documents of both come one after the other, and if
there is an error in the one or in the other, it is the error of both together, except that the lines of
the second are numbered on.  Blank lines among the others change no document, and a line behind them is
numbered on by as many; and it makes no difference whether a carriage return stands in front of each
line feed. -/
theorem read_goes_line_by_line (reader : List Char → Except ε α) :
    (∀ s, (read reader true s).toOption =
      ((Text.lines s).mapM (held reader)).toOption.map List.flatten) ∧
    (∀ s e, read reader true s = .error e ↔
      ∃ before line after cause, Text.lines s = before ++ line :: after ∧
        (∀ l ∈ before, ∃ documents, held reader l = .ok documents) ∧
        held reader line = .error cause ∧ e = .malformedLine (before.length + 1) cause) ∧
    (∀ a b, Text.IsWhole a →
      (Text.lines a).length = a.count '\n' ∧
      (∀ first rest, read reader true a = .ok first → read reader true b = .ok rest →
        read reader true (a ++ b) = .ok (first ++ rest)) ∧
      (∀ k cause, read reader true a = .error (.malformedLine k cause) →
        read reader true (a ++ b) = .error (.malformedLine k cause)) ∧
      ∀ first k cause, read reader true a = .ok first →
        read reader true b = .error (.malformedLine k cause) →
        read reader true (a ++ b) = .error (.malformedLine (k + (Text.lines a).length) cause)) ∧
    (∀ s t gaps, (∀ gap ∈ gaps, ∀ line ∈ gap, line.all Text.isBlank = true) →
      Text.lines t = inserted gaps (Text.lines s) →
      read reader true t =
        renumbered (fun k => k + (gaps.take k).flatten.length) (read reader true s)) ∧
    (∀ a w b, Text.IsWhole a → Text.IsWhole w ∨ b = [] → w.all Text.isBlank = true →
      read reader true (a ++ (w ++ b)) =
        renumbered (fun k => k + if k ≤ (Text.lines a).length then 0 else (Text.lines w).length)
          (read reader true (a ++ b))) ∧
    ∀ s, '\r' ∉ s → read reader true (Text.withReturns s) = read reader true s := by
  refine ⟨fun s => toOption_ofLines 1 _, fun s e => ?_, fun a b whole => ⟨Text.length_lines whole, ?_⟩,
    fun s t gaps => read_inserted, fun a w b => read_between, fun s none => ?_⟩
  · simp only [read_true, ofLines_eq_error_iff, Nat.add_comm]
  · rw [read_append whole]
    refine ⟨fun first rest ha hb => ?_, fun k cause ha => ?_, fun first k cause ha hb => ?_⟩
    · rw [ha, hb]
      rfl
    · rw [ha]
      rfl
    · rw [ha, hb]
      rfl
  · rw [read_true, read_true, Text.lines_withReturns none]

theorem read_goes_line_by_line_of_blank_and_bad :
    let a := "1\n \n".toList
    let b := "[\n2".toList
    let s := "1\n[".toList
    let t := "\n1\n\t\r\n[\n\n".toList
    let one : List Json := [.number (.whole 1)]
    let read := read Json.read true
    (Text.IsWhole a ∧ read a = .ok one ∧ read b = .error (.malformedLine 1 ()) ∧
      read s = .error (.malformedLine 2 ()) ∧
      Text.lines t = inserted [[[]], [['\t']], [[]]] (Text.lines s) ∧ '\r' ∉ b) ∧
    read (a ++ b) = .error (.malformedLine 3 ()) ∧
    read t = .error (.malformedLine 4 ()) ∧
    read (a ++ ("\u2003\n\n".toList ++ b)) = .error (.malformedLine 5 ()) ∧
    read (Text.withReturns b) = .error (.malformedLine 1 ()) := by
  intro a b s t one read
  obtain ⟨-, -, appended, among, between, returns⟩ := read_goes_line_by_line Json.read
  have whole : Text.IsWhole a := by simp [Text.IsWhole, a]
  have readA : read a = .ok one := by rfl
  have readB : read b = .error (.malformedLine 1 ()) := by rfl
  have readS : read s = .error (.malformedLine 2 ()) := by rfl
  have lines : Text.lines t = inserted [[[]], [['\t']], [[]]] (Text.lines s) := by rfl
  have none : '\r' ∉ b := by decide
  obtain ⟨-, -, -, behind⟩ := appended a b whole
  have both := behind one 1 () readA readB
  refine ⟨⟨whole, readA, readB, readS, lines, none⟩, both, ?_, ?_, ?_⟩
  · exact (among s t _ (by decide) lines).trans (congrArg _ readS)
  · have blank := between a "\u2003\n\n".toList b whole (.inl (by simp [Text.IsWhole])) (by decide)
    exact blank.trans (congrArg _ both)
  · exact (returns b none).trans readB

end Verdict.Documents
