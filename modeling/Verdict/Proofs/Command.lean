import Verdict.Command.Basic
import Verdict.Proofs.Evaluation.Batch
import Verdict.Proofs.Rule.Resolvable
import Verdict.Proofs.Text.Lines

/-!
# Runs of the command

A run reads the settings, the rule and the inputs, in this order.  The first of these sources that
cannot be read or parsed is the error, and nothing is printed.  Otherwise there is one line for each
document, however the documents are examined, unless there is no room for the sessions: then the process
breaks down, and again nothing is printed.  `Outcome` says of a computation that it ends at the first
failure, and goes through sequences of steps; `all_results_or_none` is the result for runs.
-/

namespace Verdict.Command

variable {α β : Type} {inputs : Inputs} {byLine : Bool}

/-! ### Sources -/

/-- What a run reads. -/
inductive Source where
  /-- A file with settings. -/
  | settings (name : String)
  | rule (text : String)
  /-- A file with documents. -/
  | file (name : String)
  /-- The standard input, with documents. -/
  | standard
  deriving DecidableEq, Repr

namespace Source

/-- The text of a source, or why it cannot be read. -/
def content (inputs : Inputs) : Source → Input
  | .settings name => inputs.file name
  | .rule text => .ok text
  | .file name => (inputs.file name).mapError fun reason =>
    "Failed to read data from '" ++ name ++ "': " ++ reason
  | .standard => inputs.standard

/-- Why the text of a source cannot be parsed, if it cannot. -/
def malformed? (byLine : Bool) (text : String) : Source → Option Error
  | .settings _ => if (Settings.read? text.toList).isNone then some .settings else none
  | .rule _ =>
    match (Rule.ofText .default text : Except Rule.Error (Rule Path.Memo)) with
    | .error cause => some (.rule cause)
    | .ok _ => none
  | .file _
  | .standard =>
    match Documents.read Json.read byLine text.toList with
    | .error cause => some (.documents cause)
    | .ok _ => none

/-- Why a source cannot be read or parsed, if it cannot. -/
def failure? (inputs : Inputs) (byLine : Bool) (source : Source) : Option Error :=
  match source.content inputs with
  | .error reason => some (.unreadable reason)
  | .ok text => source.malformed? byLine text

/-- The source has the documents. -/
def Holds (inputs : Inputs) (byLine : Bool) (source : Source) (documents : List Json) : Prop :=
  ∃ text, source.content inputs = .ok text ∧ Documents.read Json.read byLine text.toList = .ok documents

end Source

namespace Invocation

/-- Where the documents come from, in order. -/
def places (invocation : Invocation) : List Source :=
  if invocation.data = [] then [.standard] else invocation.data.map .file

/-- All that is read, in order. -/
def sources (invocation : Invocation) : List Source :=
  (invocation.config.map Source.settings).toList ++ .rule invocation.rule :: invocation.places

/-- The settings that apply: those in the file, if one is named. -/
def Configures (invocation : Invocation) (inputs : Inputs) (settings : Settings) : Prop :=
  match invocation.config with
  | none => settings = .default
  | some name => ∃ text, inputs.file name = .ok text ∧ Settings.read? text.toList = some settings

end Invocation

/-! ### Outcomes -/

/-- The outcome is the failure, if there is one, or else a result with the property. -/
inductive Outcome (holds : α → Prop) : Option Error → Except Error α → Prop
  | fails (e : Error) : Outcome holds (some e) (.error e)
  | ok {a : α} (found : holds a) : Outcome holds none (.ok a)

theorem Outcome.bind {holds : α → Prop} {goal : β → Prop} {o o' : Option Error} {x : Except Error α}
    {f : α → Except Error β} (first : Outcome holds o x)
    (next : ∀ a, holds a → Outcome goal o' (f a)) : Outcome goal (o.or o') (x >>= f) := by
  cases first with
  | fails e => exact .fails e
  | ok found => exact next _ found

/-- What is done with a result does not fail. -/
theorem Outcome.map {holds : α → Prop} {goal : β → Prop} {o : Option Error} {x : Except Error α}
    {f : α → β} (h : Outcome holds o x) (image : ∀ a, holds a → goal (f a)) :
    Outcome goal o (do return f (← x)) := by
  cases h with
  | fails e => exact .fails e
  | ok found => exact .ok (image _ found)

theorem Outcome.mono {holds goal : α → Prop} {o : Option Error} {x : Except Error α}
    (h : Outcome holds o x) (weaker : ∀ a, holds a → goal a) : Outcome goal o x := by
  cases h with
  | fails e => exact .fails e
  | ok found => exact .ok (weaker _ found)

/-- Nothing is parsed that cannot be read. -/
theorem outcome_of_input {holds : α → Prop} {input : Input} {o : String → Option Error}
    {parsed : String → Except Error α} :
    (∀ text, input = .ok text → Outcome holds (o text) (parsed text)) →
      Outcome holds
        (match input with
          | .error reason => some (.unreadable reason)
          | .ok text => o text)
        (match input with
          | .error reason => .error (.unreadable reason)
          | .ok text => parsed text) := by
  intro each
  cases input with
  | error reason => exact .fails _
  | ok text => exact each text rfl

theorem outcome_settings (invocation : Invocation) (inputs : Inputs) (byLine : Bool) :
    Outcome (invocation.Configures inputs)
      ((invocation.config.map Source.settings).toList.findSome? (·.failure? inputs byLine))
      (settings inputs invocation.config) := by
  unfold Invocation.Configures
  cases invocation.config with
  | none => exact .ok rfl
  | some name =>
    rw [Option.map_some, Option.toList_some, List.findSome?_singleton]
    refine outcome_of_input fun text here => ?_
    change Outcome _ (if (Settings.read? text.toList).isNone then some .settings else none) _
    cases read : Settings.read? text.toList with
    | none => exact .fails _
    | some settings => exact .ok ⟨text, here, read⟩

theorem outcome_rule (text : String) (inputs : Inputs) (byLine : Bool) :
    Outcome (fun rule : Rule Path.Memo => Rule.ofText .default text = .ok rule)
      ((Source.rule text).failure? inputs byLine) ((Rule.ofText .default text).mapError .rule) := by
  change Outcome _ (match (Rule.ofText .default text : Except Rule.Error (Rule Path.Memo)) with
    | .error cause => some (.rule cause)
    | .ok _ => none) _
  cases h : (Rule.ofText .default text : Except Rule.Error (Rule Path.Memo)) with
  | error cause => exact .fails _
  | ok rule => exact .ok rfl

theorem outcome_documentsOf {source : Source}
    (isPlace : (∃ name, source = .file name) ∨ source = .standard) :
    Outcome (source.Holds inputs byLine) (source.failure? inputs byLine)
      (documentsOf byLine (source.content inputs)) := by
  refine outcome_of_input fun text here => ?_
  have malformed : source.malformed? byLine text =
      match Documents.read Json.read byLine text.toList with
      | .error cause => some (.documents cause)
      | .ok _ => none := by
    rcases isPlace with ⟨name, rfl⟩ | rfl <;> rfl
  rw [malformed]
  cases read : Documents.read Json.read byLine text.toList with
  | error cause => exact .fails _
  | ok documents => exact .ok ⟨text, here, read⟩

theorem named_eq (inputs : Inputs) (name : String) :
    named inputs name = (Source.file name).content inputs := by
  rw [named, Source.content]
  cases inputs.file name <;> rfl

theorem outcome_documentsOfFiles (inputs : Inputs) (byLine : Bool) (names : List String) :
    Outcome (fun documents => ∃ parts,
        List.Forall₂ (Source.Holds inputs byLine) (names.map .file) parts ∧ documents = parts.flatten)
      ((names.map Source.file).findSome? (·.failure? inputs byLine))
      (documentsOfFiles inputs byLine names) := by
  induction names with
  | nil => exact .ok ⟨[], .nil, rfl⟩
  | cons name names ih =>
    rw [List.map_cons, ← List.singleton_append, List.findSome?_append, List.findSome?_singleton,
      documentsOfFiles, named_eq]
    refine (outcome_documentsOf (.inl ⟨name, rfl⟩)).bind fun first here => ih.map ?_
    rintro others ⟨parts, there, rfl⟩
    exact ⟨first :: parts, .cons here there, rfl⟩

theorem outcome_documents (invocation : Invocation) (inputs : Inputs) :
    Outcome (fun documents => ∃ parts,
        List.Forall₂ (Source.Holds inputs invocation.byLine) invocation.places parts ∧
          documents = parts.flatten)
      (invocation.places.findSome? (·.failure? inputs invocation.byLine))
      (documents inputs invocation) := by
  unfold Invocation.places documents
  cases invocation.data with
  | nil =>
    rw [if_pos rfl, List.findSome?_singleton]
    exact (outcome_documentsOf (.inr rfl)).mono fun documents here =>
      ⟨[documents], .cons here .nil, List.flatten_singleton.symm⟩
  | cons name names =>
    rw [if_neg (List.cons_ne_nil name names)]
    exact outcome_documentsOfFiles inputs invocation.byLine (name :: names)

/-! ### Tasks -/

/-- The task has the settings, the rule, and the documents of all inputs, in order. -/
structure Invocation.Reads (invocation : Invocation) (inputs : Inputs) (task : Task) : Prop where
  settings : invocation.Configures inputs task.settings
  rule : Rule.ofText .default invocation.rule = .ok task.rule
  documents : ∃ parts, List.Forall₂ (Source.Holds inputs invocation.byLine) invocation.places parts ∧
    task.documents = parts.flatten

theorem outcome_task (invocation : Invocation) (inputs : Inputs) :
    Outcome (invocation.Reads inputs)
      (invocation.sources.findSome? (·.failure? inputs invocation.byLine))
      (task inputs invocation) := by
  rw [Invocation.sources, List.findSome?_append, ← List.singleton_append, List.findSome?_append,
    List.findSome?_singleton, task]
  refine (outcome_settings invocation inputs _).bind fun settings configures => ?_
  refine (outcome_rule invocation.rule inputs _).bind fun rule read => ?_
  exact (outcome_documents invocation inputs).map fun documents there => ⟨configures, read, there⟩

namespace Task

/-- Whether the rule holds, for each document by itself, with the settings. -/
def results (task : Task) : List Bool :=
  task.documents.map fun document =>
    ((task.rule.holds (.ofSettings task.settings) document).run .empty).1

/-- Every session gets the room that the settings ask for. -/
def HasRoom (task : Task) (inputs : Inputs) : Prop :=
  task.settings.cacheCapacity ≤ Settings.maxCapacity ∧
    inputs.grants task.settings.cacheCapacity = true

variable {task : Task}

theorem report_of_room {invocation : Invocation} (reads : invocation.Reads inputs task)
    (room : task.documents = [] ∨ task.HasRoom inputs) :
    task.report inputs = .ofFindings task.results := by
  have stands : task.crash? inputs = none := by
    unfold crash?
    rcases room with none | ⟨addressed, granted⟩
    · rw [none]
      rfl
    · rw [if_neg (Nat.not_lt.2 addressed), if_pos granted, ite_self]
  have bound := Rule.bound_of_ofText reads.rule
  rw [report, findings, stands]
  exact congrArg Report.ofFindings (Rule.results_eq_map_alone _ _ bound Path.Memo.sound_empty _)

theorem report_of_crash {crash : Crash} (h : task.crash? inputs = some crash) :
    task.report inputs = ⟨crash.exitCode, "", none⟩ := by
  rw [report, findings, h]

theorem crash?_of_overflow (nonempty : task.documents ≠ [])
    (large : Settings.maxCapacity < task.settings.cacheCapacity) :
    task.crash? inputs = some .overflow := by
  rw [crash?, if_neg (by simpa using nonempty), if_pos large]

theorem crash?_of_refused (nonempty : task.documents ≠ [])
    (addressed : task.settings.cacheCapacity ≤ Settings.maxCapacity)
    (refused : inputs.grants task.settings.cacheCapacity = false) :
    task.crash? inputs = some .refused := by
  rw [crash?, if_neg (by simpa using nonempty), if_neg (Nat.not_lt.2 addressed),
    if_neg (by simp [refused])]

end Task

/-! ### Reports -/

theorem run_of_error {invocation : Invocation} {e : Error}
    (h : task inputs invocation = .error e) :
    invocation.run inputs = ⟨2, "", some ("Error: " ++ e.message)⟩ := by
  rw [Invocation.run, h]

theorem run_of_task {invocation : Invocation} {read : Task} (h : task inputs invocation = .ok read) :
    invocation.run inputs = read.report inputs := by
  rw [Invocation.run, h]

theorem line_eq (holds : Bool) : line holds = toString holds ++ "\n" := by
  cases holds <;> rfl

theorem lines_output (findings : List Bool) :
    Text.lines (Report.ofFindings findings).output.toList =
      findings.map fun holds => (toString holds).toList := by
  change Text.lines (String.join (findings.map line)).toList = _
  rw [String.toList_join]
  induction findings with
  | nil => rfl
  | cons holds findings ih =>
    have whole : Text.IsWhole (line holds).toList := by cases holds <;> simp [Text.IsWhole, line]
    have one : Text.lines (line holds).toList = [(toString holds).toList] := by cases holds <;> rfl
    rw [List.map_cons, List.map_cons, List.flatMap_cons, Text.lines_append whole, one, ih]
    rfl

/-- A run reads the settings, the rule and the inputs in this order.  If there is one among them that
cannot be read or parsed, the first such one is the error, whatever stands behind it, and nothing is
printed.  Otherwise there is a task.  If it has documents and there is no room for a session, then the
process breaks down, and nothing is printed.  Or else the output has one line for each document of each
input, in order, which says whether the rule holds for this document by itself with the settings, however
the documents are examined; and the run succeeds just when all do. -/
theorem all_results_or_none (invocation : Invocation) (inputs : Inputs) :
    let report := (Choice.run invocation).report inputs
    let failure? (source : Source) := source.failure? inputs invocation.byLine
    (∀ before source after e, invocation.sources = before ++ source :: after →
      (∀ s ∈ before, failure? s = none) → failure? source = some e →
      report = ⟨2, "", some ("Error: " ++ e.message)⟩) ∧
    ((∃ source ∈ invocation.sources, failure? source ≠ none) →
      report.exitCode = 2 ∧ report.output = "") ∧
    ((∀ source ∈ invocation.sources, failure? source = none) →
      ∃ task : Task, invocation.Reads inputs task ∧
        (task.documents ≠ [] → Settings.maxCapacity < task.settings.cacheCapacity →
          report = ⟨101, "", none⟩) ∧
        (task.documents ≠ [] → task.settings.cacheCapacity ≤ Settings.maxCapacity →
          inputs.grants task.settings.cacheCapacity = false → report = ⟨134, "", none⟩) ∧
        (task.documents = [] ∨ task.HasRoom inputs →
          report.output = String.join (task.results.map fun holds => toString holds ++ "\n") ∧
          Text.lines report.output.toList = task.results.map (fun holds => (toString holds).toList) ∧
          report.error = none ∧
          report.exitCode = if ∀ holds ∈ task.results, holds = true then 0 else 1)) := by
  intro report failure?
  have outcome := outcome_task invocation inputs
  generalize first : invocation.sources.findSome? _ = o at outcome
  generalize came : task inputs invocation = x at outcome
  cases outcome with
  | fails e =>
    have failed : report = ⟨2, "", some ("Error: " ++ e.message)⟩ := run_of_error came
    obtain ⟨before, source, after, split, bad, fine⟩ := List.findSome?_eq_some_iff.1 first
    refine ⟨fun before' source' after' e' split' fine' bad' => ?_, fun _ => ?_, fun all => ?_⟩
    · have found : invocation.sources.findSome? failure? = some e' :=
        List.findSome?_eq_some_iff.2 ⟨before', source', after', split', bad', fine'⟩
      rw [failed, Option.some.inj (first.symm.trans found)]
    · rw [failed]
      exact ⟨rfl, rfl⟩
    · have here : source ∈ invocation.sources := by simp [split]
      exact absurd (bad.symm.trans (all source here)) (Option.some_ne_none e)
  | @ok task reads =>
    have ended : report = task.report inputs := run_of_task came
    have fine : ∀ source ∈ invocation.sources, failure? source = none :=
      List.findSome?_eq_none_iff.1 first
    refine ⟨fun before source after e split _ bad => ?_, fun failing => ?_, fun _ => ?_⟩
    · have here : source ∈ invocation.sources := by simp [split]
      exact absurd (bad.symm.trans (fine source here)) (Option.some_ne_none e)
    · obtain ⟨source, here, bad⟩ := failing
      exact absurd (fine source here) bad
    · refine ⟨task, reads, fun nonempty large => ?_, fun nonempty addressed refused => ?_,
        fun room => ?_⟩
      · exact ended.trans (Task.report_of_crash (Task.crash?_of_overflow nonempty large))
      · exact ended.trans (Task.report_of_crash (Task.crash?_of_refused nonempty addressed refused))
      · rw [ended, Task.report_of_room reads room]
        refine ⟨?_, lines_output task.results, rfl, ?_⟩
        · simp only [Report.ofFindings, ← line_eq]
        · simp [Report.ofFindings]

theorem all_results_or_none_of_two_files :
    let inputs : Inputs := {
      file := fun name =>
        if name = "a" then .ok "true\n \n0\n" else if name = "b" then .ok "[]" else .error "gone"
      standard := .ok ""
      grants := fun capacity => capacity ≤ 1000
      schedule := .atOnce fun i => ⟨[(.null, "$.b")], fun _ => ⟨[], List.replicate i (.null, "$")⟩⟩ }
    let fine : Invocation := ⟨"$", ["a", "b"], true, none⟩
    let bad : Invocation := ⟨"nope()", ["a", "c"], true, some "b"⟩
    let explanation := "Rule is invalid: Invalid function call: Unknown function 'nope'"
    let report := (Choice.run fine).report inputs
    (∀ source ∈ fine.sources, source.failure? inputs true = none) ∧
    (∃ task : Task, fine.Reads inputs task ∧ task.HasRoom inputs ∧
      task.results = [true, false, false] ∧ report.output = "true\nfalse\nfalse\n" ∧
      report.exitCode = 1) ∧
    (∃ e, bad.sources = [.settings "b"] ++ .rule "nope()" :: [.file "a", .file "c"] ∧
      (∀ s ∈ [Source.settings "b"], s.failure? inputs true = none) ∧
      (Source.rule "nope()").failure? inputs true = some e ∧ e.message = explanation) ∧
    (Choice.run bad).report inputs = ⟨2, "", some ("Error: " ++ explanation)⟩ := by
  intro inputs fine bad explanation report
  have readable : ∀ source ∈ fine.sources, source.failure? inputs true = none := by
    have each : ∀ source ∈ fine.sources, (source.failure? inputs true).isNone = true := by
      decide +kernel
    exact fun source mem => Option.isNone_iff_eq_none.1 (each source mem)
  have before : ∀ s ∈ [Source.settings "b"], s.failure? inputs true = none :=
    List.forall_mem_singleton.2 (Option.isNone_iff_eq_none.1 (by decide +kernel))
  have message : ((Source.rule "nope()").failure? inputs true).map Error.message = some explanation := by
    decide +kernel
  obtain ⟨e, unknown, explained⟩ := Option.map_eq_some_iff.1 message
  obtain ⟨-, -, results⟩ := all_results_or_none fine inputs
  obtain ⟨first, -, -⟩ := all_results_or_none bad inputs
  obtain ⟨task, reads, -, -, all⟩ := results readable
  have room : task.HasRoom inputs := by
    have settings : task.settings = .default := reads.settings
    unfold Task.HasRoom
    rw [settings]
    decide
  obtain ⟨output, lines, -, code⟩ := all (.inr room)
  have these : task.results = [true, false, false] := by
    have printed : Text.lines report.output.toList =
        [true, false, false].map fun holds => (toString holds).toList := by decide +kernel
    have apart : Function.Injective fun holds : Bool => (toString holds).toList := by
      intro x y same
      cases x <;> cases y <;> first | rfl | cases same
    exact apart.list_map (lines.symm.trans printed)
  rw [these] at output code
  refine ⟨readable, ⟨task, reads, room, these, output.trans (by decide), code.trans (by decide)⟩,
    ⟨e, rfl, before, unknown, explained⟩, ?_⟩
  rw [first _ _ _ _ rfl before unknown, explained]

/-- The rule holds for the only document, and yet nothing is printed: the settings are read, but they ask
for more room than there can be. -/
theorem nothing_printed_of_large_capacity :
    let inputs : Inputs := {
      file := fun _ => .ok "\x7b\"cache_capacity\":18446744073709551615\x7d"
      standard := .ok "1"
      grants := fun _ => true
      schedule := .inOrder }
    let invocation : Invocation := ⟨"true", [], false, some "c.json"⟩
    (∀ source ∈ invocation.sources, source.failure? inputs false = none) ∧
      Source.standard.Holds inputs false [.number (.whole 1)] ∧
      (Choice.run invocation).report inputs = ⟨101, "", none⟩ := by
  intro inputs invocation
  refine ⟨?_, ⟨"1", rfl, by rfl⟩, by decide +kernel⟩
  have each : ∀ source ∈ invocation.sources, (source.failure? inputs false).isNone = true := by
    decide +kernel
  exact fun source mem => Option.isNone_iff_eq_none.1 (each source mem)

end Verdict.Command
