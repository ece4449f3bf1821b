import Verdict.Command.Arguments
import Verdict.Command.Usage
import Verdict.Documents
import Verdict.Evaluation.Batch

/-!
# Running the command

The settings are read first, then the rule, then the inputs from left to right; the first of them
that cannot be read ends the run, and nothing is printed on the standard output.  Otherwise one line
for each document says whether the rule holds for it, and the exit code whether it holds for all.

Before anything is printed, each document gets a session, with the room that the settings ask for.  If
there is none, the process breaks down, and nothing is printed either.
-/

namespace Verdict.Command

/-- What a file or the standard input holds, or why it cannot be read. -/
abbrev Input : Type := Except String String

/-- What is at hand for a run. -/
structure Inputs where
  /-- The contents of the files, by name. -/
  file : String → Input
  /-- The standard input. -/
  standard : Input
  /-- Is memory granted for sessions that are prepared for so many texts? -/
  grants : Nat → Bool
  /-- How the documents are examined. -/
  schedule : Schedule

/-- Why a run ends early. -/
inductive Error where
  /-- Something cannot be read. -/
  | unreadable (reason : String)
  /-- The settings are malformed. -/
  | settings
  | rule (cause : Rule.Error)
  | documents (cause : Documents.Error Unit)

/-- The explanation of an error. -/
def Error.message : Error → String
  | .unreadable reason => "I/O error: " ++ reason
  | .settings => "JSON parsing error"
  | .rule cause => "Rule is invalid: " ++ cause.message
  | .documents cause => cause.message

/-- What a run leaves behind. -/
structure Report where
  exitCode : Nat
  output : String
  /-- What the command says of an error that it reports. -/
  error : Option String
  deriving DecidableEq, Repr

/-- The settings in a file, or those that apply where nothing is set. -/
def settings (inputs : Inputs) : Option String → Except Error Settings
  | none => .ok .default
  | some name =>
    match inputs.file name with
    | .error reason => .error (.unreadable reason)
    | .ok text =>
      match Settings.read? text.toList with
      | none => .error .settings
      | some settings => .ok settings

/-- The documents that an input holds. -/
def documentsOf (byLine : Bool) : Input → Except Error (List Json)
  | .error reason => .error (.unreadable reason)
  | .ok text =>
    match Documents.read Json.read byLine text.toList with
    | .error cause => .error (.documents cause)
    | .ok documents => .ok documents

/-- A file whose name is told along with the reason why it cannot be read. -/
def named (inputs : Inputs) (name : String) : Input :=
  match inputs.file name with
  | .error reason => .error ("Failed to read data from '" ++ name ++ "': " ++ reason)
  | .ok text => .ok text

/-- The documents of all files, in order. -/
def documentsOfFiles (inputs : Inputs) (byLine : Bool) : List String → Except Error (List Json)
  | [] => .ok []
  | name :: names => do
    let first ← documentsOf byLine (named inputs name)
    let others ← documentsOfFiles inputs byLine names
    return first ++ others

/-- The documents to be examined. -/
def documents (inputs : Inputs) (invocation : Invocation) : Except Error (List Json) :=
  match invocation.data with
  | [] => documentsOf invocation.byLine inputs.standard
  | names => documentsOfFiles inputs invocation.byLine names

/-- What is to be examined. -/
structure Task where
  settings : Settings
  rule : Rule Path.Memo
  documents : List Json

/-- Reads what is to be examined. -/
def task (inputs : Inputs) (invocation : Invocation) : Except Error Task := do
  let settings ← settings inputs invocation.config
  let rule ← (Rule.ofText .default invocation.rule).mapError .rule
  let documents ← documents inputs invocation
  return ⟨settings, rule, documents⟩

/-- Why the process breaks down. -/
inductive Crash where
  /-- Sessions are to be prepared for more texts than can be addressed. -/
  | overflow
  /-- The memory for the sessions is not granted. -/
  | refused
  deriving DecidableEq, Repr

/-- The exit code of a process that breaks down: that of a panic, or that of a process that is ended by
the signal to abort. -/
def Crash.exitCode : Crash → Nat
  | .overflow => 101
  | .refused => 134

namespace Task

/-- Why there is no room for the sessions, if there is none.  Without documents none is needed. -/
def crash? (task : Task) (inputs : Inputs) : Option Crash :=
  if task.documents.isEmpty then none
  else if Settings.maxCapacity < task.settings.cacheCapacity then some .overflow
  else if inputs.grants task.settings.cacheCapacity then none
  else some .refused

/-- Whether the rule holds, for each document in order, if there is room for the sessions. -/
def findings (task : Task) (inputs : Inputs) : Except Crash (List Bool) :=
  match task.crash? inputs with
  | some crash => .error crash
  | none => .ok (task.rule.results task.settings inputs.schedule .empty task.documents)

end Task

/-- The line about a document. -/
def line (holds : Bool) : String :=
  if holds then "true\n" else "false\n"

/-- The report of what was found. -/
def Report.ofFindings (findings : List Bool) : Report where
  exitCode := if findings.all id then 0 else 1
  output := String.join (findings.map line)
  error := none

/-- The report on what was to be examined. -/
def Task.report (task : Task) (inputs : Inputs) : Report :=
  match task.findings inputs with
  | .error crash => ⟨crash.exitCode, "", none⟩
  | .ok findings => .ofFindings findings

/-- Evaluates a rule as asked. -/
def Invocation.run (invocation : Invocation) (inputs : Inputs) : Report :=
  match task inputs invocation with
  | .error e => ⟨2, "", some ("Error: " ++ e.message)⟩
  | .ok task => task.report inputs

/-- The report on a choice. -/
def Choice.report (choice : Choice) (inputs : Inputs) : Report :=
  match choice with
  | .run invocation => invocation.run inputs
  | .help short => ⟨0, if short then shortHelp else longHelp, none⟩
  | .version => ⟨0, versionText, none⟩
  | .misuse => ⟨2, "", none⟩

end Verdict.Command
