/-!
# The arguments of the command

Arguments are read from left to right, and the first one that settles the matter does: a question for
help or for the version, or a misuse.  Otherwise the first argument that is no option is the rule,
and the others name files.  Behind `--` nothing is an option.
-/

namespace Verdict.Command

/-- What the command is asked to do with a rule. -/
structure Invocation where
  rule : String
  /-- The files with the documents; without any, they are read from the standard input. -/
  data : List String
  /-- Is there one document on each line? -/
  byLine : Bool
  /-- The file with the settings. -/
  config : Option String
  deriving DecidableEq, Repr

/-- What the command is asked to do. -/
inductive Choice where
  | run (invocation : Invocation)
  | help (short : Bool)
  | version
  | misuse
  deriving DecidableEq, Repr

/-- The arguments read so far; `names` are those that are no options, the last one first. -/
structure Draft where
  names : List String
  byLine : Bool
  config : Option String

namespace Draft

/-- The draft before any argument. -/
def start : Draft := ⟨[], false, none⟩

/-- The draft with an argument that is no option.  Only the rule may be empty. -/
def add? (draft : Draft) (name : String) : Option Draft :=
  if name = "" ∧ draft.names ≠ [] then none
  else some { draft with names := name :: draft.names }

/-- The draft with arguments none of which is an option. -/
def addAll? : List String → Draft → Option Draft
  | [], draft => some draft
  | name :: names, draft => (draft.add? name).bind (addAll? names)

/-- The draft with the file that holds the settings; it is named once. -/
def setConfig? (draft : Draft) (name : String) : Option Draft :=
  if name = "" ∨ draft.config.isSome then none
  else some { draft with config := some name }

/-- The draft with one document on each line; this is said once. -/
def setByLine? (draft : Draft) : Option Draft :=
  if draft.byLine then none else some { draft with byLine := true }

/-- What the arguments ask for, if none is left. -/
def finish (draft : Draft) : Choice :=
  match draft.names.reverse with
  | [] => .misuse
  | rule :: data => .run ⟨rule, data, draft.byLine, draft.config⟩

end Draft

/-- What the letters behind a single hyphen ask for, if they settle the matter. -/
def settledByLetters? : List Char → Option Choice
  | [] => none
  | 'v' :: letters => settledByLetters? letters
  | 'h' :: _ => some (.help true)
  | 'V' :: _ => some .version
  | _ => some .misuse

/-- Does an argument look like an option?  A hyphen by itself does not. -/
def isOption (argument : String) : Bool :=
  match argument.toList with
  | '-' :: _ :: _ => true
  | _ => false

/-- The characters behind a text that begins the argument. -/
def behind? (start argument : String) : Option (List Char) :=
  if start.toList.isPrefixOf argument.toList then
    some (argument.toList.drop start.toList.length)
  else none

/-- Reads the arguments that follow those of a draft. -/
def readFrom (draft : Draft) : List String → Choice
  | [] => draft.finish
  | "--" :: names =>
    match draft.addAll? names with
    | some draft => draft.finish
    | none => .misuse
  | "--lines" :: arguments =>
    match draft.setByLine? with
    | some draft => readFrom draft arguments
    | none => .misuse
  | "--verbose" :: arguments => readFrom draft arguments
  | "--help" :: _ => .help false
  | "--version" :: _ => .version
  | ["--config"] => .misuse
  | "--config" :: name :: arguments =>
    if isOption name then .misuse
    else
      match draft.setConfig? name with
      | some draft => readFrom draft arguments
      | none => .misuse
  | argument :: arguments =>
    match behind? "--config=" argument with
    | some name =>
      match draft.setConfig? (String.ofList name) with
      | some draft => readFrom draft arguments
      | none => .misuse
    | none =>
      if isOption argument then
        match settledByLetters? (argument.toList.drop 1) with
        | some choice => choice
        | none => readFrom draft arguments
      else
        match draft.add? argument with
        | some draft => readFrom draft arguments
        | none => .misuse

/-- What the arguments ask for. -/
def read (arguments : List String) : Choice :=
  readFrom .start arguments

end Verdict.Command
