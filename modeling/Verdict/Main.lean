import Verdict.Command.Basic

/-!
# The command

Reads what the arguments ask for from files and from the standard input, and prints the report.
-/

namespace Verdict.Command

/-- The reason why something cannot be read: the words of the operating system for it, and the number
of the failure. -/
def reason : IO.Error → String
  | .alreadyExists _ code words
  | .noFileOrDirectory _ code words
  | .invalidArgument _ code words
  | .permissionDenied _ code words
  | .resourceExhausted _ code words
  | .inappropriateType _ code words
  | .noSuchThing _ code words
  | .interrupted _ code words
  | .otherError code words
  | .resourceBusy code words
  | .resourceVanished code words
  | .unsupportedOperation code words
  | .hardwareFault code words
  | .unsatisfiedConstraints code words
  | .illegalOperation code words
  | .protocolError code words
  | .timeExpired code words => words ++ " (os error " ++ toString code ++ ")"
  | .userError words => words
  | .unexpectedEof => "failed to fill whole buffer"

/-- The text that is written in some bytes. -/
def decode (bytes : ByteArray) : Input :=
  match String.fromUTF8? bytes with
  | some text => .ok text
  | none => .error "stream did not contain valid UTF-8"

/-- The outcome of reading, with a failure as a value. -/
def attempt (action : IO ByteArray) : IO Input := do
  try return decode (← action)
  catch e => return .error (reason e)

/-- The bytes of a file. -/
def readFile (name : String) : IO ByteArray := do
  (← IO.FS.Handle.mk name .read).readBinToEnd

/-- All that is left of a stream, behind the bytes read before. -/
partial def readToEnd (stream : IO.FS.Stream) (before : ByteArray) : IO ByteArray := do
  let bytes ← stream.read 65536
  if bytes.isEmpty then return before
  else readToEnd stream (before ++ bytes)

/-- The files that an invocation names. -/
def Invocation.files (invocation : Invocation) : List String :=
  invocation.config.toList ++ invocation.data

/-- Reads what an invocation refers to.  Memory is taken to be granted, and one document is examined
after the other. -/
def Invocation.inputs (invocation : Invocation) : IO Inputs := do
  let contents ← invocation.files.mapM fun (name : String) => do
    return (name, ← attempt (readFile name))
  let standard ←
    if invocation.data.isEmpty then attempt (do readToEnd (← IO.getStdin) .empty)
    else pure (.ok "")
  return {
    file := fun name => (contents.lookup name).getD (.error "No such file or directory (os error 2)")
    standard
    grants := fun _ => true
    schedule := .inOrder }

/-- What a choice refers to. -/
def Choice.inputs : Choice → IO Inputs
  | .run invocation => invocation.inputs
  | _ => return ⟨fun _ => .ok "", .ok "", fun _ => true, .inOrder⟩

end Verdict.Command

/-- Runs the command. -/
def main (arguments : List String) : IO UInt32 := do
  let choice := Verdict.Command.read arguments
  let report := choice.report (← choice.inputs)
  IO.print report.output
  match report.error with
  | some text => IO.eprintln text
  | none =>
    if choice = .misuse then
      IO.eprint ("error: invalid arguments\n\n" ++ Verdict.Command.usageLine)
  return report.exitCode.toUInt32
