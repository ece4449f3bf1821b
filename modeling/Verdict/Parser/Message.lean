import Verdict.Parser.Basic
import Verdict.Text.Quoted

/-!
# What is said about a text that cannot be read
-/

namespace Verdict.Parser

/-- The place where reading failed and the name of what was looked for there. -/
def Error.located (label code : String) (here : List Char) : String :=
  label ++ ": Error \x7b input: " ++ String.ofList (Text.quote here) ++ ", code: " ++ code ++ " \x7d"

/-- The explanation of an error. -/
def Error.message : Error → String
  | .unread rest =>
    "Parser did not consume all input. Remainder: '" ++ String.ofList rest ++ "'"
  | .unrecognised here => Error.located "Parsing Error" "Char" here
  | .brokenNumber here => Error.located "Parsing Failure" "Float" here

end Verdict.Parser
