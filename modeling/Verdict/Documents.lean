import Verdict.Text.Blank
import Verdict.Text.Lines

/-!
# Documents

A text holds one document, or one document on each line that is not blank.  What a document is, and why a
text is none, is up to its reader.
-/

namespace Verdict.Documents

variable {α ε : Type}

/-- Why a text does not hold documents. -/
inductive Error (ε : Type) where
  /-- The text is not a document. -/
  | malformed (cause : ε)
  /-- A line, counted from one, is not a document. -/
  | malformedLine (number : Nat) (cause : ε)
  deriving DecidableEq, Repr

/-- The documents on lines of which the first has the given number. -/
def ofLines (reader : List Char → Except ε α) (number : Nat) :
    List (List Char) → Except (Error ε) (List α)
  | [] => .ok []
  | line :: lines =>
    if line.all Text.isBlank then ofLines reader (number + 1) lines
    else
      match reader line with
      | .error cause => .error (.malformedLine number cause)
      | .ok document => (ofLines reader (number + 1) lines).map (document :: ·)

/-- The documents of a text. -/
def read (reader : List Char → Except ε α) (byLine : Bool) (s : List Char) :
    Except (Error ε) (List α) :=
  if byLine then ofLines reader 1 (Text.lines s)
  else
    match reader s with
    | .error cause => .error (.malformed cause)
    | .ok document => .ok [document]

/-- The explanation of an error, up to what the reader says of it. -/
def Error.message : Error ε → String
  | .malformed _ => "JSON parsing error"
  | .malformedLine number _ => "JSON parsing error on line " ++ toString number

end Verdict.Documents
