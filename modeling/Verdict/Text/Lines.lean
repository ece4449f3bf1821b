/-!
# Lines

A line ends at a line feed, and a carriage return right before that line feed belongs to the ending.
The last line need not be ended; an ended last line is not followed by an empty one.
-/

namespace Verdict.Text

/-- A line read backwards, without the carriage return of its ending. -/
def dropReturn : List Char → List Char
  | '\r' :: line => line
  | line => line

/-- The lines of a text, of which the first continues `line`, given backwards. -/
def linesAfter (line : List Char) : List Char → List (List Char)
  | [] => if line.isEmpty then [] else [line.reverse]
  | '\n' :: s => (dropReturn line).reverse :: linesAfter [] s
  | c :: s => linesAfter (c :: line) s

/-- The lines of a text, without their endings. -/
def lines (s : List Char) : List (List Char) :=
  linesAfter [] s

example : lines ['a', '\r', '\n', '\n', 'b', '\r'] = [['a'], [], ['b', '\r']] := rfl

example : lines [] = [] := rfl

end Verdict.Text
