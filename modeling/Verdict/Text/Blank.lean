import Verdict.Text.Span

/-!
# Blank characters

`isBlank` is the property `White_Space` of the Unicode standard, `trim` cuts the blanks at both
ends of a text.  Between the tokens of a rule or of a path only the four characters of `isSpacing`
may stand; they are the blanks that JSON knows too.
-/

namespace Verdict.Text

/-- The code points with the property `White_Space`. -/
def blankSpans : List Span := [
  ⟨0x0009, 0x000D⟩, ⟨0x0020, 0x0020⟩, ⟨0x0085, 0x0085⟩, ⟨0x00A0, 0x00A0⟩, ⟨0x1680, 0x1680⟩,
  ⟨0x2000, 0x200A⟩, ⟨0x2028, 0x2029⟩, ⟨0x202F, 0x202F⟩, ⟨0x205F, 0x205F⟩, ⟨0x3000, 0x3000⟩]

/-- White space in the sense of the Unicode standard. -/
def isBlank (c : Char) : Bool :=
  Span.covers blankSpans c

/-- The blanks allowed between tokens: space, tab, carriage return and line feed. -/
def isSpacing (c : Char) : Bool :=
  c == ' ' || c == '\t' || c == '\r' || c == '\n'

/-- The text without the blanks at its ends. -/
def trim (s : List Char) : List Char :=
  (s.dropWhile isBlank).reverse.dropWhile isBlank |>.reverse

/-- The text without the blanks at its ends. -/
def trimmed (s : String) : String :=
  String.ofList (trim s.toList)

@[simp] theorem trim_nil : trim [] = [] := rfl

end Verdict.Text
