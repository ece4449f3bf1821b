import Verdict.Text.Case.Table

/-!
# Small and capital letters

`lower` and `upper` map a whole text by the case mappings of the Unicode standard.  Only one of them
looks at its surroundings: a capital sigma at the end of a word becomes a final sigma.  A text may
change its length, for some letters have a sequence as their image.
-/

namespace Verdict.Text

namespace Case

/-- The image of a character under a table of sequences and a table of runs; a character in neither
stays as it is. -/
def image (sequences : List (Nat × List Nat)) (runs : List Run) (c : Char) : List Char :=
  match sequences.lookup c.toNat with
  | some ns => ns.map Char.ofNat
  | none => [((Run.apply runs c.toNat).map Char.ofNat).getD c]

/-- The small form of a character by itself. -/
def lowerChar (c : Char) : List Char :=
  image lowerSequences lowerRuns c

/-- The capital form of a character. -/
def upperChar (c : Char) : List Char :=
  image upperSequences upperRuns c

/-- Is the first character that matters for words a cased one? -/
def meetsCased (s : List Char) : Bool :=
  match s.dropWhile (Span.covers caseIgnorableSpans) with
  | [] => false
  | c :: _ => Span.covers casedSpans c

/-- Does a letter end a word, with `before` in front of it, nearest first, and `after` behind it? -/
def endsWord (before after : List Char) : Bool :=
  meetsCased before && !meetsCased after

/-- The small letters of a text that continues `before`, nearest character first. -/
def lowerAfter (before : List Char) : List Char → List Char
  | [] => []
  | 'Σ' :: s => (if endsWord before s then 'ς' else 'σ') :: lowerAfter ('Σ' :: before) s
  | c :: s => lowerChar c ++ lowerAfter (c :: before) s

end Case

/-- The text in small letters. -/
def lower (s : List Char) : List Char :=
  Case.lowerAfter [] s

/-- The text in capital letters. -/
def upper (s : List Char) : List Char :=
  s.flatMap Case.upperChar

end Verdict.Text
