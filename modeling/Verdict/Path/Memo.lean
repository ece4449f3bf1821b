import Verdict.Path.Basic

/-!
# Remembered paths

A memo keeps what reading a text as a path came to, `none` for a text that is no path.  It has room
for a fixed number of texts: when it is full, the text that came first makes room for a new one.
-/

namespace Verdict.Path

/-- What is remembered about texts, and the queue of these texts. -/
structure Memo where
  /-- What each text reads as. -/
  entries : List (String × Option Path)
  /-- The texts in the order in which they came, the oldest one in front. -/
  order : List String
  deriving DecidableEq

namespace Memo

/-- The memo of nothing. -/
def empty : Memo := ⟨[], []⟩

/-- What is remembered about a text. -/
def find? (memo : Memo) (text : String) : Option (Option Path) :=
  memo.entries.lookup text

/-- The number of texts that are remembered. -/
def size (memo : Memo) : Nat :=
  memo.entries.length

/-- The entries of all texts but one. -/
def forget (text : String) (entries : List (String × Option Path)) : List (String × Option Path) :=
  entries.filter fun entry => entry.1 != text

/-- Forgets the texts of a queue, from the front on, until fewer than `capacity` are remembered; or
until the queue is empty, if it comes to that first. -/
def makeRoom (capacity : Nat) (entries : List (String × Option Path)) : List String → Memo
  | [] => ⟨entries, []⟩
  | oldest :: order =>
    if capacity ≤ entries.length then makeRoom capacity (forget oldest entries) order
    else ⟨entries, oldest :: order⟩

/-- Remembers a text, in a memo with room for `capacity` texts.  A text that is remembered already
stays as it is, and a memo without room remembers nothing. -/
def insert (capacity : Nat) (text : String) (path : Option Path) (memo : Memo) : Memo :=
  if capacity = 0 ∨ (memo.find? text).isSome then memo
  else
    let rest := makeRoom capacity memo.entries memo.order
    ⟨(text, path) :: rest.entries, rest.order ++ [text]⟩

end Memo

end Verdict.Path
