import Verdict.Path.Parser

/-!
# What a path selects

`Path.select` carries the list of values reached so far from segment to segment, and stops as soon
as there are none.  A deep segment walks through each of them: a `Walk` keeps the values still to be
visited on a stack, takes the one on top, applies the selector to it, and puts its children on the
stack, the first child on top.  It ends because a value is larger than its children together.
-/

namespace Verdict

namespace Selector

/-- The place in a list of the given length that a position stands for, if it is not before the
start. -/
def place? (position : Int) (length : Nat) : Option Nat :=
  if 0 ≤ position then some position.toNat
  else if position.natAbs ≤ length then some (length - position.natAbs)
  else none

/-- The children that a selector picks. -/
def pick : Selector → Json → List Json
  | .key name, .object members => (members.lookup name).toList
  | .index i, .array items => ((place? i items.length).bind fun n => items[n]?).toList
  | .wildcard, v => v.children
  | _, _ => []

end Selector

/-- A walk through values. -/
structure Walk where
  /-- The values still to be visited, the next one on top. -/
  stack : List Json
  /-- What was picked at the values visited so far. -/
  picked : Array Json

namespace Walk

/-- The walk through a value and all values inside it, before the first visit. -/
def start (v : Json) : Walk :=
  ⟨[v], #[]⟩

/-- Puts values on a stack, one after the other. -/
def push (vs stack : List Json) : List Json :=
  vs.foldl (fun stack v => v :: stack) stack

/-- Visits the value on top, if there is one. -/
def visit (selector : Selector) (w : Walk) : Option Walk :=
  match w.stack with
  | [] => none
  | v :: stack => some ⟨push v.children.reverse stack, w.picked ++ selector.pick v⟩

/-- Visits values as long as there are any, but `n` of them at most. -/
def run (selector : Selector) : Nat → Walk → Walk
  | 0, w => w
  | n + 1, w =>
    match visit selector w with
    | none => w
    | some w => run selector n w

end Walk

namespace Segment

/-- The values that a segment leads to from one value. -/
def reach (segment : Segment) (v : Json) : List Json :=
  match segment with
  | child selector => selector.pick v
  | descendant selector => (Walk.run selector v.size (.start v)).picked.toList

end Segment

namespace Path

/-- The values that a path leads to, starting from each value of a list.  Once there are no values
left, the other segments are not looked at. -/
def selectFrom : Path → List Json → List Json
  | [], vs => vs
  | segment :: path, vs =>
    let reached := vs.flatMap segment.reach
    if reached.isEmpty then reached else selectFrom path reached

/-- The values of a document that a path leads to. -/
def select (path : Path) (document : Json) : List Json :=
  selectFrom path [document]

/-- The answer to a path: the value that a definite path leads to, if there is one, and the array of
all values for any other path. -/
def query (path : Path) (document : Json) : Option Json :=
  if path.isDefinite then (path.select document).head?
  else some (.array (path.select document))

/-- The answer to the path that a text holds. -/
def queryText (text : String) (document : Json) : Except Error (Option Json) := do
  let path ← parse text
  return path.query document

end Path

end Verdict
