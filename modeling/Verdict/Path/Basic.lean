import Verdict.Json.Basic

/-!
# Paths

A path leads from the root of a document to some of its values, segment by segment.  Each segment
applies a selector, either to the values reached so far or to all values inside them as well.
-/

namespace Verdict

/-- A choice among the children of a value. -/
inductive Selector where
  /-- The member of an object with a given key. -/
  | key (name : String)
  /-- The element of an array at a position; a negative position counts from the end. -/
  | index (position : Int)
  /-- All children. -/
  | wildcard
  deriving DecidableEq, Repr

/-- One step of a path. -/
inductive Segment where
  /-- Selects among the children of each value reached so far. -/
  | child (selector : Selector)
  /-- Selects among the children of each value reached so far and of every value inside it. -/
  | descendant (selector : Selector)
  deriving DecidableEq, Repr

/-- The steps from the root of a document. -/
abbrev Path : Type := List Segment

namespace Segment

/-- Does the segment lead from one value to at most one? -/
def isDefinite : Segment → Bool
  | child (.key _) => true
  | child (.index _) => true
  | _ => false

end Segment

/-- Does every segment of the path lead from one value to at most one? -/
def Path.isDefinite (path : Path) : Bool :=
  path.all Segment.isDefinite

end Verdict
