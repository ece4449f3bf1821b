import Verdict.Decimal.Basic

/-!
# JSON values

A number is a whole number as long as it fits 64 bits, and a floating-point number otherwise.  An
object lists its members in ascending order of their keys and has no key twice: `insertMember` keeps
that order, and every object is built by it.
-/

namespace Verdict

/-- A JSON number. -/
inductive Json.Number where
  /-- A number from `-2 ^ 63` up to, but not including, `2 ^ 64`. -/
  | whole (value : Int)
  /-- A finite number. -/
  | real (value : Float)

/-- A JSON value. -/
inductive Json where
  | null
  | bool (value : Bool)
  | number (value : Json.Number)
  | string (value : String)
  | array (items : List Json)
  | object (members : List (String × Json))
  deriving Inhabited

namespace Json

/-- The nearest floating-point number. -/
def Number.toFloat : Number → Float
  | .whole n =>
    let size := Decimal.toFloat ⟨n.natAbs, 0⟩
    if n < 0 then -size else size
  | .real x => x

/-- Sets a member of an object; a member of that key before is replaced. -/
def insertMember (key : String) (value : Json) : List (String × Json) → List (String × Json)
  | [] => [(key, value)]
  | (k, v) :: members =>
    if key < k then (key, value) :: (k, v) :: members
    else if key = k then (key, value) :: members
    else (k, v) :: insertMember key value members

/-- The object with the given members; of two members with one key the later one counts. -/
def ofMembers (members : List (String × Json)) : Json :=
  .object (members.foldl (fun ms m => insertMember m.1 m.2 ms) [])

/-- The member of an object. -/
def member? (key : String) : Json → Option Json
  | .object members => members.lookup key
  | _ => none

/-- The element of an array. -/
def item? (i : Nat) : Json → Option Json
  | .array items => items[i]?
  | _ => none

/-- The elements of an array and the member values of an object, in order. -/
def children : Json → List Json
  | .array items => items
  | .object members => members.map Prod.snd
  | _ => []

/-- A number, if the value is one. -/
def number? : Json → Option Float
  | .number n => some n.toFloat
  | _ => none

/-- A truth value, if the value is one. -/
def bool? : Json → Option Bool
  | .bool b => some b
  | _ => none

/-- A string, if the value is one. -/
def string? : Json → Option String
  | .string s => some s
  | _ => none

/-- The elements, if the value is an array. -/
def items? : Json → Option (List Json)
  | .array items => some items
  | _ => none

/-! ### Size -/

mutual

/-- How many values there are in a value, itself included. -/
def size : Json → Nat
  | .array items => 1 + sizeItems items
  | .object members => 1 + sizeMembers members
  | _ => 1

/-- How many values there are in a list of values. -/
def sizeItems : List Json → Nat
  | [] => 0
  | v :: items => v.size + sizeItems items

/-- How many values there are in the members of an object. -/
def sizeMembers : List (String × Json) → Nat
  | [] => 0
  | (_, v) :: members => v.size + sizeMembers members

end

theorem sizeMembers_eq (members : List (String × Json)) :
    sizeMembers members = sizeItems (members.map Prod.snd) := by
  induction members with
  | nil => rfl
  | cons m members ih => simp [sizeMembers, sizeItems, ih]

theorem sizeItems_append (vs ws : List Json) :
    sizeItems (vs ++ ws) = sizeItems vs + sizeItems ws := by
  induction vs with
  | nil => simp [sizeItems]
  | cons v vs ih => simp [sizeItems, ih, Nat.add_assoc]

/-- A value is larger than its children together. -/
theorem size_eq_children (v : Json) : v.size = 1 + sizeItems v.children := by
  cases v <;> simp [size, children, sizeItems, sizeMembers_eq]

end Json

end Verdict
