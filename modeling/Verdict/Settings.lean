import Verdict.Json.Reader

/-!
# Settings

The settings of an evaluator are read from JSON text: an object of fields, of which any may be left
out, or an array of their values in the order of the fields, of which any number may be left out at
the end.  A field of the object that is not known is passed over.
-/

namespace Verdict

/-- What can be set for all evaluations. -/
structure Settings where
  /-- The number of paths that an evaluation is prepared to look up. -/
  cacheCapacity : Nat := 128
  /-- Are JSON Pointers allowed as paths? -/
  jsonPointerPaths : Bool := true
  /-- The number of paths that are remembered once they have been read. -/
  compiledPathCapacity : Nat := 1024
  deriving DecidableEq, Repr

namespace Settings

open Verdict.Parser Json.Reader

/-- The greatest number of paths that an evaluation can be prepared to look up, `7 * 2 ^ 54`.  Each of
them takes a slot of 57 bytes; the slots are a power of two in number, of which seven eighths are used at
most; and less than `2 ^ 63` bytes can be addressed, so that there are `2 ^ 57` slots at most. -/
def maxCapacity : Nat :=
  7 * 0x40000000000000

/-- The settings that apply where nothing is set. -/
def default : Settings := {}

/-- One of the fields, by its key, or the key of none of them. -/
inductive Field where
  | cacheCapacity
  | jsonPointerPaths
  | compiledPathCapacity
  | unknown
  deriving DecidableEq

/-- The field with a given key. -/
def Field.ofKey (key : String) : Field :=
  if key = "cache_capacity" then .cacheCapacity
  else if key = "json_pointer_paths" then .jsonPointerPaths
  else if key = "compiled_path_capacity" then .compiledPathCapacity
  else .unknown

/-- A count: a whole number that is not negative and fits 64 bits. -/
def count : Parser Nat := do
  match ← Json.Reader.number with
  | .whole (.ofNat n) => return n
  | _ => never

/-- A truth value. -/
def flag : Parser Bool :=
  orElse (do token ['t', 'r', 'u', 'e']; return true) (do token ['f', 'a', 'l', 's', 'e']; return false)

/-- What the value of a field changes, if it is one for that field. -/
def assignment (depth : Nat) : Field → Parser (Settings → Settings)
  | .cacheCapacity => do
    let n ← count
    return fun s => { s with cacheCapacity := n }
  | .jsonPointerPaths => do
    let b ← flag
    return fun s => { s with jsonPointerPaths := b }
  | .compiledPathCapacity => do
    let n ← count
    return fun s => { s with compiledPathCapacity := n }
  | .unknown => do
    skipped depth
    return id

/-- The fields of an object with what their values change. -/
def fields (depth : Nat) : Parser (List (Field × (Settings → Settings))) :=
  object string fun key => do
    let change ← assignment depth (Field.ofKey key)
    return (Field.ofKey key, change)

/-- Is there a known field twice? -/
def repeats (fields : List Field) : Bool :=
  let known := fields.filter (· ≠ .unknown)
  known.eraseDups.length < known.length

/-- Settings given as an object. -/
def ofObject (depth : Nat) : Parser Settings := do
  let changes ← fields depth
  if repeats (changes.map Prod.fst) then never
  else return changes.foldl (fun s change => change.2 s) default

/-- The items of an array for a list of fields, of which those at the end may be missing. -/
def items (separated : Bool) : List Field → Parser (Settings → Settings)
  | [] => return id
  | field :: rest =>
    orElse
      (do
        if separated then let _ ← spaced (char ',')
        let change ← assignment 0 field
        let changes ← items true rest
        return changes ∘ change)
      (return id)

/-- Settings given as an array. -/
def ofArray : Parser Settings := do
  let _ ← char '['
  let _ ← spacing
  let change ← items false [.cacheCapacity, .jsonPointerPaths, .compiledPathCapacity]
  let _ ← spacing
  let _ ← char ']'
  return change default

/-- The settings that a text holds. -/
def read? (s : List Char) : Option Settings :=
  whole (orElse (ofObject s.length) ofArray) s

end Settings

end Verdict
