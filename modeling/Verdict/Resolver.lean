import Verdict.Json.Pointer
import Verdict.Path.Memo
import Verdict.Path.Parser
import Verdict.Path.Selection

/-!
# Resolvers

A resolver answers which value of a document a path text refers to, if any.  It may keep a state of
its own, its *world*, from one answer to the next; the answers of `Resolver.jsonPath` do not depend
on that state, which only remembers how texts read as paths.
-/

namespace Verdict

/-- A way to look up path texts in documents, with a world of type `σ`. -/
structure Resolver (σ : Type) where
  /-- What the resolver is called. -/
  name : String
  /-- The value that a text refers to. -/
  resolve : Json → String → StateM σ (Option Json)

namespace Resolver

/-- Is a text a JSON Pointer, going by how it begins? -/
def isPointer (text : String) : Bool :=
  match text.toList with
  | [] => true
  | c :: _ => c == '/'

/-- Does a text begin like a path? -/
def isPath (text : String) : Bool :=
  match text.toList with
  | [] => false
  | c :: _ => c == '$'

/-- Looks up JSON Pointers only. -/
def pointer {σ : Type} : Resolver σ where
  name := "json-pointer"
  resolve document text :=
    return if isPointer text then document.pointer? text.toList else none

/-- The path that a text holds, as remembered or else as read now and remembered from now on. -/
def compile (capacity : Nat) (text : String) : StateM Path.Memo (Option Path) := do
  let memo ← get
  match memo.find? text with
  | some path => return path
  | none =>
    let path := (Path.parse text).toOption
    set (memo.insert capacity text path)
    return path

/-- Looks up paths, however their texts are read, and JSON Pointers if they are allowed. -/
def reading {σ : Type} (pointers : Bool) (read : String → StateM σ (Option Path)) : Resolver σ where
  name := "jsonpath"
  resolve document text := do
    if isPath text then
      let path ← read text
      return path.bind fun path => path.query document
    else if pointers && isPointer text then
      return document.pointer? text.toList
    else
      return none

/-- Looks up paths, and JSON Pointers if they are allowed, with room for `capacity` remembered
paths. -/
def jsonPath (pointers : Bool) (capacity : Nat) : Resolver Path.Memo :=
  reading pointers (compile capacity)

/-- Another resolver, with a count of the texts that were looked up. -/
def counting {σ : Type} (inner : Resolver σ) : Resolver (σ × Nat) where
  name := inner.name
  resolve document text := fun (world, calls) =>
    let (answer, world) := (inner.resolve document text).run world
    (answer, (world, calls + 1))

/-- The answers to requests, each for a document and a text, one after the other. -/
def answerAll {σ : Type} (resolver : Resolver σ) :
    List (Json × String) → StateM σ (List (Option Json))
  | [] => return []
  | request :: requests => do
    let answer ← resolver.resolve request.1 request.2
    let others ← resolver.answerAll requests
    return answer :: others

/-! ### Asking at the same time -/

/-- What others ask while a text is read: before it is looked up in the memo, and before what it reads
as is inserted there. -/
structure Interruption where
  before : List (Json × String)
  between : List (Json × String)

/-- Nobody else asks. -/
def Interruption.none : Interruption := ⟨[], []⟩

/-- The path that a text holds, as remembered or else as read now and remembered from now on, while
others ask as well. -/
def compileAmong (pointers : Bool) (capacity : Nat) (others : Interruption) (text : String) :
    StateM Path.Memo (Option Path) := do
  let _ ← (jsonPath pointers capacity).answerAll others.before
  match (← get).find? text with
  | some path => return path
  | none =>
    let path := (Path.parse text).toOption
    let _ ← (jsonPath pointers capacity).answerAll others.between
    modify (·.insert capacity text path)
    return path

/-- Looks up paths, and JSON Pointers if they are allowed, while others do so with the same memo. -/
def among (pointers : Bool) (capacity : Nat) (others : String → Interruption) : Resolver Path.Memo :=
  reading pointers fun text => compileAmong pointers capacity (others text) text

end Resolver

end Verdict
