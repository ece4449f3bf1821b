import Verdict.Operand

/-!
# Registries of functions

A registry holds functions in ascending order of their names.  A name is registered once and for all:
registering the same function again changes nothing, and another function of that name is refused.
`Registry.bind` makes a call of a registered function, if the arguments fit its signature.
-/

namespace Verdict

/-- A function as it is registered. -/
structure Function (σ : Type) where
  name : String
  signature : Signature
  implementation : Implementation σ

namespace Function

/-- Why a function cannot be registered, or a call not be made. -/
inductive Error where
  | unknown (name : String)
  | invalidName (name : String)
  | arity (name : String) (expected actual : Nat)
  /-- The argument at a position, counted from one, is not of the kind of the parameter. -/
  | argumentKind (name : String) (position : Nat) (expected : Kind) (found : String)
  /-- The name belongs to a function of the same signature and another implementation. -/
  | duplicate (name : String)
  /-- The name belongs to a function of another signature. -/
  | incompatible (name : String) (existing attempted : Signature)
  deriving DecidableEq, Repr

/-- The explanation of an error. -/
def Error.message : Error → String
  | .unknown name => "Unknown function '" ++ name ++ "'"
  | .invalidName name => "Invalid function name '" ++ name ++ "'"
  | .arity name expected actual =>
    "Function '" ++ name ++ "' expects " ++ toString expected ++ " argument(s), got "
      ++ toString actual
  | .argumentKind name position expected found =>
    "Function '" ++ name ++ "' argument " ++ toString position ++ " must be " ++ expected.text
      ++ ", got " ++ found
  | .duplicate name =>
    "Function '" ++ name ++ "' is already registered with a different implementation"
  | .incompatible name existing attempted =>
    "Function '" ++ name ++ "' is already registered as " ++ existing.text
      ++ ", cannot register as " ++ attempted.text

/-- Can a name begin with the character? -/
def isNameStart (c : Char) : Bool :=
  c.isAlpha || c == '_'

/-- Can the character stand in a name behind the first one? -/
def isNameChar (c : Char) : Bool :=
  c.isAlphanum || c == '_' || c == '.'

/-- Is the text a name: letters, digits, underscores and points, the first one a letter or an
underscore, and the last one not a point? -/
def isName (name : String) : Bool :=
  match name.toList with
  | [] => false
  | c :: cs => isNameStart c && cs.all isNameChar && (c :: cs).getLast? != some '.'

/-- Puts a function in its place in a list that is ascending by name. -/
def place {σ : Type} (f : Function σ) : List (Function σ) → List (Function σ)
  | [] => [f]
  | g :: gs => if f.name < g.name then f :: g :: gs else g :: place f gs

end Function

/-- Functions in ascending order of their names. -/
structure Registry (σ : Type) where
  functions : List (Function σ)
  ascending : functions.Pairwise fun f g => f.name < g.name

namespace Registry

variable {σ : Type}

/-- The registry of no functions. -/
def empty : Registry σ := ⟨[], .nil⟩

/-- The function of a name. -/
def find? (r : Registry σ) (name : String) : Option (Function σ) :=
  r.functions.find? fun f => f.name == name

/-- Is there a function of the name? -/
def contains (r : Registry σ) (name : String) : Bool :=
  (r.find? name).isSome

/-- The names in ascending order. -/
def names (r : Registry σ) : List String :=
  r.functions.map Function.name

/-- The number of functions. -/
def size (r : Registry σ) : Nat :=
  r.functions.length

theorem mem_place {f h : Function σ} {fs : List (Function σ)} :
    h ∈ f.place fs ↔ h = f ∨ h ∈ fs := by
  induction fs with
  | nil => simp [Function.place]
  | cons g gs ih =>
    rw [Function.place]
    split <;> simp [ih, or_left_comm]

theorem ascending_place {f : Function σ} {fs : List (Function σ)}
    (ascending : fs.Pairwise fun f g => f.name < g.name) (new : ∀ g ∈ fs, g.name ≠ f.name) :
    (f.place fs).Pairwise fun f g => f.name < g.name := by
  induction fs with
  | nil => simp [Function.place]
  | cons g gs ih =>
    rw [List.pairwise_cons] at ascending
    rw [Function.place]
    split
    · rename_i before
      refine .cons (fun h mem => ?_) (.cons ascending.1 ascending.2)
      rcases List.mem_cons.1 mem with rfl | mem
      · exact before
      · exact String.lt_trans before (ascending.1 h mem)
    · rename_i before
      refine .cons (fun h mem => ?_) (ih ascending.2 fun h mem => new h (by simp [mem]))
      rcases mem_place.1 mem with rfl | mem
      · exact Std.lt_of_le_of_ne (String.not_lt.1 before) (new g (by simp))
      · exact ascending.1 h mem

/-- Adds a function of a name that is not registered. -/
def insert (r : Registry σ) (f : Function σ) (new : r.find? f.name = none) : Registry σ where
  functions := f.place r.functions
  ascending := ascending_place r.ascending fun g mem same => by
    simpa [same] using List.find?_eq_none.1 new g mem

/-- Registers a function. -/
def register (r : Registry σ) (f : Function σ) : Except Function.Error (Registry σ) :=
  if Function.isName f.name then
    match h : r.find? f.name with
    | none => .ok (r.insert f h)
    | some g =>
      if g.signature ≠ f.signature then .error (.incompatible f.name g.signature f.signature)
      else if g.implementation.label ≠ f.implementation.label then .error (.duplicate f.name)
      else .ok r
  else .error (.invalidName f.name)

/-- The position, counted from `position`, and the kind of the first parameter that does not accept
its argument. -/
def misfit? (position : Nat) : List Kind → List (Operand σ) → Option (Nat × Kind × Operand σ)
  | kind :: kinds, a :: arguments =>
    if kind.accepts a then misfit? (position + 1) kinds arguments else some (position, kind, a)
  | _, _ => none

/-- Makes a call. -/
def bind (r : Registry σ) (name : String) (arguments : List (Operand σ)) :
    Except Function.Error (Operand σ) :=
  match r.find? name with
  | none => .error (.unknown name)
  | some f =>
    if arguments.length ≠ f.signature.parameters.length then
      .error (.arity name f.signature.parameters.length arguments.length)
    else
      match misfit? 1 f.signature.parameters arguments with
      | some (position, kind, a) => .error (.argumentKind name position kind a.describe)
      | none => .ok (.call f.name arguments f.signature.returns f.implementation)

theorem name_of_find? {r : Registry σ} {name : String} {f : Function σ} (h : r.find? name = some f) :
    f.name = name := by
  simpa using List.find?_some h

/-- A call is made of the function of its name, if the arguments fit. -/
theorem bind_eq_ok_iff {r : Registry σ} {name : String} {arguments : List (Operand σ)}
    {o : Operand σ} :
    r.bind name arguments = .ok o ↔
      ∃ f, r.find? name = some f ∧ arguments.length = f.signature.parameters.length ∧
        misfit? 1 f.signature.parameters arguments = none ∧
        o = .call name arguments f.signature.returns f.implementation := by
  unfold bind
  cases found : r.find? name with
  | none => simp
  | some f =>
    have same := name_of_find? found
    by_cases arity : arguments.length = f.signature.parameters.length
    · cases fit : misfit? 1 f.signature.parameters arguments with
      | some misfit => simp [arity, fit]
      | none => simp [arity, fit, same, eq_comm]
    · simp [arity]

end Registry

end Verdict
