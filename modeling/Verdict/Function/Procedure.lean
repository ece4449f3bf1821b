import Verdict.Literal
import Verdict.Settings

/-!
# Procedures

The body of a function is a procedure: a program that puts requests to the evaluation it runs in,
and ends with an answer.  It can ask for the values of its arguments, look up paths, look at the
document, the settings and the statistics so far, and read and change the world behind the resolver.
A procedure is what a function does with the evaluation that it was called in.  A function of the host
could also put a new evaluation, with nothing looked up yet, in the place of this one; that is left out.
-/

namespace Verdict

/-- How many paths were looked up so far, how many were answered from memory, and how many different
paths are held in memory. -/
structure Statistics where
  lookups : Nat
  hits : Nat
  cached : Nat
  deriving DecidableEq, Repr

/-- What a procedure can ask of the evaluation it runs in.  Arguments are counted from zero. -/
inductive Request (σ : Type) where
  /-- How many arguments there are. -/
  | arguments
  /-- An argument as a number, or the default. -/
  | number (argument : Nat) (default : Float)
  /-- An argument as a truth value, or the default. -/
  | boolean (argument : Nat) (default : Bool)
  /-- An argument as a string, or the default. -/
  | string (argument : Nat) (default : String)
  /-- An argument as the literal it stands for. -/
  | object (argument : Nat)
  /-- What a path refers to. -/
  | path (text : String)
  /-- The document. -/
  | document
  /-- The settings. -/
  | settings
  /-- The statistics so far. -/
  | statistics
  /-- The world behind the resolver. -/
  | world
  /-- Another world in its place. -/
  | enter (world : σ)

/-- What a request is answered with. -/
def Request.Reply {σ : Type} : Request σ → Type
  | arguments => Nat
  | number _ _ => Float
  | boolean _ _ => Bool
  | string _ _ => String
  | object _ => Literal
  | path _ => Option Json
  | document => Json
  | settings => Settings
  | statistics => Statistics
  | world => σ
  | enter _ => Unit

/-- A program that puts requests and ends with a value. -/
inductive Procedure (σ α : Type) where
  | done (value : α)
  | ask (request : Request σ) (next : request.Reply → Procedure σ α)

namespace Procedure

variable {σ α β : Type}

/-- Continues a procedure with another one. -/
def andThen : Procedure σ α → (α → Procedure σ β) → Procedure σ β
  | done a, f => f a
  | ask request next, f => ask request fun reply => andThen (next reply) f

instance : Monad (Procedure σ) where
  pure := done
  bind := andThen

/-- Puts one request. -/
def request (r : Request σ) : Procedure σ r.Reply :=
  ask r done

/-- How many arguments there are. -/
def arguments : Procedure σ Nat :=
  request .arguments

/-- An argument as a number, or the default. -/
def number (argument : Nat) (default : Float) : Procedure σ Float :=
  request (.number argument default)

/-- An argument as a truth value, or the default. -/
def boolean (argument : Nat) (default : Bool) : Procedure σ Bool :=
  request (.boolean argument default)

/-- An argument as a string, or the default. -/
def string (argument : Nat) (default : String) : Procedure σ String :=
  request (.string argument default)

/-- An argument as the literal it stands for. -/
def object (argument : Nat) : Procedure σ Literal :=
  request (.object argument)

/-- What a path refers to. -/
def path (text : String) : Procedure σ (Option Json) :=
  request (.path text)

/-- The document. -/
def document : Procedure σ Json :=
  request .document

/-- The settings. -/
def settings : Procedure σ Settings :=
  request .settings

/-- The statistics so far. -/
def statistics : Procedure σ Statistics :=
  request .statistics

/-- The world behind the resolver. -/
def world : Procedure σ σ :=
  request .world

/-- Puts another world in the place of the one behind the resolver. -/
def enter (w : σ) : Procedure σ Unit :=
  request (.enter w)

end Procedure

/-- What a call comes to, before it is looked at as a value of some kind. -/
inductive Answer where
  | literal (value : Literal)
  /-- Whatever a path refers to. -/
  | path (text : String)
  /-- Whatever an argument stands for; null if there is no such argument. -/
  | argument (index : Nat)

/-- The body of a function under a name by which it is told from others. -/
structure Implementation (σ : Type) where
  label : String
  body : Procedure σ Answer

end Verdict
