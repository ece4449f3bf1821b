import Verdict.Text.Blank

/-!
# Parsers

A parser reads the front of a text and reports what is left of it.  It can decline in two ways: a
*miss* says that nothing was recognised, so that another alternative may be tried from the start; an
*abort* says that the text cannot be continued from there at all, and passes through every
alternative, option and repetition.

Repetition stops before an item that misses, and before one that would not consume anything, so it
always ends.
-/

namespace Verdict

/-- The report of a parser on a text. -/
inductive Reply (α : Type) where
  /-- A value was read in front of `rest`. -/
  | ok (value : α) (rest : List Char)
  /-- Nothing was recognised; reading stopped at `here`. -/
  | miss (here : List Char)
  /-- The text is broken at `here`. -/
  | abort (here : List Char)
  deriving Repr, DecidableEq

/-- What a parser of values of type `α` reports about each text. -/
def Parser (α : Type) : Type :=
  List Char → Reply α

namespace Parser

variable {α β : Type}

instance : Monad Parser where
  pure a := fun s => .ok a s
  bind p f := fun s =>
    match p s with
    | .ok a rest => f a rest
    | .miss here => .miss here
    | .abort here => .abort here

@[simp] theorem pure_apply (a : α) (s : List Char) : (pure a : Parser α) s = .ok a s := rfl

theorem bind_apply (p : Parser α) (f : α → Parser β) (s : List Char) :
    (p >>= f) s =
      match p s with
      | .ok a rest => f a rest
      | .miss here => .miss here
      | .abort here => .abort here := rfl

/-- Recognises nothing. -/
def never : Parser α :=
  fun s => .miss s

/-- The first of two parsers that does not miss. -/
def orElse (p q : Parser α) : Parser α :=
  fun s =>
    match p s with
    | .miss _ => q s
    | reply => reply

instance : OrElse (Parser α) where
  orElse p q := orElse p (q ())

/-! ### Characters -/

/-- One character of a set. -/
def satisfy (accepts : Char → Bool) : Parser Char
  | [] => .miss []
  | c :: s => if accepts c then .ok c s else .miss (c :: s)

/-- One given character. -/
def char (c : Char) : Parser Char :=
  satisfy (· == c)

/-- A given text. -/
def token (text : List Char) : Parser Unit :=
  fun s => if text.isPrefixOf s then .ok () (s.drop text.length) else .miss s

/-- Any number of characters of a set, as many as there are. -/
def takeWhile (accepts : Char → Bool) : Parser (List Char) :=
  fun s => .ok (s.takeWhile accepts) (s.dropWhile accepts)

/-- At least one character of a set, as many as there are. -/
def takeWhile1 (accepts : Char → Bool) : Parser (List Char) := do
  let c ← satisfy accepts
  let cs ← takeWhile accepts
  return c :: cs

/-- Nothing, but not in front of a character of a set. -/
def notBefore (rejects : Char → Bool) : Parser Unit
  | [] => .ok () []
  | c :: s => if rejects c then .miss (c :: s) else .ok () (c :: s)

/-! ### Options and repetitions -/

/-- A value if there is one. -/
def optional (p : Parser α) : Parser (Option α) :=
  orElse (some <$> p) (pure none)

/-- At most `n` items. -/
def manyUpTo (p : Parser α) : Nat → Parser (List α)
  | 0, s => .ok [] s
  | n + 1, s =>
    match p s with
    | .miss _ => .ok [] s
    | .abort here => .abort here
    | .ok a rest =>
      if rest.length < s.length then
        match manyUpTo p n rest with
        | .ok as rest => .ok (a :: as) rest
        | reply => reply
      else .ok [] s

/-- Any number of items, as many as there are. -/
def many (p : Parser α) : Parser (List α) :=
  fun s => manyUpTo p (s.length + 1) s

/-- A bound above the length of the text is none. -/
theorem manyUpTo_eq {p : Parser α} {n m : Nat} {s : List Char} (hn : s.length < n)
    (hm : s.length < m) : manyUpTo p n s = manyUpTo p m s := by
  induction n generalizing m s with
  | zero => omega
  | succ n ih =>
    obtain ⟨m, rfl⟩ : ∃ k, m = k + 1 := ⟨m - 1, by omega⟩
    rw [manyUpTo, manyUpTo]
    cases p s with
    | miss => rfl
    | abort => rfl
    | ok a rest =>
      dsimp only
      split
      · rw [ih (by omega) (show rest.length < m by omega)]
      · rfl

/-- Repetition, item by item. -/
theorem many_eq (p : Parser α) (s : List Char) :
    many p s =
      match p s with
      | .miss _ => .ok [] s
      | .abort here => .abort here
      | .ok a rest =>
        if rest.length < s.length then
          match many p rest with
          | .ok as rest => .ok (a :: as) rest
          | reply => reply
        else .ok [] s := by
  rw [many, manyUpTo]
  cases p s with
  | miss => rfl
  | abort => rfl
  | ok a rest =>
    dsimp only
    split
    · rw [manyUpTo_eq (by omega) (Nat.lt_succ_self rest.length)]
      rfl
    · rfl

/-- At least one item, with a separator between any two.  A separator that no item follows is not
read. -/
def sepBy1 (item : Parser α) (separator : Parser β) : Parser (List α) := do
  let a ← item
  let as ← many (do let _ ← separator; item)
  return a :: as

/-- Any number of items, with a separator between any two. -/
def sepBy (item : Parser α) (separator : Parser β) : Parser (List α) :=
  orElse (sepBy1 item separator) (pure [])

/-- Any number of the blanks that may stand between tokens. -/
def spacing : Parser (List Char) :=
  takeWhile Text.isSpacing

/-- A value with any blanks around it. -/
def spaced (p : Parser α) : Parser α := do
  let _ ← spacing
  let a ← p
  let _ ← spacing
  return a

/-- The text that a parser reads. -/
def read (p : Parser α) : Parser (List Char) :=
  fun s =>
    match p s with
    | .ok _ rest => .ok (s.take (s.length - rest.length)) rest
    | .miss here => .miss here
    | .abort here => .abort here

/-! ### Whole texts -/

/-- Why a parser does not read a text as a whole. -/
inductive Error where
  /-- Something was read, but `rest` was left. -/
  | unread (rest : List Char)
  /-- Nothing was recognised; reading stopped at `here`. -/
  | unrecognised (here : List Char)
  /-- The number that begins at `here` breaks off in its exponent. -/
  | brokenNumber (here : List Char)
  deriving Repr, DecidableEq

/-- The value of a whole text. -/
def run (p : Parser α) (s : List Char) : Except Error α :=
  match p s with
  | .ok a [] => .ok a
  | .ok _ rest => .error (.unread rest)
  | .miss here => .error (.unrecognised here)
  | .abort here => .error (.brokenNumber here)

end Parser

end Verdict
