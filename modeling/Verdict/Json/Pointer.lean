import Verdict.Json.Basic
import Verdict.Decimal.Numeral

/-!
# JSON Pointer

A pointer is empty, or a sequence of reference tokens with a slash in front of each.  In a token `~1`
stands for a slash and `~0` for a tilde.  A token names a member of an object, or an element of an
array by its position, written without a sign and without a leading zero.
-/

namespace Verdict.Json

namespace Pointer

/-- The plain text of a reference token.  A tilde that begins no escape stands for itself. -/
def unescape : List Char → List Char
  | [] => []
  | '~' :: '1' :: s => '/' :: unescape s
  | '~' :: '0' :: s => '~' :: unescape s
  | c :: s => c :: unescape s

/-- The position that a reference token stands for in an array. -/
def position? (token : List Char) : Option Nat :=
  match token with
  | [] => none
  | ['0'] => some 0
  | '0' :: _ => none
  | digits =>
    if digits.all Char.isDigit && Decimal.ofDigits digits < 0x10000000000000000 then
      some (Decimal.ofDigits digits)
    else none

/-- The child of a value that a reference token names. -/
def step (token : List Char) (v : Json) : Option Json :=
  match v with
  | .object _ => v.member? (String.ofList token)
  | .array _ => (position? token).bind fun i => v.item? i
  | _ => none

/-- The reference tokens of a text, each up to the next slash, the first one continuing `token`,
given backwards. -/
def tokensAfter (token : List Char) : List Char → List (List Char)
  | [] => [unescape token.reverse]
  | '/' :: s => unescape token.reverse :: tokensAfter [] s
  | c :: s => tokensAfter (c :: token) s

/-- The reference tokens of a pointer. -/
def tokens? : List Char → Option (List (List Char))
  | [] => some []
  | '/' :: s => some (tokensAfter [] s)
  | _ => none

/-- The value that a sequence of reference tokens leads to. -/
def walk : List (List Char) → Json → Option Json
  | [], v => some v
  | token :: tokens, v => (step token v).bind (walk tokens)

end Pointer

/-- The value that a pointer leads to. -/
def pointer? (pointer : List Char) (v : Json) : Option Json :=
  (Pointer.tokens? pointer).bind fun tokens => Pointer.walk tokens v

end Verdict.Json
