/-!
# Text made of code points

A quoted scalar may name any code point by its number, and the numbers of
surrogates name no character.  `Text` therefore holds code points: characters
and single surrogates.

Ordinary characters embed into it, and a text without surrogates is read back
as the characters it came from.
-/

namespace Headroom

/-- A character or a surrogate that stands alone. -/
inductive CodePoint
  | scalar (char : Char)
  | surrogate (offset : Fin 2048)
deriving DecidableEq, Repr

namespace CodePoint

/-- The number of a code point. -/
def code : CodePoint → Nat
  | .scalar char => char.toNat
  | .surrogate offset => 0xD800 + offset.val

/-- The code point with a given number below `0x110000`. -/
def ofCode (code : Nat) : CodePoint :=
  if surrogate : 0xD800 ≤ code ∧ code < 0xE000 then
    .surrogate ⟨code - 0xD800, by omega⟩
  else
    .scalar (Char.ofNat code)

/-- The character that a code point is. -/
def char? : CodePoint → Option Char
  | .scalar char => some char
  | .surrogate _ => none

@[simp] theorem char?_scalar (char : Char) : char? (.scalar char) = some char := rfl

end CodePoint

/-- A finite sequence of code points. -/
abbrev Text := List CodePoint

namespace Text

/-- The text that consists of given characters. -/
def ofChars (chars : List Char) : Text :=
  chars.map .scalar

/-- The text that consists of the characters of a string. -/
def ofString (string : String) : Text :=
  ofChars string.toList

/-- The characters of a text that holds no surrogate. -/
def chars? (text : Text) : Option (List Char) :=
  text.mapM CodePoint.char?

/-- A text as a string, in which the replacement character stands for surrogates. -/
def display (text : Text) : String :=
  String.ofList (text.map fun point => point.char?.getD '\uFFFD')

/-- Whether a text begins with a given character. -/
def startsWith
    (text : Text)
    (char : Char) : Bool :=
  text.head? == some (.scalar char)

@[simp] theorem ofChars_nil : ofChars [] = [] := rfl

@[simp] theorem ofChars_cons (first : Char) (rest : List Char) :
    ofChars (first :: rest) = .scalar first :: ofChars rest := rfl

@[simp] theorem chars?_ofChars (chars : List Char) :
    chars? (ofChars chars) = some chars := by
  induction chars with
  | nil => rfl
  | cons first rest inductionHypothesis =>
    simp only [chars?, ofChars_cons, List.mapM_cons] at *
    simp [inductionHypothesis]

end Text
end Headroom
