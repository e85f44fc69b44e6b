/-!
# Bytes in base sixty-four

Four characters stand for three bytes.  Characters outside the alphabet are
passed over, and so is padding that comes too early; padding that completes a
group of four ends the text.

A text that ends inside a group stands for nothing.
-/

namespace Headroom
namespace Yaml
namespace Base64

/-- The six bits that a character stands for. -/
def bits? (char : Char) : Option Nat :=
  if 'A' ≤ char ∧ char ≤ 'Z' then some (char.toNat - 'A'.toNat)
  else if 'a' ≤ char ∧ char ≤ 'z' then some (char.toNat - 'a'.toNat + 26)
  else if '0' ≤ char ∧ char ≤ '9' then some (char.toNat - '0'.toNat + 52)
  else if char = '+' then some 62
  else if char = '/' then some 63
  else none

/-- The bytes of the rest of a text, given how far the current group has come. -/
def decodeFrom
    (position left padding : Nat) :
    List Char → Option (List UInt8)
  | [] => if position = 0 then some [] else none
  | char :: rest =>
    if char = '=' then
      if position < 2 then decodeFrom position left padding rest
      else if 4 ≤ position + (padding + 1) then some []
      else decodeFrom position left (padding + 1) rest
    else
      match bits? char with
      | none => decodeFrom position left padding rest
      | some bits =>
        match position with
        | 0 => decodeFrom 1 bits 0 rest
        | 1 =>
          (decodeFrom 2 (bits % 16) 0 rest).map (UInt8.ofNat (left * 4 + bits / 16) :: ·)
        | 2 =>
          (decodeFrom 3 (bits % 4) 0 rest).map (UInt8.ofNat (left * 16 + bits / 4) :: ·)
        | _ => (decodeFrom 0 0 0 rest).map (UInt8.ofNat (left * 64 + bits) :: ·)

/-- The bytes that a text stands for. -/
def decode? (text : List Char) : Option (List UInt8) :=
  decodeFrom 0 0 0 text

end Base64
end Yaml
end Headroom
