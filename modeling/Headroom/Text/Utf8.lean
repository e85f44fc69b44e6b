/-!
# Reading UTF-8

Bytes are read by an automaton whose state says which continuation bytes are
still expected.  Bytes that spell no character are replaced: each longest
prefix of a well-formed sequence that is not continued becomes one U+FFFD, and
the byte that broke it off is read afresh.

Because an unexpected byte always starts over, a line feed is read as a line
feed in every state.  Bytes are well formed when writing what was read gives
them back.
-/

namespace Headroom
namespace Utf8

/-- A sequence that has begun and is not complete. -/
structure Begun where
  /-- The bits read so far. -/
  bits : Nat
  /-- How many bytes are still to come. -/
  missing : Nat
  /-- The least value allowed for the next byte. -/
  low : Nat
  /-- The greatest value allowed for the next byte. -/
  high : Nat
deriving DecidableEq, Repr

/-- The character that stands for bytes that spell none. -/
def replacement : Char := '\uFFFD'

/-- What a byte means when no sequence has begun. -/
def start (byte : UInt8) : List Char × Option Begun :=
  let value := byte.toNat
  if value < 0x80 then ([Char.ofNat value], none)
  else if 0xC2 ≤ value ∧ value ≤ 0xDF then
    ([], some ⟨value - 0xC0, 1, 0x80, 0xBF⟩)
  else if value = 0xE0 then ([], some ⟨0, 2, 0xA0, 0xBF⟩)
  else if value = 0xED then ([], some ⟨0xD, 2, 0x80, 0x9F⟩)
  else if 0xE1 ≤ value ∧ value ≤ 0xEF then
    ([], some ⟨value - 0xE0, 2, 0x80, 0xBF⟩)
  else if value = 0xF0 then ([], some ⟨0, 3, 0x90, 0xBF⟩)
  else if 0xF1 ≤ value ∧ value ≤ 0xF3 then
    ([], some ⟨value - 0xF0, 3, 0x80, 0xBF⟩)
  else if value = 0xF4 then ([], some ⟨4, 3, 0x80, 0x8F⟩)
  else ([replacement], none)

/-- What a byte means in a given state: the characters it completes and the next state. -/
def step : Option Begun → UInt8 → List Char × Option Begun
  | none, byte => start byte
  | some begun, byte =>
    let value := byte.toNat
    if begun.low ≤ value ∧ value ≤ begun.high then
      let bits := begun.bits * 64 + (value - 0x80)
      if begun.missing ≤ 1 then ([Char.ofNat bits], none)
      else ([], some ⟨bits, begun.missing - 1, 0x80, 0xBF⟩)
    else
      let (characters, next) := start byte
      (replacement :: characters, next)

/-- The text that bytes spell when reading begins in a given state. -/
def decodeFrom : Option Begun → List UInt8 → List Char
  | none, [] => []
  | some _, [] => [replacement]
  | state, byte :: rest =>
    let (characters, next) := step state byte
    characters ++ decodeFrom next rest

/-- The text that bytes spell. -/
def decode (bytes : List UInt8) : List Char :=
  decodeFrom none bytes

/-- The bytes that spell a text. -/
def encode (text : List Char) : List UInt8 :=
  text.flatMap String.utf8EncodeChar

/-- The text that bytes spell, if they are well formed. -/
def decode? (bytes : List UInt8) : Option (List Char) :=
  let text := decode bytes
  if encode text = bytes then some text else none

@[simp] theorem decode_nil : decode [] = [] := rfl

theorem decodeFrom_cons
    (state : Option Begun)
    (byte : UInt8)
    (rest : List UInt8) :
    decodeFrom state (byte :: rest) =
      (step state byte).1 ++ decodeFrom (step state byte).2 rest := by
  cases state <;> rfl

end Utf8
end Headroom
