import Headroom.Text.Utf8

/-!
# Reading bytes line by line

What a text is spelled as reads back as that text.  The proof follows one character: its
first byte begins a sequence, each further byte is in the range that is expected, and the
last one completes the character.

Bytes that spell nothing do no harm beyond the next byte below `0x80`: such a byte never
continues a sequence, so what stands before it and what stands after it are read apart.
-/

namespace Headroom
namespace Utf8

/-- A state in which no byte below `0x80` is expected. -/
def Expecting : Option Begun → Prop
  | none => True
  | some begun => 0x80 ≤ begun.low

/-- What is read of a sequence that is broken off. -/
def brokenOff : Option Begun → List Char
  | none => []
  | some _ => [replacement]

section States

variable {state : Option Begun} {byte : UInt8}

/-- A byte that begins a sequence expects none below `0x80` after it. -/
theorem expecting_start (byte : UInt8) : Expecting (start byte).2 := by
  unfold start
  dsimp only
  repeat' split
  all_goals simp [Expecting]

/-- Bytes below `0x80` are never expected, whatever was read before. -/
theorem expecting_step
    (state : Option Begun)
    (byte : UInt8) :
    Expecting (step state byte).2 := by
  cases state with
  | none => exact expecting_start byte
  | some begun =>
      unfold step
      dsimp only
      split
      · split <;> simp [Expecting]
      · exact expecting_start byte

/-- A byte below `0x80` is a character by itself. -/
theorem start_of_ascii (ascii : byte.toNat < 0x80) :
    start byte = ([Char.ofNat byte.toNat], none) := by
  rw [start, if_pos ascii]

/-- A byte below `0x80` breaks off what is begun and is a character by itself. -/
theorem step_of_ascii
    (expecting : Expecting state)
    (ascii : byte.toNat < 0x80) :
    step state byte = (brokenOff state ++ [Char.ofNat byte.toNat], none) := by
  cases state with
  | none => exact start_of_ascii ascii
  | some begun =>
      have unexpected : ¬(begun.low ≤ byte.toNat ∧ byte.toNat ≤ begun.high) := by
        have low : 0x80 ≤ begun.low := expecting
        omega
      rw [step, if_neg unexpected, start_of_ascii ascii]
      rfl

@[simp] theorem decodeFrom_nil (state : Option Begun) : decodeFrom state [] = brokenOff state := by
  cases state <;> rfl

/-- What stands before a byte below `0x80` and what stands after it are read apart. -/
theorem decodeFrom_append_ascii
    (expecting : Expecting state)
    (ascii : byte.toNat < 0x80)
    (before after : List UInt8) :
    decodeFrom state (before ++ byte :: after) =
      decodeFrom state before ++ Char.ofNat byte.toNat :: decode after := by
  induction before generalizing state with
  | nil =>
      rw [List.nil_append, decodeFrom_cons, step_of_ascii expecting ascii, decodeFrom_nil,
        List.append_assoc]
      rfl
  | cons first rest inductionHypothesis =>
      rw [List.cons_append, decodeFrom_cons, decodeFrom_cons,
        inductionHypothesis (expecting_step state first), List.append_assoc]

/-- Bytes with a line feed between them are read as two texts with a line feed between them. -/
theorem decode_append_lineFeed (before after : List UInt8) :
    decode (before ++ 0x0A :: after) = decode before ++ '\n' :: decode after := by
  have expecting : Expecting none := trivial
  exact decodeFrom_append_ascii expecting (by decide) before after

end States

section Characters

/-- A byte in the expected range completes a sequence of which it alone is missing. -/
theorem decodeFrom_last
    {bits low high : Nat}
    {byte : UInt8}
    (expected : low ≤ byte.toNat ∧ byte.toNat ≤ high)
    (rest : List UInt8) :
    decodeFrom (some ⟨bits, 1, low, high⟩) (byte :: rest) =
      Char.ofNat (bits * 64 + (byte.toNat - 0x80)) :: decode rest := by
  rw [decodeFrom_cons, step, if_pos expected]
  rfl

/-- A byte in the expected range continues a sequence of which more is missing. -/
theorem decodeFrom_continued
    {bits missing low high : Nat}
    {byte : UInt8}
    (expected : low ≤ byte.toNat ∧ byte.toNat ≤ high)
    (rest : List UInt8) :
    decodeFrom (some ⟨bits, missing + 2, low, high⟩) (byte :: rest) =
      decodeFrom (some ⟨bits * 64 + (byte.toNat - 0x80), missing + 1, 0x80, 0xBF⟩) rest := by
  rw [decodeFrom_cons, step, if_pos expected]
  rfl

/-- A first byte of two. -/
theorem start_of_two
    {byte : UInt8}
    (first : 0xC2 ≤ byte.toNat ∧ byte.toNat ≤ 0xDF) :
    start byte = ([], some ⟨byte.toNat - 0xC0, 1, 0x80, 0xBF⟩) := by
  have notAscii : ¬byte.toNat < 0x80 := by omega
  rw [start, if_neg notAscii, if_pos first]

/-- A first byte of three: the next one must not spell a shorter sequence or a surrogate. -/
theorem start_of_three
    {byte : UInt8}
    (first : 0xE0 ≤ byte.toNat ∧ byte.toNat ≤ 0xEF) :
    start byte = ([], some ⟨byte.toNat - 0xE0, 2,
      if byte.toNat = 0xE0 then 0xA0 else 0x80, if byte.toNat = 0xED then 0x9F else 0xBF⟩) := by
  have notAscii : ¬byte.toNat < 0x80 := by omega
  have notTwo : ¬(0xC2 ≤ byte.toNat ∧ byte.toNat ≤ 0xDF) := by omega
  rw [start, if_neg notAscii, if_neg notTwo]
  by_cases least : byte.toNat = 0xE0
  · simp [least]
  · by_cases surrogates : byte.toNat = 0xED
    · simp [surrogates]
    · have other : 0xE1 ≤ byte.toNat ∧ byte.toNat ≤ 0xEF := by omega
      simp [least, surrogates, other]

/-- A first byte of four: the next one must not spell a shorter sequence or go beyond the last
code point. -/
theorem start_of_four
    {byte : UInt8}
    (first : 0xF0 ≤ byte.toNat ∧ byte.toNat ≤ 0xF4) :
    start byte = ([], some ⟨byte.toNat - 0xF0, 3,
      if byte.toNat = 0xF0 then 0x90 else 0x80, if byte.toNat = 0xF4 then 0x8F else 0xBF⟩) := by
  have notAscii : ¬byte.toNat < 0x80 := by omega
  have notTwo : ¬(0xC2 ≤ byte.toNat ∧ byte.toNat ≤ 0xDF) := by omega
  have notThree : ¬(0xE1 ≤ byte.toNat ∧ byte.toNat ≤ 0xEF) := by omega
  have notLeast : byte.toNat ≠ 0xE0 := by omega
  have notSurrogate : byte.toNat ≠ 0xED := by omega
  rw [start, if_neg notAscii, if_neg notTwo, if_neg notLeast, if_neg notSurrogate, if_neg notThree]
  by_cases least : byte.toNat = 0xF0
  · simp [least]
  · by_cases greatest : byte.toNat = 0xF4
    · simp [greatest]
    · have other : 0xF1 ≤ byte.toNat ∧ byte.toNat ≤ 0xF3 := by omega
      simp [least, greatest, other]

/-- A number below `0x100` is kept by the byte that it is written to. -/
theorem toNat_ofNat_byte
    (number : Nat)
    (small : number < 0x100) :
    (UInt8.ofNat number).toNat = number :=
  UInt8.toNat_ofNat_of_lt small

/-- The bytes of a character are read as that character. -/
theorem decode_utf8EncodeChar_append
    (char : Char)
    (rest : List UInt8) :
    decode (String.utf8EncodeChar char ++ rest) = char :: decode rest := by
  have scalar : char.toNat < 0xD800 ∨ 0xDFFF < char.toNat ∧ char.toNat < 0x110000 := char.valid
  have read_back : Char.ofNat char.toNat = char := Char.ofNat_toNat char
  have value_eq : char.val.toNat = char.toNat := rfl
  unfold String.utf8EncodeChar decode
  dsimp only
  rw [value_eq]
  generalize char.toNat = code at scalar read_back ⊢
  split
  · rename_i one
    have byte_eq := toNat_ofNat_byte code (by omega)
    rw [List.singleton_append, decodeFrom_cons, step, start_of_ascii (by omega), byte_eq, read_back]
    rfl
  split
  · have lead_eq := toNat_ofNat_byte (code / 64 % 0x20 + 0xC0) (by omega)
    have last_eq := toNat_ofNat_byte (code % 0x40 + 0x80) (by omega)
    have sum : (code / 64 % 0x20 + 0xC0 - 0xC0) * 64 + (code % 0x40 + 0x80 - 0x80) = code := by
      omega
    rw [List.cons_append, decodeFrom_cons, step, start_of_two (by omega), List.nil_append,
      List.cons_append, decodeFrom_last (by omega), lead_eq, last_eq, sum, read_back]
    rfl
  split
  · have lead_eq := toNat_ofNat_byte (code / 4096 % 0x10 + 0xE0) (by omega)
    have second_eq := toNat_ofNat_byte (code / 64 % 0x40 + 0x80) (by omega)
    have last_eq := toNat_ofNat_byte (code % 0x40 + 0x80) (by omega)
    have sum : ((code / 4096 % 0x10 + 0xE0 - 0xE0) * 64 + (code / 64 % 0x40 + 0x80 - 0x80)) * 64 +
        (code % 0x40 + 0x80 - 0x80) = code := by
      omega
    rw [List.cons_append, decodeFrom_cons, step, start_of_three (by omega), List.nil_append,
      List.cons_append, decodeFrom_continued (by rw [lead_eq, second_eq]; split <;> split <;> omega),
      List.cons_append, decodeFrom_last (by omega), lead_eq, second_eq, last_eq, sum, read_back]
    rfl
  · have lead_eq := toNat_ofNat_byte (code / 262144 % 0x08 + 0xF0) (by omega)
    have second_eq := toNat_ofNat_byte (code / 4096 % 0x40 + 0x80) (by omega)
    have third_eq := toNat_ofNat_byte (code / 64 % 0x40 + 0x80) (by omega)
    have last_eq := toNat_ofNat_byte (code % 0x40 + 0x80) (by omega)
    have sum : (((code / 262144 % 0x08 + 0xF0 - 0xF0) * 64 +
        (code / 4096 % 0x40 + 0x80 - 0x80)) * 64 + (code / 64 % 0x40 + 0x80 - 0x80)) * 64 +
          (code % 0x40 + 0x80 - 0x80) = code := by
      omega
    rw [List.cons_append, decodeFrom_cons, step, start_of_four (by omega), List.nil_append,
      List.cons_append, decodeFrom_continued (by rw [lead_eq, second_eq]; split <;> split <;> omega),
      List.cons_append, decodeFrom_continued (by omega), List.cons_append, decodeFrom_last (by omega),
      lead_eq, second_eq, third_eq, last_eq, sum, read_back]
    rfl

/-- What a text is spelled as is read as that text, whatever comes after it. -/
theorem decode_encode_append
    (text : List Char)
    (rest : List UInt8) :
    decode (encode text ++ rest) = text ++ decode rest := by
  induction text with
  | nil => rfl
  | cons char others inductionHypothesis =>
      have whole : encode (char :: others) = String.utf8EncodeChar char ++ encode others :=
        List.flatMap_cons
      rw [whole, List.append_assoc, decode_utf8EncodeChar_append, inductionHypothesis]
      rfl

/-- What a text is spelled as is read as that text. -/
theorem decode_encode (text : List Char) : decode (encode text) = text := by
  have read := decode_encode_append text []
  rwa [List.append_nil, decode_nil, List.append_nil] at read

/-- Bytes are well formed exactly if they spell the text that they are read as. -/
theorem decode?_eq_some_iff
    {bytes : List UInt8}
    {text : List Char} :
    decode? bytes = some text ↔ bytes = encode text := by
  unfold decode?
  dsimp only
  constructor
  · intro read
    split at read
    · rename_i formed
      rw [← Option.some.inj read, formed]
    · cases read
  · rintro rfl
    rw [decode_encode, if_pos rfl]

end Characters

end Utf8
end Headroom
