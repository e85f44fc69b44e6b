import Headroom.Text.Utf8

/-!
# The content of reports

A report comes as text or as the bytes that spell it.  Bytes are read as UTF-8 first, and
what they do not spell is replaced, so that there is a text to be read in any case.
-/

namespace Headroom
namespace Report

/-- A report as it comes. -/
inductive Content
  | text (chars : List Char)
  | bytes (spelling : List UInt8)
deriving DecidableEq, Repr

/-- The characters of a report. -/
def Content.chars : Content → List Char
  | .text chars => chars
  | .bytes spelling => Utf8.decode spelling

@[simp] theorem Content.chars_text (chars : List Char) : (Content.text chars).chars = chars := rfl

@[simp] theorem Content.chars_bytes (spelling : List UInt8) :
    (Content.bytes spelling).chars = Utf8.decode spelling := rfl

end Report
end Headroom
