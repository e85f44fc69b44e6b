import Headroom.Proofs.Text.Utf8
import Headroom.Report.Content
import Headroom.Report.DiskUsage
import Headroom.Report.MountTable

/-!
# Reports that come as bytes

A report says the same whether it comes as text or as the bytes that spell the text.  Bytes
that spell nothing spoil the line that they stand on and no other: the rows before a line
feed and the rows after it are those of two reports.
-/

namespace Headroom
namespace Report

/-- The bytes that spell a text have the characters of the text. -/
theorem Content.chars_bytes_encode (text : List Char) :
    (Content.bytes (Utf8.encode text)).chars = (Content.text text).chars :=
  Utf8.decode_encode text

/-- The rows before a line feed and the rows after it are read apart, whatever bytes they are. -/
theorem textRows_bytes_append_lineFeed (before after : List UInt8) :
    textRows (Content.bytes (before ++ 0x0A :: after)).chars =
      textRows (Content.bytes before).chars ++ textRows (Content.bytes after).chars := by
  rw [Content.chars_bytes, Utf8.decode_append_lineFeed]
  exact textRows_append_lineEnd rfl (Utf8.decode before) (Utf8.decode after)

/-- Rows, disk usage and mount points are the same for a text and for the bytes that spell it; and
bytes of any kind are read line by line: the rows before a line feed are those of the bytes before
it, and the rows after it are those of the bytes after it. -/
theorem bytes_read_as_lines_of_text :
    (∀ text : List Char,
      textRows (Content.bytes (Utf8.encode text)).chars = textRows (Content.text text).chars ∧
        (∀ mountPath,
          diskUsage mountPath (Content.bytes (Utf8.encode text)).chars =
            diskUsage mountPath (Content.text text).chars) ∧
        mountPoints (Content.bytes (Utf8.encode text)).chars =
          mountPoints (Content.text text).chars) ∧
      ∀ before after : List UInt8,
        textRows (Content.bytes (before ++ 0x0A :: after)).chars =
          textRows (Content.bytes before).chars ++ textRows (Content.bytes after).chars := by
  refine ⟨fun text => ?_, textRows_bytes_append_lineFeed⟩
  rw [Content.chars_bytes_encode]
  exact ⟨rfl, fun _ => rfl, rfl⟩

/-- A sequence that is cut off at a line feed leaves the next line as it is. -/
example :
    textRows (Content.bytes [0x61, 0xF0, 0x9F, 0x0D, 0x0A, 0x62]).chars =
      [["a\uFFFD".toList], ["b".toList]] := by
  decide

end Report
end Headroom
