/-!
# Blank characters and line ends

Tables of text are cut twice: into lines at the characters that end a line,
and into words at the characters that leave nothing on the page.  Both classes
are the full Unicode ones, together with the four information separators.

Every character that ends a line is blank, so cutting a text into words never
joins what two lines keep apart.
-/

namespace Headroom

/-- The characters that end a line. -/
def isLineEnd (char : Char) : Bool :=
  let code := char.toNat
  (0x0A ≤ code && code ≤ 0x0D) || (0x1C ≤ code && code ≤ 0x1E) ||
    code == 0x85 || code == 0x2028 || code == 0x2029

/-- The characters that separate words. -/
def isBlank (char : Char) : Bool :=
  let code := char.toNat
  (0x09 ≤ code && code ≤ 0x0D) || (0x1C ≤ code && code ≤ 0x20) ||
    code == 0x85 || code == 0xA0 || code == 0x1680 ||
    (0x2000 ≤ code && code ≤ 0x200A) || code == 0x2028 || code == 0x2029 ||
    code == 0x202F || code == 0x205F || code == 0x3000

theorem isBlank_of_isLineEnd
    {char : Char}
    (endsLine : isLineEnd char = true) :
    isBlank char = true := by
  simp only [isLineEnd, isBlank, Bool.or_eq_true, Bool.and_eq_true,
    decide_eq_true_eq, beq_iff_eq] at *
  omega

/-- A text without the characters at its two ends that satisfy a test. -/
def trim
    (test : Char → Bool)
    (text : List Char) :
    List Char :=
  ((text.dropWhile test).reverse.dropWhile test).reverse

end Headroom
