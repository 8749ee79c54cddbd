/-!
# Blank characters

The characters that count as white space when a reply is trimmed: the ASCII controls tab
through carriage return, the four information separators `U+001C`–`U+001F`, the space,
and the Unicode space and line separators. Core's `Char.isWhitespace` knows only four of
them. A numeral may be surrounded by fewer: the ASCII white space proper, and the blanks
outside ASCII, but not the information separators.
-/

namespace DebugBridge.Text

set_option autoImplicit false

/-- `c` is a blank: a character that trimming removes and that may surround a numeral. -/
def isBlank (c : Char) : Bool :=
  let n := c.toNat
  (0x09 ≤ n && n ≤ 0x0D) || (0x1C ≤ n && n ≤ 0x20) || n == 0x85 || n == 0xA0 ||
  n == 0x1680 || (0x2000 ≤ n && n ≤ 0x200A) || n == 0x2028 || n == 0x2029 ||
  n == 0x202F || n == 0x205F || n == 0x3000

theorem isBlank_of_isWhitespace (c : Char) (h : c.isWhitespace = true) : isBlank c = true := by
  simp only [Char.isWhitespace, Bool.or_eq_true, decide_eq_true_eq] at h
  simp only [isBlank, Bool.or_eq_true, Bool.and_eq_true, decide_eq_true_eq, beq_iff_eq]
  rcases h with ((h | h) | h) | h <;> subst h <;> decide

def isAsciiSpace (c : Char) : Bool :=
  c == ' ' || ('\t' ≤ c && c ≤ '\r')

/-- A character that may surround a numeral: ASCII white space, or a blank outside ASCII. -/
def isNumeralBlank (c : Char) : Bool :=
  if c.toNat < 128 then isAsciiSpace c else isBlank c

def trimBlanks (s : String) : String :=
  String.ofList ((s.toList.dropWhile isBlank).reverse.dropWhile isBlank).reverse

end DebugBridge.Text
