/-!
White space and line terminators of program text. Both separate tokens; a line terminator also ends a
line comment and allows a semicolon to be left out.
-/

namespace BraceLint.Text

/-- The four characters that end a line of a program. -/
def isLineTerminator (c : Char) : Bool :=
  c == '\n' || c == '\r' || c == '\u2028' || c == '\u2029'

/-- White space inside a line: tab, vertical tab, form feed, the control character for the next line,
the byte order mark and every space separator of Unicode. -/
def isBlank (c : Char) : Bool :=
  let n := c.toNat
  n == 0x20 || n == 0x9 || n == 0xB || n == 0xC || n == 0x85 || n == 0xA0 || n == 0xFEFF || n == 0x1680 ||
    (0x2000 ≤ n && n ≤ 0x200A) || n == 0x202F || n == 0x205F || n == 0x3000

end BraceLint.Text
