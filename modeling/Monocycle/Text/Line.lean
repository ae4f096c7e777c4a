import Monocycle.Text.Basic

/-!
# Lines

Cutting a text into lines. A carriage return and a line feed behind it end one line together;
the last line needs no end, and an end with nothing after it opens no further line.
-/

namespace Monocycle.Text

/-- The characters that end a line as inclusive ranges of code points. -/
def lineEndRanges : RangeTable :=
  [(0x0a, 0x0d), (0x1c, 0x1e), (0x85, 0x85), (0x2028, 0x2029)]

/-- Whether a character ends a line. -/
def isLineEnd (c : Char) : Bool :=
  lineEndRanges.covers c

/-- **Lines** of a text, without their ends. -/
def lines : Text → List Text
  | [] => []
  | '\r' :: '\n' :: rest => [] :: lines rest
  | c :: rest => if isLineEnd c then [] :: lines rest else consFirst c (lines rest)

end Monocycle.Text
