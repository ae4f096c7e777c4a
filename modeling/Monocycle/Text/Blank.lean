import Monocycle.Text.Basic

/-!
# Blanks and words

The characters that separate words, and the two operations that rest on them: taking them off
the ends of a text, and cutting a text into words.
-/

namespace Monocycle.Text

/-- The blank characters as inclusive ranges of code points. -/
def blankRanges : RangeTable :=
  [(0x09, 0x0d), (0x1c, 0x20), (0x85, 0x85), (0xa0, 0xa0), (0x1680, 0x1680), (0x2000, 0x200a),
   (0x2028, 0x2029), (0x202f, 0x202f), (0x205f, 0x205f), (0x3000, 0x3000)]

/-- **Blank**: a character that separates words. Besides the space these are the ASCII controls
that move the cursor or separate records, and the space characters of other scripts. -/
def isBlank (c : Char) : Bool :=
  blankRanges.covers c

/-- A text without the blanks at either end. -/
def strip (t : Text) : Text :=
  trim isBlank t

/-- The non-empty fields of a text between separators of a class. -/
def wordsBetween (isSeparator : Char → Bool) (t : Text) : List Text :=
  (splitOn isSeparator t).filter (!·.isEmpty)

end Monocycle.Text
