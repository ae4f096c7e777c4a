/-!
# Text

Source text, tokens and labels are lists of characters, so that positions and widths count code
points and every operation can be followed by recursion on the characters.

## Main definitions

* `Text`: a list of characters.
* `Text.splitOn`: the fields between separators.
* `Text.trim`: a text without the characters of a class at either end.
* `RangeTable`: a set of characters given by ranges of code points.
-/

namespace Monocycle

/-- **Text** as its characters in order. -/
abbrev Text := List Char

/-- A set of characters as inclusive ranges of code points. -/
abbrev RangeTable := List (Nat × Nat)

/-- Whether a character lies in one of the ranges. -/
def RangeTable.covers (table : RangeTable) (c : Char) : Bool :=
  table.any fun (first, last) => first ≤ c.toNat && c.toNat ≤ last

namespace Text

/-- Puts a character in front of the first of some fields, which is made if there is none. -/
def consFirst (c : Char) : List Text → List Text
  | [] => [[c]]
  | field :: fields => (c :: field) :: fields

/-- **Fields** of a text between the separators of a class; two neighbouring separators have an
empty field between them, and there is always at least one field. -/
def splitOn (isSeparator : Char → Bool) : Text → List Text
  | [] => [[]]
  | c :: rest =>
    if isSeparator c then [] :: splitOn isSeparator rest
    else consFirst c (splitOn isSeparator rest)

/-- A text without the characters of a class at its end. -/
def trimEnd (p : Char → Bool) (t : Text) : Text :=
  (t.reverse.dropWhile p).reverse

/-- **Trimming**: a text without the characters of a class at either end. -/
def trim (p : Char → Bool) (t : Text) : Text :=
  trimEnd p (t.dropWhile p)

/-- A text with fill characters in front up to a width; a longer text stays as it is. -/
def padStart (width : Nat) (t : Text) : Text :=
  List.replicate (width - t.length) ' ' ++ t

/-- A text with fill characters behind it up to a width; a longer text stays as it is. -/
def padEnd (width : Nat) (t : Text) : Text :=
  t ++ List.replicate (width - t.length) ' '

/-- Padding gives a text of at least the width asked for. -/
theorem length_padStart (width : Nat) (t : Text) :
    (padStart width t).length = max width t.length := by
  simp only [padStart, List.length_append, List.length_replicate]
  omega

/-- Padding gives a text of at least the width asked for. -/
theorem length_padEnd (width : Nat) (t : Text) :
    (padEnd width t).length = max width t.length := by
  simp only [padEnd, List.length_append, List.length_replicate]
  omega

end Text

end Monocycle
