import Monocycle.Text.Blank
import Monocycle.Text.Line
import Monocycle.Text.WordChar

/-!
# Source lines

The parts of a line of source text. A line is what is left of it in front of the comment sign,
without surrounding blanks. It may begin with a label and a colon, and the rest is cut into
tokens at blanks and commas.

## Main definitions

* `stripLine`, `splitLabel`, `tokens`: the three cuts.
* `SourceLine`, `sourceLines`: the lines of a source that are not empty, with their numbers.
-/

namespace Monocycle

/-- What a line says: the part before the comment sign, without surrounding blanks. -/
def stripLine (raw : Text) : Text :=
  Text.strip (raw.takeWhile (· != '#'))

/-- A character that may begin a label in front of an instruction. -/
def isLabelStart (c : Char) : Bool :=
  c.isAlpha || c == '_' || c == '.' || c == '$'

/-- A character that may follow in a label in front of an instruction. -/
def isLabelChar (c : Char) : Bool :=
  Text.isWordChar c || c == '.' || c == '$'

/-- **Label name**: what may stand before a colon with an instruction behind it. -/
def isLabelName : Text → Bool
  | [] => false
  | c :: rest => isLabelStart c && rest.all isLabelChar

/-- **Label and rest** of a line. A line that ends in a colon is a label as a whole, whatever its
name is made of. Otherwise the text before the first colon is a label if it is a label name, and
a line without such a text has no label. -/
def splitLabel (line : Text) : Option Text × Text :=
  if line.getLast? = some ':' then (some (Text.strip line.dropLast), [])
  else match line.dropWhile (· != ':') with
    | [] => (none, line)
    | _ :: after =>
      let name := Text.strip (line.takeWhile (· != ':'))
      if isLabelName name then (some name, Text.strip after) else (none, line)

/-- A character that separates tokens. -/
def isTokenSeparator (c : Char) : Bool :=
  Text.isBlank c || c == ','

/-- The **tokens** of a text: its words, where a comma separates as a blank does. -/
def tokens (t : Text) : List Text :=
  Text.wordsBetween isTokenSeparator t

/-- A **source line** that is not empty once its comment is gone. -/
structure SourceLine where
  /-- The number of the line in the source, counted from 1. -/
  number : Nat
  /-- The line without comment and surrounding blanks. -/
  text : Text
  deriving DecidableEq, Repr

namespace SourceLine

/-- The label the line defines, if any. -/
def label? (l : SourceLine) : Option Text :=
  (splitLabel l.text).1

/-- The part of the line behind the label. -/
def body (l : SourceLine) : Text :=
  (splitLabel l.text).2

/-- Whether the line takes a place in the program: something is left behind its label. -/
def isInstruction (l : SourceLine) : Bool :=
  !l.body.isEmpty

end SourceLine

/-- The lines of a source that are not empty, in order. -/
def sourceLines (source : Text) : List SourceLine :=
  ((Text.lines source).zipIdx 1).filterMap fun (raw, number) =>
    let text := stripLine raw
    if text.isEmpty then none else some ⟨number, text⟩

end Monocycle
