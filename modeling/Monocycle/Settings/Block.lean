import Monocycle.Value.Json

/-!
# Settings files

Settings files are written in blocks: a name with a colon on each line, and either a value behind
the colon or an indented block of such lines below it. Comments begin with `#`; empty lines mean
nothing. A whole file may also be one JSON text, which is a way of writing the same values.

A value is a word that stands for null or a truth value, an integer, or else a text. Anything
that does not fit makes the file unreadable as a whole.

## Main definitions

* `Block.scalar`: the value a word stands for.
* `Block.line?`: the indentation, name and value of a line.
* `Block.read?`: the value of a file.
-/

namespace Monocycle.Block

/-! ### Words -/

/-- Whether a text is a word in one of its usual cases: lower, capitalised or upper. -/
def isWordIn (words : List String) (t : Text) : Bool :=
  words.any fun w =>
    let lower := w.toList
    let upper := lower.map Char.toUpper
    t == lower || t == upper || t == upper.take 1 ++ lower.drop 1

/-- The digits of a numeral without the underscores that group them. -/
def ungrouped (t : Text) : Text :=
  t.filter (· != '_')

/-- Whether a text is made of digits of a base and underscores, with a digit at its start. -/
def isGroupedNumeral (base : Nat) (t : Text) : Bool :=
  match t with
  | [] => false
  | c :: rest => Text.isDigitOf base c && rest.all fun d => Text.isDigitOf base d || d == '_'

/-- The natural number a word stands for: binary after `0b`, hexadecimal after `0x`, octal after
another leading zero, else decimal. -/
def natural? (t : Text) : Option Nat :=
  match t with
  | ['0'] => some 0
  | '0' :: 'b' :: digits =>
    if isGroupedNumeral 2 digits then some (Text.natOf 2 (ungrouped digits)) else none
  | '0' :: 'x' :: digits =>
    let digits := digits.map Char.toLower
    if isGroupedNumeral 16 digits then some (Text.natOf 16 (ungrouped digits)) else none
  | '0' :: digits =>
    if digits.all fun d => Text.isDigitOf 8 d || d == '_'
    then some (Text.natOf 8 (ungrouped digits)) else none
  | digits =>
    if isGroupedNumeral 10 digits then some (Text.natOf 10 (ungrouped digits)) else none

/-- The integer a word stands for. -/
def integer? (t : Text) : Option Int :=
  match t with
  | '-' :: rest => (natural? rest).map fun n => -(n : Int)
  | '+' :: rest => (natural? rest).map fun n => (n : Int)
  | rest => (natural? rest).map fun n => (n : Int)

/-- **Word**: the value a plain word stands for. -/
def scalar (t : Text) : Value :=
  if t.isEmpty || t == ['~'] || isWordIn ["null"] t then .null
  else if isWordIn ["true", "yes", "on"] t then .bool true
  else if isWordIn ["false", "no", "off"] t then .bool false
  else match integer? t with
    | some i => .int i
    | none => .ofText t

/-- Characters that have a meaning of their own at the start of a value. -/
def isIndicator (c : Char) : Bool :=
  ['[', ']', '\x7b', '\x7d', '&', '*', '!', '|', '>', '%', '@', '\x60', ','].contains c

/-- Whether a text has a colon that would make it a name: one followed by a blank, or at its end. -/
def hasNameColon : Text → Bool
  | [] => false
  | [c] => c == ':'
  | c :: d :: rest => (c == ':' && d == ' ') || hasNameColon (d :: rest)

/-- The value written behind a name. A quoted text is taken as it is. -/
def value? (t : Text) : Option Value :=
  match t with
  | [] => some .null
  | c :: rest =>
    if c == '"' || c == '\'' then
      let inner := rest.dropLast
      if rest.getLast? = some c && !inner.contains c && !inner.contains '\\'
      then some (.ofText inner) else none
    else if isIndicator c || hasNameColon t then none
    else some (scalar t)

/-! ### Lines -/

/-- A line of a settings file. -/
structure Line where
  indent : Nat
  name : String
  value : Value
  /-- Whether nothing is written behind the name, so that a block may follow. -/
  opensBlock : Bool

/-- A line without its comment: a `#` at its start or behind a blank begins one. -/
def dropComment (blankBefore : Bool) : Text → Text
  | [] => []
  | c :: rest =>
    if c == '#' && blankBefore then [] else c :: dropComment (c == ' ' || c == '\t') rest

/-- The name and the value of a line without indentation. -/
def splitName? : Text → Option (Text × Text)
  | [] => none
  | ':' :: rest =>
    match rest with
    | [] => some ([], [])
    | c :: _ => if c == ' ' then some ([], Text.strip rest) else
      (splitName? rest).map fun (name, v) => (':' :: name, v)
  | c :: rest => (splitName? rest).map fun (name, v) => (c :: name, v)

/-- One line of a settings file that is not empty. -/
def line? (t : Text) : Option Line := do
  let indent := (t.takeWhile (· == ' ')).length
  let (name, v) ← splitName? (t.drop indent)
  let nameValue ← value? (Text.trimEnd Text.isBlank name)
  let label ← match nameValue with
    | .text s => some s
    | .null => none
    | _ => some (String.ofList (Text.trimEnd Text.isBlank name))
  guard (t.drop indent).head?.isSome
  guard ((t.drop indent).head? != some '\t')
  let v' ← value? v
  return ⟨indent, label, v', v.isEmpty⟩

/-- The texts of the lines that are not empty, without their comments. -/
def contents (t : Text) : List Text :=
  ((Text.splitOn (· == '\n') t).map fun l =>
    Text.trimEnd (fun c => c == ' ' || c == '\t' || c == '\r') (dropComment true l)).filter
      (!·.isEmpty)

/-! ### Blocks -/

/-- The entries of an indented block: its lines all have one indentation and no block of their
own. -/
def blockEntries? (indent : Nat) (ls : List Line) : Option Entries :=
  if ls.all fun l => l.indent == indent
  then some (ls.foldl (fun entries l => entries.put l.name l.value) [])
  else none

/-- The value of a name at the margin, given the indented lines below it. -/
def nested? (head : Line) (below : List Line) : Option Value :=
  match below with
  | [] => some head.value
  | first :: _ =>
    if head.opensBlock then (blockEntries? first.indent below).map .map else none

/-- The entries of a file from a name at the margin on. Every name takes the indented lines below
it. -/
def entries? (known : Entries) : List Line → Option Entries
  | [] => some known
  | head :: rest =>
    if head.indent == 0 then do
      let below := rest.takeWhile fun l => l.indent != 0
      let v ← nested? head below
      entries? (known.put head.name v) (rest.dropWhile fun l => l.indent != 0)
    else none
termination_by ls => ls.length
decreasing_by
  exact Nat.lt_succ_of_le (List.dropWhile_sublist _).length_le

/-- **Reading a settings file.** An empty file is null; a file without a name is one word or one
JSON text. -/
def read? (t : Text) : Option Value :=
  match contents t with
  | [] => some .null
  | first :: more =>
    match (first :: more).mapM line? with
    | some ls => (entries? [] ls).map .map
    | none =>
      match Json.read? t with
      | some v => some v
      | none => if more.isEmpty then value? (Text.strip first) else none

end Monocycle.Block
