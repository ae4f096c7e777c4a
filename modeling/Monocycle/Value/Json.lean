import Monocycle.Value.Basic

/-!
# Reading JSON

A reader for JSON texts. Beyond the standard it knows `NaN`, `Infinity` and `-Infinity`, and a
number too large for a double is infinite. Of two entries with one name the later counts. An
integer over the digit limit makes the whole text unreadable.

The reader works with a budget that each value, list item and map entry draws on; the length of
the text is always enough.

## Main definitions

* `Json.readValue`: one value at the start of a text.
* `Json.read?`: a text that is one value with blanks around it.
-/

namespace Monocycle.Json

/-- The blanks of JSON. -/
def isSpace (c : Char) : Bool :=
  c == ' ' || c == '\t' || c == '\n' || c == '\r'

/-- A text without the blanks at its start. -/
def skipSpace (t : Text) : Text :=
  t.dropWhile isSpace

/-- The rest of a text behind a word it starts with. -/
def dropWord? : (word t : Text) → Option Text
  | [], t => some t
  | _ :: _, [] => none
  | w :: word, c :: t => if w = c then dropWord? word t else none

/-! ### Strings -/

/-- The value of a hexadecimal digit of either case. -/
def hexDigit? (c : Char) : Option Nat :=
  Text.digit? 16 c.toLower

/-- The number four hexadecimal digits stand for, with the rest of the text. -/
def readUnit? : Text → Option (Nat × Text)
  | a :: b :: c :: d :: rest => do
    let digits ← [a, b, c, d].mapM hexDigit?
    return (Text.valueOf 16 digits, rest)
  | _ => none

/-- Whether a 16-bit unit is the first of a pair that encodes one character. -/
def isHighUnit (n : Nat) : Bool :=
  0xD800 ≤ n && n < 0xDC00

/-- Whether a 16-bit unit is the second of such a pair. -/
def isLowUnit (n : Nat) : Bool :=
  0xDC00 ≤ n && n < 0xE000

/-- The character of a unit that is not part of a pair; half a pair has the replacement
character. -/
def unitChar (n : Nat) : Char :=
  if isHighUnit n || isLowUnit n then '\ufffd' else Char.ofNat n

/-- The character an escaped 16-bit unit stands for, together with the escape behind it if the
two are a pair, and the rest of the text. -/
def readUnitChar? (t : Text) : Option (Char × Text) := do
  let (first, rest) ← readUnit? t
  if isHighUnit first then
    match rest with
    | '\\' :: 'u' :: more =>
      match readUnit? more with
      | some (second, behind) =>
        if isLowUnit second then
          return (Char.ofNat (0x10000 + (first - 0xD800) * 0x400 + (second - 0xDC00)), behind)
        else return (unitChar first, rest)
      | none => return (unitChar first, rest)
    | _ => return (unitChar first, rest)
  else return (unitChar first, rest)

/-- The character a one-letter escape stands for. -/
def shortEscape? : Char → Option Char
  | '"' => some '"'
  | '\\' => some '\\'
  | '/' => some '/'
  | 'b' => some '\x08'
  | 'f' => some '\x0c'
  | 'n' => some '\n'
  | 'r' => some '\r'
  | 't' => some '\t'
  | _ => none

/-- The characters of a string whose opening quote is gone, up to its closing quote, and the rest
of the text. Control characters have to be escaped. -/
def readString? : (budget : Nat) → Text → Option (Text × Text)
  | 0, _ => none
  | _ + 1, [] => none
  | _ + 1, '"' :: rest => some ([], rest)
  | budget + 1, '\\' :: 'u' :: rest => do
    let (c, rest) ← readUnitChar? rest
    let (cs, rest) ← readString? budget rest
    return (c :: cs, rest)
  | budget + 1, '\\' :: e :: rest => do
    let c ← shortEscape? e
    let (cs, rest) ← readString? budget rest
    return (c :: cs, rest)
  | budget + 1, c :: rest =>
    if c.toNat < 32 || c == '\\' then none
    else do
      let (cs, rest) ← readString? budget rest
      return (c :: cs, rest)

/-! ### Numbers -/

/-- The digits at the start of a text, and the rest. -/
def spanDigits (t : Text) : Text × Text :=
  (t.takeWhile (Text.isDigitOf 10), t.dropWhile (Text.isDigitOf 10))

/-- The digits of a whole part: a zero, or a row of digits that does not start with one. -/
def wholePart? (t : Text) : Option (Text × Text) :=
  match t with
  | '0' :: rest => some (['0'], rest)
  | _ =>
    let (digits, rest) := spanDigits t
    if digits.isEmpty then none else some (digits, rest)

/-- The digits behind a point; without a digit there the point is no part of the number. -/
def fractionPart (t : Text) : Option Text × Text :=
  match t with
  | '.' :: more =>
    let (digits, rest) := spanDigits more
    if digits.isEmpty then (none, t) else (some digits, rest)
  | _ => (none, t)

/-- The exponent behind a number; without a digit in it the letter is no part of the number. -/
def exponentPart (t : Text) : Option Int × Text :=
  match t with
  | e :: more =>
    if e == 'e' || e == 'E' then
      let (sign, body) := match more with
        | '-' :: body => ((-1 : Int), body)
        | '+' :: body => (1, body)
        | body => (1, body)
      let (digits, rest) := spanDigits body
      if digits.isEmpty then (none, t) else (some (sign * Text.natOf 10 digits), rest)
    else (none, t)
  | [] => (none, t)

/-- The number at the start of a text: an integer if it has neither fraction nor exponent. -/
def readNumber? (t : Text) : Option (Value × Text) := do
  let (negative, body) := match t with
    | '-' :: body => (true, body)
    | body => (false, body)
  let (whole, rest) ← wholePart? body
  let (fraction?, rest) := fractionPart rest
  let (exponent?, rest) := exponentPart rest
  match fraction?, exponent? with
  | none, none =>
    guard (whole.length ≤ Text.digitLimit)
    let n : Int := Text.natOf 10 whole
    return (.int (if negative then -n else n), rest)
  | _, _ =>
    let fraction := fraction?.getD []
    let digits := whole ++ fraction
    let exponent := exponent?.getD 0 - fraction.length
    return (.real (.ofDecimal negative (Text.natOf 10 digits) digits.length exponent), rest)

/-! ### Values -/

/-- The words that stand for values. -/
def constants : List (String × Value) :=
  [("null", .null), ("true", .bool true), ("false", .bool false),
   ("NaN", .real .notANumber), ("Infinity", .real (.infinite false)),
   ("-Infinity", .real (.infinite true))]

/-- The constant at the start of a text, and the rest. -/
def readConstant? (t : Text) : Option (Value × Text) :=
  constants.findSome? fun entry => (dropWord? entry.1.toList t).map fun rest => (entry.2, rest)

mutual

/-- **One value** at the start of a text that has no blanks there, and the rest. -/
def readValue : (budget : Nat) → Text → Option (Value × Text)
  | 0, _ => none
  | budget + 1, t =>
    match t with
    | [] => none
    | '"' :: rest => do
      let (cs, rest) ← readString? (rest.length + 1) rest
      return (.ofText cs, rest)
    | '[' :: rest =>
      match skipSpace rest with
      | ']' :: rest => some (.list [], rest)
      | rest => do
        let (items, rest) ← readItems budget rest
        return (.list items, rest)
    | '\x7b' :: rest =>
      match skipSpace rest with
      | '\x7d' :: rest => some (.map [], rest)
      | rest => do
        let (entries, rest) ← readEntries budget [] rest
        return (.map entries, rest)
    | t => (readConstant? t).orElse fun _ => readNumber? t

/-- The items of a list from one of them on, up to the closing bracket, and the rest. -/
def readItems : (budget : Nat) → Text → Option (List Value × Text)
  | 0, _ => none
  | budget + 1, t => do
    let (item, rest) ← readValue budget t
    match skipSpace rest with
    | ']' :: rest => return ([item], rest)
    | ',' :: rest =>
      let (items, rest) ← readItems budget (skipSpace rest)
      return (item :: items, rest)
    | _ => none

/-- The entries of a map from one of them on, up to the closing brace, put over those known, and
the rest. -/
def readEntries : (budget : Nat) → Entries → Text → Option (Entries × Text)
  | 0, _, _ => none
  | budget + 1, known, t =>
    match t with
    | '"' :: rest => do
      let (name, rest) ← readString? (rest.length + 1) rest
      match skipSpace rest with
      | ':' :: rest =>
        let (v, rest) ← readValue budget (skipSpace rest)
        let entries := Entries.put known (String.ofList name) v
        match skipSpace rest with
        | '\x7d' :: rest => return (entries, rest)
        | ',' :: rest => readEntries budget entries (skipSpace rest)
        | _ => none
      | _ => none
    | _ => none

end

/-- **Reading a JSON text**: one value and nothing else but blanks. -/
def read? (t : Text) : Option Value := do
  let (v, rest) ← readValue (t.length + 1) (skipSpace t)
  if (skipSpace rest).isEmpty then some v else none

end Monocycle.Json
