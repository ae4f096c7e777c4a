import Monocycle.Text.Blank

/-!
# Numerals

Reading integers from text. A decimal numeral may have at most `digitLimit` digits, leading
zeros counted; numerals in other bases have no limit.

`integer?` is the generous reading used for settings and requests: blanks around the numeral, a
sign, decimal digits of any script, and single underscores between digits.

## Main definitions

* `Text.digit?`, `Text.valueOf`: the value of a digit and of a row of digits.
* `Text.digitLimit`: how long a decimal numeral may be.
* `Text.integer?`: the generous reading of a decimal integer.
* `Text.ofNat`, `Text.ofInt`: writing numbers in decimal.
-/

namespace Monocycle.Text

/-- The value of an ASCII digit or letter as a digit, below 36. -/
def asciiDigit? (c : Char) : Option Nat :=
  if '0' ≤ c && c ≤ '9' then some (c.toNat - '0'.toNat)
  else if 'a' ≤ c && c ≤ 'z' then some (c.toNat - 'a'.toNat + 10)
  else none

/-- The value of a character as an ASCII digit of a base; letters count in lower case only. -/
def digit? (base : Nat) (c : Char) : Option Nat :=
  (asciiDigit? c).filter (· < base)

/-- Whether a character is an ASCII digit of a base. -/
def isDigitOf (base : Nat) (c : Char) : Bool :=
  (digit? base c).isSome

/-- The number a row of digit values denotes in a base, most significant digit first. -/
def valueOf (base : Nat) (digits : List Nat) : Nat :=
  digits.foldl (fun n d => n * base + d) 0

/-- The number a row of ASCII digits denotes in a base. -/
def natOf (base : Nat) (t : Text) : Nat :=
  valueOf base (t.filterMap (digit? base))

/-- **Digit limit**: a decimal numeral with more digits is refused, whatever its value. -/
def digitLimit : Nat := 4300

/-- The zeros of the decimal digits beyond ASCII; the nine code points after each are the other
digits of the same script. As of Unicode 14. -/
def scriptZeros : List Nat :=
  [0x660, 0x6f0, 0x7c0, 0x966, 0x9e6, 0xa66, 0xae6, 0xb66, 0xbe6, 0xc66, 0xce6, 0xd66, 0xde6,
   0xe50, 0xed0, 0xf20, 0x1040, 0x1090, 0x17e0, 0x1810, 0x1946, 0x19d0, 0x1a80, 0x1a90, 0x1b50,
   0x1bb0, 0x1c40, 0x1c50, 0xa620, 0xa8d0, 0xa900, 0xa9d0, 0xa9f0, 0xaa50, 0xabf0, 0xff10,
   0x104a0, 0x10d30, 0x11066, 0x110f0, 0x11136, 0x111d0, 0x112f0, 0x11450, 0x114d0, 0x11650,
   0x116c0, 0x11730, 0x118e0, 0x11950, 0x11c50, 0x11d50, 0x11da0, 0x16a60, 0x16ac0, 0x16b50,
   0x1d7ce, 0x1d7d8, 0x1d7e2, 0x1d7ec, 0x1d7f6, 0x1e140, 0x1e2f0, 0x1e950, 0x1fbf0]

/-- The value of a decimal digit of any script. -/
def decimalDigit? (c : Char) : Option Nat :=
  if c.toNat < 128 then digit? 10 c
  else (scriptZeros.find? fun z => z ≤ c.toNat && c.toNat < z + 10).map (c.toNat - ·)

/-- Blanks that may surround a numeral: those of `isBlank` without the four information
separators U+001C to U+001F. -/
def isNumeralBlank (c : Char) : Bool :=
  isBlank c && !(0x1c ≤ c.toNat && c.toNat ≤ 0x1f)

/-- The digit values of a row of digits in which single underscores may stand between two
digits. -/
def groupedDigits? : Text → Option (List Nat)
  | [] => none
  | [c] => (decimalDigit? c).map ([·])
  | c :: '_' :: rest => do
    let d ← decimalDigit? c
    let ds ← groupedDigits? rest
    return d :: ds
  | c :: rest => do
    let d ← decimalDigit? c
    let ds ← groupedDigits? rest
    return d :: ds

/-- **Generous reading of a decimal integer**: blanks around it, one sign, and a non-empty row
of digits of any script with single underscores between them, not more of them than
`digitLimit`. -/
def integer? (t : Text) : Option Int := do
  let (sign, body) := match trim isNumeralBlank t with
    | '-' :: rest => (-1, rest)
    | '+' :: rest => (1, rest)
    | rest => ((1 : Int), rest)
  let digits ← groupedDigits? body
  guard (digits.length ≤ digitLimit)
  return sign * valueOf 10 digits

/-- A natural number in decimal. -/
def ofNat (n : Nat) : Text :=
  Nat.toDigits 10 n

/-- An integer in decimal, with a minus in front if it is negative. -/
def ofInt (i : Int) : Text :=
  match i with
  | .ofNat n => ofNat n
  | .negSucc n => '-' :: ofNat (n + 1)

end Monocycle.Text
