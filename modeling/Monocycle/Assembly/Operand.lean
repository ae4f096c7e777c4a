import Monocycle.Assembly.Fault
import Monocycle.Assembly.Label
import Monocycle.Registers
import Monocycle.Text.Lowercase
import Monocycle.Text.Numeral

/-!
# Operands

Reading the three kinds of operand token: a register, an immediate and a memory address.

* A register is a name of the calling convention, or its number with or without an `x` in front.
* An immediate is a label, which stands for its distance from the instruction, or an integer
  literal: decimal, hexadecimal after `0x` or binary after `0b`, with an optional sign.
* A memory address is a decimal offset and a base register in parentheses.

Letter case is ignored except in labels. A decimal numeral over the digit limit is an error of
its own, found before anything else is asked about the token.

## Main definitions

* `registerNames`: the names registers can be called by.
* `readRegister`, `readImmediate`, `readMemoryAddress`: the three readings.
-/

namespace Monocycle

/-- The names of registers: each has its name in the calling convention, and `fp` is a second name
of the one that holds the frame pointer. -/
def registerNames : List (String × Register) :=
  ("fp", .framePointer) :: (List.finRange 32).map fun r => (r.abiName, r)

/-- The register a name in lower case belongs to. -/
def registerNamed? (name : Text) : Option Register :=
  (registerNames.find? fun entry => entry.1.toList == name).map (·.2)

/-- A non-empty row of digits of a base. -/
def isNumeral (base : Nat) (t : Text) : Bool :=
  !t.isEmpty && t.all (Text.isDigitOf base)

/-- The number a decimal numeral stands for, refused over the digit limit. -/
def decimalValue (digits : Text) : Except ReadError Nat :=
  if digits.length > Text.digitLimit then .error (.tooManyDigits digits.length)
  else .ok (Text.natOf 10 digits)

/-- **Reading a register**: a name, or a decimal number below 32 with at most one `x` before it. -/
def readRegister (token : Text) : Except ReadError Register :=
  let name := Text.lower (Text.strip token)
  match registerNamed? name with
  | some r => .ok r
  | none =>
    let digits := match name with
      | 'x' :: rest => rest
      | _ => name
    if isNumeral 10 digits then do
      let index ← decimalValue digits
      if h : index < 32 then .ok ⟨index, h⟩ else .error (.fault (.unknownRegister token))
    else .error (.fault (.unknownRegister token))

/-- An integer literal in lower case without its sign: its base and its digits. -/
def literalParts? (body : Text) : Option (Nat × Text) :=
  match body with
  | '0' :: 'x' :: digits => if isNumeral 16 digits then some (16, digits) else none
  | '0' :: 'b' :: digits => if isNumeral 2 digits then some (2, digits) else none
  | digits => if isNumeral 10 digits then some (10, digits) else none

/-- The sign in front of a literal and what it stands before. -/
def splitSign : Text → Int × Text
  | '-' :: rest => (-1, rest)
  | '+' :: rest => (1, rest)
  | rest => (1, rest)

/-- The integer a literal in lower case denotes, or `none` if it is no literal. Only decimal
literals have a digit limit. -/
def readLiteral? (t : Text) : Option (Except ReadError Int) :=
  let (sign, body) := splitSign t
  (literalParts? body).map fun (base, digits) =>
    if base = 10 then (decimalValue digits).map (sign * ·)
    else .ok (sign * Text.natOf base digits)

/-- **Reading an immediate** at an instruction address. A label of the table gives its distance
from the instruction; otherwise the token has to be a literal, and gives its value as a word. -/
def readImmediate (labels : LabelTable) (address : Int) (token : Text) : Except ReadError Int :=
  let token := Text.strip token
  match labels.address? token with
  | some target => .ok (target - address)
  | none =>
    match readLiteral? (Text.lower token) with
    | some value => value.map Word.wrap
    | none => .error (.fault (.badImmediate token))

/-- The offset, with its sign, and the base of a memory address as they are written: an optional
minus, decimal digits, and word characters in parentheses. -/
def addressParts? (token : Text) : Option (Int × Text × Text) :=
  let (sign, body) := match token with
    | '-' :: rest => ((-1 : Int), rest)
    | _ => (1, token)
  let digits := body.takeWhile (Text.isDigitOf 10)
  match body.dropWhile (Text.isDigitOf 10) with
  | '(' :: rest =>
    let base := rest.dropLast
    if !digits.isEmpty && rest.getLast? = some ')' && !base.isEmpty && base.all Text.isWordChar
    then some (sign, digits, base)
    else none
  | _ => none

/-- **Reading a memory address** of a load or store: its offset as a word and its base. The shape
is looked at first, then the offset, then the base. -/
def readMemoryAddress (op token : Text) : Except ReadError (Int × Register) :=
  match addressParts? token with
  | none => .error (.fault (.malformedAddress op))
  | some (sign, digits, base) => do
    let offset ← decimalValue digits
    let register ← readRegister base
    return (Word.wrap (sign * offset), register)

end Monocycle
