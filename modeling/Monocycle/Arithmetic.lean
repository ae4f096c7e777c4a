import Monocycle.Opcode
import Monocycle.Word

/-!
# Arithmetic and branch conditions

What the arithmetic unit and the branch unit compute. Both accept integers of any size, read
them as signed 32-bit words first, and the arithmetic unit wraps its result.

## Main definitions

* `Arith.eval`, `Comparison.holds`: the operations themselves.
* `Opcode.result`: the arithmetic result of a code, `0` for a code that has no arithmetic.
* `Opcode.taken`: the branch decision of a code, `false` for a code that is no branch.
* `resultOf`, `takenOf`: the same by written name.
-/

namespace Monocycle

/-- The shift distance an operand stands for: its five low bits. -/
def shiftAmount (b : Int) : Nat :=
  (Word.unsigned b % 32).toNat

namespace Arith

/-- The integer result before it is wrapped, on operands that are already signed words.

The bitwise operations act on the unsigned readings, which hold the same 32 bits. A right shift
fills with zeros on the unsigned reading and with the sign on the signed one. -/
def evalWords : Arith → Int → Int → Int
  | add, a, b => a + b
  | sub, a, b => a - b
  | and, a, b => ((Word.unsigned a).toNat &&& (Word.unsigned b).toNat : Nat)
  | or, a, b => ((Word.unsigned a).toNat ||| (Word.unsigned b).toNat : Nat)
  | xor, a, b => ((Word.unsigned a).toNat ^^^ (Word.unsigned b).toNat : Nat)
  | sll, a, b => a <<< shiftAmount b
  | srl, a, b => Word.unsigned a >>> shiftAmount b
  | sra, a, b => a >>> shiftAmount b
  | slt, a, b => if a < b then 1 else 0
  | sltu, a, b => if Word.unsigned a < Word.unsigned b then 1 else 0

/-- **Arithmetic result**: both operands are read as signed words, and so is the result. -/
def eval (f : Arith) (a b : Int) : Int :=
  Word.wrap (f.evalWords (Word.wrap a) (Word.wrap b))

end Arith

namespace Comparison

/-- **Branch condition** on two operands read as signed words; `ltu` and `geu` compare their
unsigned readings. -/
def holds (c : Comparison) (a b : Int) : Bool :=
  let a := Word.wrap a
  let b := Word.wrap b
  match c with
  | eq => a == b
  | ne => a != b
  | lt => decide (a < b)
  | ge => decide (a ≥ b)
  | ltu => decide (Word.unsigned a < Word.unsigned b)
  | geu => decide (Word.unsigned a ≥ Word.unsigned b)

end Comparison

namespace Opcode

/-- What the arithmetic unit answers for a code: the result of its operation, or `0` if it has
none. -/
def result (op : Opcode) (a b : Int) : Int :=
  match op.arith? with
  | some f => f.eval a b
  | none => 0

/-- Whether a branch with this code is taken; a code that is no branch never is. -/
def taken (op : Opcode) (a b : Int) : Bool :=
  match op.comparison? with
  | some c => c.holds a b
  | none => false

end Opcode

/-- The arithmetic result of the operation written `name`; an unknown name gives `0`. -/
def resultOf (name : String) (a b : Int) : Int :=
  match Opcode.ofName? name with
  | some op => op.result a b
  | none => 0

/-- The branch decision of the operation written `name`; an unknown name is never taken. -/
def takenOf (name : String) (a b : Int) : Bool :=
  match Opcode.ofName? name with
  | some op => op.taken a b
  | none => false

/-- Every arithmetic result is a signed word. -/
theorem Arith.inRange_eval (f : Arith) (a b : Int) : Word.InRange (f.eval a b) :=
  Word.inRange_wrap _

/-- Whatever the code, the arithmetic unit answers a signed word. -/
theorem Opcode.inRange_result (op : Opcode) (a b : Int) : Word.InRange (op.result a b) := by
  rw [result]
  split
  · exact Arith.inRange_eval _ a b
  · decide

end Monocycle
