import Monocycle.Arithmetic
import Mathlib.Data.BitVec

/-!
# The Arithmetic Unit on Bit Vectors

The machine computes on integers of any size and wraps them. This module tells the same story
on vectors of 32 bits: `Arith.onBits` and `Comparison.onBits` are the operations and branch
conditions of the instruction set as `BitVec` has them, and the arithmetic unit and the branch
unit are shown to be their readings through `BitVec.ofInt` and `BitVec.toInt`.

An integer is taken to the vector of its low 32 bits, `Word.bits v = BitVec.ofInt 32 v`, and a
vector is read back signed. `Word.wrap` is the one after the other, `Word.unsigned` the reading
without a sign, and being in the signed range is being read back unchanged.

## Main results

* `Word.wrap_eq_toInt`, `Word.unsigned_eq_toNat`: wrapping and the unsigned reading are the two
  readings of the bits.
* `Arith.eval_eq_onBits`: an arithmetic result is the signed reading of the operation on the bits
  of its operands, whatever the size of the operands.
* `Comparison.holds_eq_onBits`: a branch condition is the comparison of the bits.
-/

namespace Monocycle

namespace Word

/-- The **bits** of an integer: the vector of its low 32 bits. -/
def bits (v : Int) : BitVec 32 :=
  BitVec.ofInt 32 v

/-- Reading the bits back signed wraps the integer. -/
theorem wrap_eq_toInt (v : Int) : wrap v = (bits v).toInt := by
  simp [wrap, bits, BitVec.toInt_ofInt]

/-- Reading the bits back without a sign gives the unsigned reading. -/
theorem unsigned_eq_toNat (v : Int) : unsigned v = (bits v).toNat := by
  simp only [unsigned, bits, BitVec.toNat_ofInt]
  omega

/-- A vector is the bits of its signed reading. -/
@[simp] theorem bits_toInt (x : BitVec 32) : bits x.toInt = x :=
  BitVec.ofInt_toInt

/-- Wrapping keeps the bits. -/
@[simp] theorem bits_wrap (v : Int) : bits (wrap v) = bits v := by
  rw [wrap_eq_toInt, bits_toInt]

/-- Zero has no bit set. -/
@[simp] theorem bits_zero : bits 0 = 0 := rfl

/-- The bits of a sum are the sum of the bits. -/
theorem bits_add (a b : Int) : bits (a + b) = bits a + bits b :=
  BitVec.ofInt_add a b

/-- The bits of a difference are the difference of the bits. -/
theorem bits_sub (a b : Int) : bits (a - b) = bits a - bits b := by
  apply BitVec.eq_of_toInt_eq
  simp [bits, BitVec.toInt_sub, BitVec.toInt_ofInt]

/-- The bits of a natural number are the number modulo `2 ^ 32`. -/
theorem bits_natCast (n : Nat) : bits (n : Int) = BitVec.ofNat 32 n :=
  BitVec.ofInt_natCast 32 n

/-- The natural number that the bits of an integer spell. -/
theorem toNat_unsigned (v : Int) : (unsigned v).toNat = (bits v).toNat := by
  rw [unsigned_eq_toNat, Int.toNat_natCast]

end Word

/-! ### The operations on bits -/

/-- The low five bits of a vector, by which shifts go. -/
def shiftBits (b : BitVec 32) : BitVec 5 :=
  b.setWidth 5

/-- **Arithmetic on bits**: the operation an arithmetic code names, as the instruction set has it
on vectors of 32 bits. -/
def Arith.onBits : Arith → BitVec 32 → BitVec 32 → BitVec 32
  | add, a, b => a + b
  | sub, a, b => a - b
  | and, a, b => a &&& b
  | or, a, b => a ||| b
  | xor, a, b => a ^^^ b
  | sll, a, b => a <<< shiftBits b
  | srl, a, b => a >>> shiftBits b
  | sra, a, b => a.sshiftRight' (shiftBits b)
  | slt, a, b => if a.slt b then 1 else 0
  | sltu, a, b => if a.ult b then 1 else 0

/-- **Comparison on bits**: the condition a branch tests, on vectors of 32 bits. -/
def Comparison.onBits : Comparison → BitVec 32 → BitVec 32 → Bool
  | eq, a, b => a == b
  | ne, a, b => a != b
  | lt, a, b => a.slt b
  | ge, a, b => b.sle a
  | ltu, a, b => a.ult b
  | geu, a, b => b.ule a

/-- The shift distance of an integer is the number its low five bits spell. -/
theorem shiftAmount_eq_toNat (b : Int) : shiftAmount b = (shiftBits (Word.bits b)).toNat := by
  have h := Word.unsigned_eq_toNat b
  simp only [shiftAmount, shiftBits, BitVec.toNat_setWidth, h]
  omega

/-! ### The units and the bits -/

/-- Shifting an integer to the left shifts its bits. -/
theorem Word.bits_shiftLeft (a : Int) (n : Nat) : bits (a <<< n) = bits a <<< n := by
  have hpow : BitVec.ofNat 32 (2 ^ n) = BitVec.twoPow 32 n := by
    apply BitVec.eq_of_toNat_eq
    rw [BitVec.toNat_ofNat, BitVec.toNat_twoPow]
  rw [Int.shiftLeft_eq', bits, BitVec.ofInt_mul, BitVec.ofInt_natCast,
    BitVec.shiftLeft_eq_mul_twoPow]
  exact congrArg _ hpow

/-- Before it is wrapped, a result on two words has the bits of the operation on their bits. -/
theorem Arith.bits_evalWords (f : Arith) (a b : BitVec 32) :
    Word.bits (f.evalWords a.toInt b.toInt) = f.onBits a b := by
  cases f with
  | add => simp [evalWords, onBits, Word.bits_add]
  | sub => simp [evalWords, onBits, Word.bits_sub]
  | and => simp [evalWords, onBits, Word.bits_natCast, Word.toNat_unsigned]
  | or => simp [evalWords, onBits, Word.bits_natCast, Word.toNat_unsigned]
  | xor => simp [evalWords, onBits, Word.bits_natCast, Word.toNat_unsigned]
  | sll =>
      rw [evalWords, onBits, Word.bits_shiftLeft, shiftAmount_eq_toNat, Word.bits_toInt,
        Word.bits_toInt, BitVec.shiftLeft_eq']
  | srl =>
      have h : (a.toNat : Int) >>> (shiftBits b).toNat = (a.toNat >>> (shiftBits b).toNat : Nat) :=
        rfl
      rw [evalWords, onBits, shiftAmount_eq_toNat, Word.unsigned_eq_toNat, Word.bits_toInt,
        Word.bits_toInt, h, Word.bits_natCast]
      apply BitVec.eq_of_toNat_eq
      rw [BitVec.ushiftRight_eq', BitVec.toNat_ushiftRight, BitVec.toNat_ofNat, Nat.mod_eq_of_lt]
      exact lt_of_le_of_lt (Nat.shiftRight_le _ _) a.isLt
  | sra =>
      rw [evalWords, onBits, shiftAmount_eq_toNat, Word.bits_toInt, BitVec.sshiftRight_eq',
        ← BitVec.toInt_sshiftRight, Word.bits_toInt]
  | slt =>
      simp only [evalWords, onBits, BitVec.slt_iff_toInt_lt]
      split <;> rfl
  | sltu =>
      simp only [evalWords, onBits, BitVec.ult_iff_toNat_lt, Word.unsigned_eq_toNat,
        Word.bits_toInt, Int.ofNat_lt]
      split <;> rfl

/-- **An arithmetic result is read off the bits**: the operation on the bits of the operands, read
back signed. -/
theorem Arith.eval_eq_onBits (f : Arith) (a b : Int) :
    f.eval a b = (f.onBits (Word.bits a) (Word.bits b)).toInt := by
  rw [eval, Word.wrap_eq_toInt, Word.wrap_eq_toInt a, Word.wrap_eq_toInt b, bits_evalWords]

/-- **A branch condition compares the bits** of its operands. -/
theorem Comparison.holds_eq_onBits (c : Comparison) (a b : Int) :
    c.holds a b = c.onBits (Word.bits a) (Word.bits b) := by
  cases c with
  | eq => simp [holds, onBits, Word.wrap_eq_toInt, BitVec.toInt_inj, Bool.beq_eq_decide_eq]
  | ne => simp [holds, onBits, Word.wrap_eq_toInt, BitVec.toInt_inj, bne, Bool.beq_eq_decide_eq]
  | lt => simp only [holds, onBits, Word.wrap_eq_toInt, BitVec.slt_eq_decide]
  | ge => simp only [holds, onBits, Word.wrap_eq_toInt, BitVec.sle_eq_decide, ge_iff_le]
  | ltu =>
      simp only [holds, onBits, Word.unsigned_eq_toNat, Word.bits_wrap, BitVec.ult_eq_decide,
        Int.ofNat_lt]
  | geu =>
      simp only [holds, onBits, Word.unsigned_eq_toNat, Word.bits_wrap, BitVec.ule_eq_decide,
        ge_iff_le, Int.ofNat_le]

end Monocycle
