import Monocycle.Assembly.Shape
import Monocycle.Proofs.BitVector

/-!
# The units and the instruction set

The instruction set names its operations by mnemonics. An arithmetic operation has a register form
and, the difference excepted, an immediate form; a branch condition has one mnemonic. This module
goes through the mnemonics of the assembly language and says of each what the arithmetic unit or
the branch unit makes of it, on operands of any size: the operation of the instruction set on the
vectors of their low 32 bits.

The two units are written apart, and convert their operands in different ways. That they decide
the same order and the same equality is read off the vectors: a difference and an exclusive or
vanish exactly on equal vectors, and the set-less-than operations answer one exactly where the
branch is taken.

## Main definitions

* `Arith.registerForm`, `Arith.immediateForm?`, `Comparison.mnemonic`: the mnemonics.
* `Comparison.negation`: the condition that holds where another does not.

## Main results

* `Arith.named_of_mem_mnemonics`: every arithmetic mnemonic of the assembly language names an
  operation, which is that of its code.
* `resultOf_of_mem_mnemonics`: **the arithmetic unit is that of the instruction set.**
* `takenOf_mnemonic`: **the branch unit is that of the instruction set, and agrees with the
  arithmetic unit.**
-/

namespace Monocycle

/-! ### Mnemonics -/

namespace Arith

/-- The **register form** of an operation: its mnemonic with two source registers. -/
def registerForm : Arith → String
  | add => "add"
  | sub => "sub"
  | and => "and"
  | or => "or"
  | xor => "xor"
  | sll => "sll"
  | srl => "srl"
  | sra => "sra"
  | slt => "slt"
  | sltu => "sltu"

/-- The **immediate form** of an operation: its mnemonic with a register and an immediate. There is
none for the difference. -/
def immediateForm? : Arith → Option String
  | add => some "addi"
  | sub => none
  | and => some "andi"
  | or => some "ori"
  | xor => some "xori"
  | sll => some "slli"
  | srl => some "srli"
  | sra => some "srai"
  | slt => some "slti"
  | sltu => some "sltiu"

/-- A mnemonic **names** an operation if it is one of its forms. -/
def Named (f : Arith) (name : String) : Prop :=
  f.registerForm = name ∨ f.immediateForm? = some name

instance (f : Arith) (name : String) : Decidable (f.Named name) :=
  inferInstanceAs (Decidable (_ ∨ _))

end Arith

namespace Comparison

/-- The **mnemonic** of the branch on a condition. -/
def mnemonic : Comparison → String
  | eq => "beq"
  | ne => "bne"
  | lt => "blt"
  | ge => "bge"
  | ltu => "bltu"
  | geu => "bgeu"

/-- The **negation** of a condition. -/
def negation : Comparison → Comparison
  | eq => ne
  | ne => eq
  | lt => ge
  | ge => lt
  | ltu => geu
  | geu => ltu

end Comparison

/-! ### The arithmetic unit -/

/-- Looking an operation up by the name of its code finds the operation of the code. -/
theorem resultOf_name (op : Opcode) (a b : Int) : resultOf op.name a b = op.result a b := by
  rw [resultOf, Opcode.ofName?_name]

/-- Whether the code of an arithmetic shape carries the mnemonic as its name, and performs the
operation that the mnemonic names. -/
def Shape.isNamed (name : String) : Shape → Bool
  | .register op | .immediate op => op.name == name && op.arith?.any fun f => f.Named name
  | .load | .store | .branch _ => true

/-- The arithmetic shapes of the assembly language are named as their mnemonics say. -/
theorem Shape.isNamed_of_mem_mnemonics : ∀ entry ∈ mnemonics, entry.2.isNamed entry.1 = true := by
  decide

namespace Arith

/-- **Every arithmetic mnemonic names an operation**, and its code carries that name and performs
that operation. -/
theorem named_of_mem_mnemonics {name : String} {op : Opcode}
    (h : (name, Shape.register op) ∈ mnemonics ∨ (name, Shape.immediate op) ∈ mnemonics) :
    op.name = name ∧ ∃ f : Arith, f.Named name ∧ op.arith? = some f := by
  have hnamed : op.name = name ∧ (op.arith?.any fun f => f.Named name) = true := by
    obtain hmem | hmem := h
    · simpa [Shape.isNamed] using Shape.isNamed_of_mem_mnemonics _ hmem
    · simpa [Shape.isNamed] using Shape.isNamed_of_mem_mnemonics _ hmem
  obtain ⟨hname, hany⟩ := hnamed
  obtain ⟨f, hf, hforms⟩ := (Option.any_eq_true _ _).mp hany
  exact ⟨hname, f, of_decide_eq_true hforms, hf⟩

/-- Both forms of an operation perform it. -/
theorem resultOf_of_named {f : Arith} {name : String} (h : f.Named name) (a b : Int) :
    resultOf name a b = f.eval a b := by
  obtain rfl | h := h
  · cases f <;> rfl
  · cases f <;> cases h <;> rfl

end Arith

/-- The bits of an integer are told by its remainder modulo `2 ^ 32`. -/
theorem Word.bits_congr {v v' : Int} (h : v' % 2 ^ 32 = v % 2 ^ 32) : bits v' = bits v := by
  apply BitVec.eq_of_toNat_eq
  simp only [bits, BitVec.toNat_ofInt]
  exact congrArg Int.toNat h

/-- **The arithmetic unit is that of the instruction set.** An arithmetic mnemonic of the assembly
language names an operation. For operands of any size the unit answers the signed reading of that
operation on the vectors of their low 32 bits, by the mnemonic as well as by its code. So the answer
is a signed word, the operands count modulo `2 ^ 32` only, and the forms of an operation agree. -/
theorem resultOf_of_mem_mnemonics {name : String} {op : Opcode}
    (h : (name, Shape.register op) ∈ mnemonics ∨ (name, Shape.immediate op) ∈ mnemonics) :
    ∃ f : Arith, f.Named name ∧ ∀ a b : Int,
      resultOf name a b = (f.onBits (.ofInt 32 a) (.ofInt 32 b)).toInt ∧
      op.result a b = resultOf name a b ∧
      Word.InRange (resultOf name a b) ∧
      (∀ a' b' : Int, a' % 2 ^ 32 = a % 2 ^ 32 → b' % 2 ^ 32 = b % 2 ^ 32 →
        resultOf name a' b' = resultOf name a b) ∧
      ∀ form, f.Named form → resultOf form a b = resultOf name a b := by
  obtain ⟨rfl, f, hnamed, -⟩ := Arith.named_of_mem_mnemonics h
  have heval : ∀ a b, resultOf op.name a b = f.eval a b := Arith.resultOf_of_named hnamed
  refine ⟨f, hnamed, fun a b => ⟨?_, (resultOf_name op a b).symm, ?_, fun a' b' ha hb => ?_,
    fun form hform => ?_⟩⟩
  · rw [heval, Arith.eval_eq_onBits]
    rfl
  · rw [heval]
    exact f.inRange_eval a b
  · rw [heval, heval, Arith.eval_eq_onBits, Arith.eval_eq_onBits, Word.bits_congr ha,
      Word.bits_congr hb]
  · rw [heval, Arith.resultOf_of_named hform]

/-- A right shift of a number beyond 32 bits whose low bits are those of `-16`, by a negative number
whose five low bits spell two. -/
theorem resultOf_of_mem_mnemonics_srai :
    ("srai", Shape.immediate .srai) ∈ mnemonics ∧
      resultOf "srai" 1099511627760 (-30) = -4 ∧ resultOf "sra" 1099511627760 (-30) = -4 := by
  have hmem : ("srai", Shape.immediate .srai) ∈ mnemonics := by decide
  obtain ⟨f, hnamed, hunit⟩ := resultOf_of_mem_mnemonics (.inr hmem)
  obtain rfl : f = .sra := by
    cases f <;> first | rfl | exact absurd hnamed (by decide)
  obtain ⟨hbits, -, -, -, hforms⟩ := hunit 1099511627760 (-30)
  have hshift : resultOf "srai" 1099511627760 (-30) = -4 := hbits.trans (by decide)
  exact ⟨hmem, hshift, (hforms "sra" (.inl rfl)).trans hshift⟩

/-! ### The branch unit -/

/-- Looking a branch up by the name of its code finds the condition of the code. -/
theorem takenOf_name (op : Opcode) (a b : Int) : takenOf op.name a b = op.taken a b := by
  rw [takenOf, Opcode.ofName?_name]

namespace Comparison

/-- A branch is taken by its mnemonic if its condition holds. -/
theorem takenOf_eq_holds (c : Comparison) (a b : Int) : takenOf c.mnemonic a b = c.holds a b := by
  cases c <;> rfl

/-- A condition and its negation are complementary. -/
theorem onBits_negation (c : Comparison) (x y : BitVec 32) :
    c.negation.onBits x y = !c.onBits x y := by
  cases c with
  | eq => rfl
  | ne => exact (Bool.not_not _).symm
  | lt => exact BitVec.sle_eq_not_slt
  | ge => rw [negation, onBits, onBits, BitVec.sle_eq_not_slt, Bool.not_not]
  | ltu => exact BitVec.ule_eq_not_ult _ _
  | geu => rw [negation, onBits, onBits, BitVec.ule_eq_not_ult, Bool.not_not]

end Comparison

/-! ### What the two units have in common -/

section

variable (a b : Int)

/-- A set-less-than operation reads as one exactly where its comparison holds. -/
theorem toInt_flag_eq_one_iff (p : Bool) :
    (if p then (1 : BitVec 32) else 0).toInt = 1 ↔ p = true := by
  cases p <;> decide

/-- The signed branch on a smaller operand is taken where signed set-less-than answers one. -/
theorem holds_lt_iff : Comparison.lt.holds a b = true ↔ Arith.slt.eval a b = 1 := by
  rw [Comparison.holds_eq_onBits, Arith.eval_eq_onBits]
  exact (toInt_flag_eq_one_iff _).symm

/-- The unsigned branch on a smaller operand is taken where unsigned set-less-than answers one. -/
theorem holds_ltu_iff : Comparison.ltu.holds a b = true ↔ Arith.sltu.eval a b = 1 := by
  rw [Comparison.holds_eq_onBits, Arith.eval_eq_onBits]
  exact (toInt_flag_eq_one_iff _).symm

/-- The branch on equal operands is taken where their difference is zero. -/
theorem holds_eq_iff_sub : Comparison.eq.holds a b = true ↔ Arith.sub.eval a b = 0 := by
  rw [Comparison.holds_eq_onBits, Arith.eval_eq_onBits, Comparison.onBits, Arith.onBits, beq_iff_eq,
    ← BitVec.toInt_zero, BitVec.toInt_inj]
  exact sub_eq_zero.symm

/-- The branch on equal operands is taken where their exclusive or is zero. -/
theorem holds_eq_iff_xor : Comparison.eq.holds a b = true ↔ Arith.xor.eval a b = 0 := by
  rw [Comparison.holds_eq_onBits, Arith.eval_eq_onBits, Comparison.onBits, Arith.onBits, beq_iff_eq,
    ← BitVec.toInt_zero, BitVec.toInt_inj]
  exact BitVec.xor_eq_zero_iff.symm

end

/-- **The branch unit is that of the instruction set, and agrees with the arithmetic unit.** For
operands of any size a branch is taken if its condition holds of the vectors of their low 32 bits,
and the branch on the negation is taken if it is not; the unit decides by the mnemonic as it does by
the code. The branches on a smaller operand are taken where set-less-than answers one, and the
branch on equal operands where their difference is zero, which is where their exclusive or is
zero. -/
theorem takenOf_mnemonic (a b : Int) :
    (∀ c : Comparison, takenOf c.mnemonic a b = c.onBits (.ofInt 32 a) (.ofInt 32 b)) ∧
    (∀ c : Comparison, takenOf c.negation.mnemonic a b = !takenOf c.mnemonic a b) ∧
    (∀ op : Opcode, takenOf op.name a b = op.taken a b) ∧
    (takenOf "blt" a b = true ↔ resultOf "slt" a b = 1) ∧
    (takenOf "bltu" a b = true ↔ resultOf "sltu" a b = 1) ∧
    (takenOf "beq" a b = true ↔ resultOf "sub" a b = 0) ∧
    (resultOf "sub" a b = 0 ↔ resultOf "xor" a b = 0) := by
  have htaken : ∀ c : Comparison,
      takenOf c.mnemonic a b = c.onBits (.ofInt 32 a) (.ofInt 32 b) := fun c =>
    (c.takenOf_eq_holds a b).trans (c.holds_eq_onBits a b)
  have hbeq : takenOf "beq" a b = Comparison.eq.holds a b := Comparison.takenOf_eq_holds .eq a b
  have hblt : takenOf "blt" a b = Comparison.lt.holds a b := Comparison.takenOf_eq_holds .lt a b
  have hbltu : takenOf "bltu" a b = Comparison.ltu.holds a b :=
    Comparison.takenOf_eq_holds .ltu a b
  have hresult : ∀ f : Arith, resultOf f.registerForm a b = f.eval a b := fun f =>
    Arith.resultOf_of_named (.inl rfl) a b
  have hsub : resultOf "sub" a b = Arith.sub.eval a b := hresult .sub
  have hxor : resultOf "xor" a b = Arith.xor.eval a b := hresult .xor
  have hslt : resultOf "slt" a b = Arith.slt.eval a b := hresult .slt
  have hsltu : resultOf "sltu" a b = Arith.sltu.eval a b := hresult .sltu
  refine ⟨htaken, fun c => ?_, fun op => takenOf_name op a b, ?_, ?_, ?_, ?_⟩
  · rw [htaken, htaken, Comparison.onBits_negation]
  · rw [hblt, hslt, holds_lt_iff]
  · rw [hbltu, hsltu, holds_ltu_iff]
  · rw [hbeq, hsub, holds_eq_iff_sub]
  · rw [hsub, hxor, ← holds_eq_iff_sub, holds_eq_iff_xor]

end Monocycle
