import Monocycle.Machine
import Monocycle.Proofs.BitVector
import Mathlib.Logic.Function.Basic

/-!
# The reference machine

The instruction set as its manual has it, on vectors of 32 bits. Registers and memory slots are
`BitVec 32`, register 0 stays zero because writes to it are dropped, and every operation is one of
`BitVec`. Only the program counter is an integer: it is the position in a program of any length,
and a branch may take it anywhere.

The reference machine has instructions of its own. `Instr.ofRecord?` reads them off instruction
records by a table of operation codes, and has no reading for a record whose format and code do
not fit.

## Main definitions

* `Instr`, `Instr.ofRecord?`: instructions, and the reading of a record.
* `State`: the state of the reference machine.
* `State.exec?`: what one instruction does; a store outside the memory does nothing and fails.
* `State.step`: one step, with the `Report` that says whether an instruction was executed, the
  machine found nothing to execute, or the step failed.
-/

namespace Monocycle.Reference

/-- **Instruction** of the reference machine. -/
inductive Instr where
  /-- An operation on two registers. -/
  | op (f : Arith) (rd rs1 rs2 : Register)
  /-- An operation on a register and an immediate. -/
  | opImm (f : Arith) (rd rs1 : Register) (imm : BitVec 32)
  | load (rd base : Register) (offset : BitVec 32)
  | store (value base : Register) (offset : BitVec 32)
  /-- A branch over a distance that is counted from the branch itself. -/
  | branch (c : Comparison) (rs1 rs2 : Register) (distance : Int)
  deriving DecidableEq

/-! ### Reading records -/

/-- The operation of a code in register form. -/
def registerOp? : Opcode → Option Arith
  | .add => some .add
  | .sub => some .sub
  | .and => some .and
  | .or => some .or
  | .xor => some .xor
  | .sll => some .sll
  | .srl => some .srl
  | .sra => some .sra
  | .slt => some .slt
  | .sltu => some .sltu
  | _ => none

/-- The operation of a code in immediate form; there is no immediate form of the difference. -/
def immediateOp? : Opcode → Option Arith
  | .addi => some .add
  | .andi => some .and
  | .ori => some .or
  | .xori => some .xor
  | .slli => some .sll
  | .srli => some .srl
  | .srai => some .sra
  | .slti => some .slt
  | .sltiu => some .sltu
  | _ => none

/-- The condition of a branch code. -/
def branchCondition? : Opcode → Option Comparison
  | .beq => some .eq
  | .bne => some .ne
  | .blt => some .lt
  | .bge => some .ge
  | .bltu => some .ltu
  | .bgeu => some .geu
  | _ => none

/-- The instruction a record stands for, if its code fits its format. -/
def Instr.ofRecord? (i : Instruction) : Option Instr :=
  match i.format with
  | .register => (registerOp? i.op).map fun f => .op f i.rd i.rs1 i.rs2
  | .immediate =>
    if i.op = .lw then some (.load i.rd i.rs1 (.ofInt 32 i.imm))
    else (immediateOp? i.op).map fun f => .opImm f i.rd i.rs1 (.ofInt 32 i.imm)
  | .store => if i.op = .sw then some (.store i.rs2 i.rs1 (.ofInt 32 i.imm)) else none
  | .branch => (branchCondition? i.op).map fun c => .branch c i.rs1 i.rs2 i.imm
  | .unknown _ => none

/-! ### States and steps -/

/-- **State** of the reference machine. -/
structure State where
  /-- The byte address of the next instruction. -/
  pc : Int
  registers : Register → BitVec 32
  /-- The memory slots; what lies outside the memory is never looked at. -/
  memory : Int → BitVec 32
  halted : Bool
  /-- How many instructions were executed. -/
  executed : Nat

/-- What a step reports. -/
inductive Report where
  | executed | halted | failed
  deriving DecidableEq, Repr

namespace State

/-- The state in which every program starts. -/
def initial : State :=
  ⟨0, fun _ => 0, fun _ => 0, false, 0⟩

/-- Writes a register and goes to the next instruction; a write to register 0 is dropped. -/
def writeRegister (s : State) (rd : Register) (x : BitVec 32) : State :=
  { s with
    registers := if rd = Register.zero then s.registers else Function.update s.registers rd x
    pc := s.pc + 4 }

/-- What a register holds after a write: a write to register 0 changes nothing. -/
theorem registers_writeRegister (s : State) (rd r : Register) (x : BitVec 32) :
    (s.writeRegister rd x).registers r =
      if rd = 0 then s.registers r else if r = rd then x else s.registers r := by
  rw [writeRegister]
  by_cases hrd : rd = Register.zero
  · rw [if_pos hrd, if_pos (show rd = 0 from hrd)]
  · rw [if_neg hrd, if_neg (show ¬rd = 0 from hrd)]
    exact Function.update_apply s.registers rd x r

/-- The address of a load or store: the signed value of base and offset added modulo `2 ^ 32`. -/
def address (s : State) (base : Register) (offset : BitVec 32) : Int :=
  (s.registers base + offset).toInt

/-- What an instruction does in a program of `count` instructions with a memory of the given
size. A taken branch over no distance goes behind the program. -/
def exec? (count : Nat) (size : Int) (s : State) : Instr → Option State
  | .op f rd rs1 rs2 => some (s.writeRegister rd (f.onBits (s.registers rs1) (s.registers rs2)))
  | .opImm f rd rs1 imm => some (s.writeRegister rd (f.onBits (s.registers rs1) imm))
  | .load rd base offset =>
    let a := s.address base offset
    some (s.writeRegister rd (if 0 ≤ a ∧ a < size then s.memory a else 0))
  | .store value base offset =>
    let a := s.address base offset
    if 0 ≤ a ∧ a < size then
      some { s with
        memory := Function.update s.memory a (s.registers value)
        pc := s.pc + 4 }
    else none
  | .branch c rs1 rs2 distance =>
    if c.onBits (s.registers rs1) (s.registers rs2) then
      some { s with pc := if distance = 0 then 4 * count else s.pc + distance }
    else some { s with pc := s.pc + 4 }

/-- Whether the program counter is inside a program of `count` instructions. -/
def isInside (count : Nat) (s : State) : Bool :=
  0 ≤ s.pc && s.pc < 4 * count

/-- **One step** of the reference machine on a program, with a memory of the given size. -/
def step (code : List Instr) (size : Int) (s : State) : State × Report :=
  if s.isInside code.length then
    if s.pc % 4 = 0 then
      match code[(s.pc / 4).toNat]?.bind (s.exec? code.length size) with
      | some after =>
        ({ after with
            executed := s.executed + 1
            halted := !after.isInside code.length }, .executed)
      | none => (s, .failed)
    else (s, .failed)
  else ({ s with halted := true }, .halted)

/-- The state after a number of steps. -/
def run (code : List Instr) (size : Int) (n : Nat) : State :=
  (fun s => (s.step code size).1)^[n] initial

end State

end Monocycle.Reference
