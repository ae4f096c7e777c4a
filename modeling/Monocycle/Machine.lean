import Monocycle.Arithmetic
import Monocycle.DataMemory
import Monocycle.Instruction

/-!
# The machine

A machine that executes one whole instruction per step. Its program counter is an integer of any
size: a branch may take it anywhere, and the machine halts when it leaves the program. A step
that cannot be carried out changes nothing.

## Main definitions

* `Machine`: program counter, registers, data memory, program, phase and the number of executed
  instructions.
* `Machine.load`, `Machine.reset`: putting a program in and starting it over.
* `Machine.execute`: what one instruction does.
* `Machine.step`: one step, with the `StepEvent` that tells what it did, or the `ExecutionError`
  that kept it from being carried out.
-/

namespace Monocycle

/-! ### Outcomes and events -/

/-- **Execution error**: why an instruction cannot be carried out. -/
inductive ExecutionError where
  /-- The program counter is inside the program but at no instruction. -/
  | noInstruction (pc : Int)
  /-- A store to an address outside a data memory of the given size. -/
  | storeOutside (address size : Int) (instruction : Instruction)
  /-- A record with a format the machine does not know. -/
  | unknownFormat (name : String) (instruction : Instruction)
  deriving DecidableEq

namespace ExecutionError

/-- The wording of an execution error. -/
def message : ExecutionError → String
  | noInstruction pc => s!"no instruction at PC={pc}"
  | storeOutside address size _ =>
    let last := size - 1
    s!"store to address {address} outside data memory (0..{last})"
  | unknownFormat name _ => s!"unsupported instruction type: {name}"

/-- The instruction that was fetched, if there was one. -/
def instruction? : ExecutionError → Option Instruction
  | noInstruction _ => none
  | storeOutside _ _ i | unknownFormat _ i => some i

/-- The position of that instruction in the program. -/
def index? (e : ExecutionError) : Option Int :=
  e.instruction?.map (·.index)

end ExecutionError

/-- **Outcome** of a step attempt. -/
inductive StepOutcome where
  /-- An instruction was carried out; its position in the program. -/
  | executed (index : Int)
  /-- There was no instruction left to carry out. -/
  | halted
  /-- The instruction could not be carried out. -/
  | failed (error : ExecutionError)
  deriving DecidableEq

namespace StepOutcome

/-- Whether an instruction was carried out. -/
def isExecuted : StepOutcome → Bool
  | executed _ => true
  | halted | failed _ => false

/-- The position of the instruction concerned, where there is one. -/
def index? : StepOutcome → Option Int
  | executed index => some index
  | halted => none
  | failed e => e.index?

/-- The wording of the error, where there is one. -/
def message? : StepOutcome → Option String
  | executed _ | halted => none
  | failed e => some e.message

end StepOutcome

/-- **Step event**: what one step attempt did. -/
structure StepEvent where
  outcome : StepOutcome
  /-- The program counter before the step. -/
  pcBefore : Int
  /-- The program counter after the step. -/
  pcAfter : Int
  /-- The instruction fetched. -/
  instruction? : Option Instruction
  /-- The register the step wrote. -/
  writtenRegister? : Option Register
  /-- The address the step stored to. -/
  writtenAddress? : Option Int
  deriving DecidableEq

/-! ### The machine and its program -/

/-- The **phase** of a machine: without a program, able to go on, or at its end. -/
inductive Phase where
  | idle | ready | halted
  deriving DecidableEq, Repr

/-- The name of a phase. -/
def Phase.name : Phase → String
  | idle => "idle"
  | ready => "ready"
  | halted => "halted"

/-- **Machine state.** -/
structure Machine where
  /-- The byte address of the next instruction. -/
  pc : Int
  registers : RegisterFile
  memory : DataMemory
  /-- The instruction records, four bytes apart from address 0 on. -/
  program : Array Instruction
  phase : Phase
  /-- How many instructions were carried out since the program was started. -/
  executed : Nat
  deriving DecidableEq

namespace Machine

/-- A machine without a program, with a data memory of the given size. -/
def ofMemorySize (size : Int) : Machine :=
  ⟨0, .cleared, .ofSize size, #[], .idle, 0⟩

/-- Starts the program over with registers and memory cleared. -/
def reset (m : Machine) : Machine :=
  { m with
    pc := 0
    registers := .cleared
    memory := m.memory.cleared
    phase := if m.program.isEmpty then .idle else .ready
    executed := 0 }

/-- Puts a program in and starts it. -/
def load (m : Machine) (instructions : List Instruction) : Machine :=
  reset { m with program := instructions.toArray }

/-- The address behind the last instruction. -/
def endPc (m : Machine) : Int :=
  m.program.size * 4

/-- Whether the program counter is inside the program. -/
def pcInRange (m : Machine) : Bool :=
  0 ≤ m.pc && m.pc < m.endPc

/-- Whether the machine is at its end. -/
def isHalted (m : Machine) : Bool :=
  m.phase == .halted

/-- The instruction at the program counter: the program counter is inside the program and a
multiple of four. -/
def fetch? (m : Machine) : Option Instruction :=
  if m.pcInRange && m.pc % 4 == 0 then m.program[(m.pc / 4).toNat]? else none

/-! ### Carrying out an instruction -/

/-- What carrying out an instruction comes to. -/
structure Effect where
  /-- The machine afterwards. -/
  machine : Machine
  writtenRegister? : Option Register
  writtenAddress? : Option Int

/-- The address a load or store refers to: base and offset added as words. -/
def effectiveAddress (m : Machine) (i : Instruction) : Int :=
  Word.wrap (m.registers.read i.rs1 + i.imm)

/-- Writes a register and goes to the next instruction. -/
def writeBack (m : Machine) (rd : Register) (v : Int) : Effect :=
  ⟨{ m with registers := m.registers.write rd v, pc := m.pc + 4 }, some rd, none⟩

/-- Whether a branch is taken. -/
def branchTaken (m : Machine) (i : Instruction) : Bool :=
  i.op.taken (m.registers.read i.rs1) (m.registers.read i.rs2)

/-- Carries out a branch. One that is taken to itself is how a program says that it is done: the
machine halts behind the last instruction. -/
def branch (m : Machine) (i : Instruction) : Machine :=
  if m.branchTaken i then
    let target := m.pc + i.imm
    if target = m.pc then { m with pc := m.endPc, phase := .halted } else { m with pc := target }
  else { m with pc := m.pc + 4 }

/-- **Carrying out** an instruction as its format says. In the immediate format the load has a
meaning of its own; every other code goes through the arithmetic unit. -/
def execute (m : Machine) (i : Instruction) : Except ExecutionError Effect :=
  match i.format with
  | .register =>
    .ok (m.writeBack i.rd (i.op.result (m.registers.read i.rs1) (m.registers.read i.rs2)))
  | .immediate =>
    if i.op = .lw then .ok (m.writeBack i.rd (m.memory.read (m.effectiveAddress i)))
    else .ok (m.writeBack i.rd (i.op.result (m.registers.read i.rs1) i.imm))
  | .store =>
    let address := m.effectiveAddress i
    if m.memory.inRange address then
      let memory := m.memory.write address (m.registers.read i.rs2)
      .ok ⟨{ m with memory := memory, pc := m.pc + 4 }, none, some address⟩
    else .error (.storeOutside address m.memory.size i)
  | .branch => .ok ⟨m.branch i, none, none⟩
  | .unknown name => .error (.unknownFormat name i)

/-- Halts a machine whose program counter has left the program. -/
def haltIfOutside (m : Machine) : Machine :=
  if m.pcInRange then m else { m with phase := .halted }

/-- **One step**: the machine afterwards, and the event or the error. Outside the program there
is nothing to carry out, and the machine halts. -/
def step (m : Machine) : Machine × Except ExecutionError StepEvent :=
  if m.pcInRange then
    match m.fetch? with
    | none => (m, .error (.noInstruction m.pc))
    | some i =>
      match m.execute i with
      | .error e => (m, .error e)
      | .ok effect =>
        let after := haltIfOutside { effect.machine with executed := m.executed + 1 }
        (after, .ok ⟨.executed i.index, m.pc, after.pc, some i, effect.writtenRegister?,
          effect.writtenAddress?⟩)
  else ({ m with phase := .halted }, .ok ⟨.halted, m.pc, m.pc, none, none, none⟩)

end Machine

end Monocycle
