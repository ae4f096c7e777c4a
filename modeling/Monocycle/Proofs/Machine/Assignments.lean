import Monocycle.Proofs.Machine.Step

/-!
# A step, assignment by assignment

`Machine.step` tells what a step comes to, and an error leaves no machine behind but the one of
before. A machine is driven by assignments to one component after another, though, and whoever
raises an error in the middle of them leaves those behind that were made. This module writes a step
down in that way. A `Procedure` reads and assigns the components of a machine, and an error ends it
where it is raised.

The order of the checks and the assignments is part of the procedures: a store forms its address and
checks it before it writes, an instruction writes before it moves the program counter, and the
count goes up behind it. That a step carried out in this way is `Machine.step` means that every
check comes before every assignment.

## Main definitions

* `Procedure`, `Procedure.runOn`: procedures, and what they come to on a machine.
* `Procedure.step`: a step, assignment by assignment.

## Main results

* `Procedure.runOn_execute`: carrying out an instruction.
* `Procedure.runOn_step`: **a step by assignments is a step of the machine.**
-/

namespace Monocycle.Machine

/-- **Procedure** on a machine: it assigns to the components one after the other, and an error ends
it with the assignments that were made. -/
abbrev Procedure := ExceptT ExecutionError (StateM Machine)

namespace Procedure

/-- What a procedure comes to on a machine: its result or error, and the machine it leaves. -/
def runOn {α : Type} (p : Procedure α) (m : Machine) : Except ExecutionError α × Machine :=
  (ExceptT.run p).run m

/-- What an instruction has written: a register, or an address of the memory. -/
abbrev Written := Option Register × Option Int

/-! ### Assignments -/

def setPc (pc : Int) : Procedure Unit :=
  modify fun m => { m with pc := pc }

def setPhase (phase : Phase) : Procedure Unit :=
  modify fun m => { m with phase := phase }

def writeRegister (rd : Register) (v : Int) : Procedure Unit :=
  modify fun m => { m with registers := m.registers.write rd v }

def writeMemory (address v : Int) : Procedure Unit :=
  modify fun m => { m with memory := m.memory.write address v }

/-- Counts an instruction that was carried out. -/
def count : Procedure Unit :=
  modify fun m => { m with executed := m.executed + 1 }

/-! ### Instructions -/

/-- Goes on to the next instruction. -/
def advance : Procedure Unit := do
  let m ← get
  setPc (m.pc + 4)

/-- The instruction at the program counter. -/
def fetch : Procedure Instruction := do
  let m ← get
  match m.fetch? with
  | some i => return i
  | none => throw (.noInstruction m.pc)

/-- Writes a register and goes on. -/
def writeBack (rd : Register) (v : Int) : Procedure Written := do
  writeRegister rd v
  advance
  return (some rd, none)

/-- Stores a word, if the address is one of the memory, and goes on. -/
def store (i : Instruction) : Procedure Written := do
  let m ← get
  let address := m.effectiveAddress i
  if m.memory.inRange address then
    writeMemory address (m.registers.read i.rs2)
    advance
    return (none, some address)
  else
    throw (.storeOutside address m.memory.size i)

/-- Branches; a branch to itself moves behind the program and halts. -/
def branch (i : Instruction) : Procedure Unit := do
  let m ← get
  if m.branchTaken i then
    if m.pc + i.imm = m.pc then
      setPc m.endPc
      setPhase .halted
    else
      setPc (m.pc + i.imm)
  else
    advance

/-- Carries out an instruction as its format says. -/
def execute (i : Instruction) : Procedure Written := do
  let m ← get
  match i.format with
  | .register =>
    writeBack i.rd (i.op.result (m.registers.read i.rs1) (m.registers.read i.rs2))
  | .immediate =>
    if i.op = .lw then writeBack i.rd (m.memory.read (m.effectiveAddress i))
    else writeBack i.rd (i.op.result (m.registers.read i.rs1) i.imm)
  | .store => store i
  | .branch =>
    branch i
    return (none, none)
  | .unknown name => throw (.unknownFormat name i)

/-- Halts where the program counter has left the program. -/
def haltIfOutside : Procedure Unit := do
  let m ← get
  unless m.pcInRange do setPhase .halted

/-- **A step, assignment by assignment.** -/
def step : Procedure StepEvent := do
  let before ← get
  if before.pcInRange then
    let i ← fetch
    let (register?, address?) ← execute i
    count
    haltIfOutside
    let after ← get
    return ⟨.executed i.index, before.pc, after.pc, some i, register?, address?⟩
  else
    setPhase .halted
    return ⟨.halted, before.pc, before.pc, none, none, none⟩

/-! ### What the procedures come to -/

/-- Carrying out an instruction leaves the count alone: the step counts it. -/
theorem executed_execute {m : Machine} {i : Instruction} {effect : Effect}
    (h : m.execute i = .ok effect) : effect.machine.executed = m.executed := by
  obtain ⟨v, rfl⟩ | ⟨-, rfl⟩ | ⟨-, rfl⟩ := execute_cases h
  · rfl
  · rfl
  · obtain ⟨pc, hb⟩ | hb := branch_cases m i <;> rw [hb]

section

variable {α β : Type} {m m' : Machine}

/-- What is read of a machine at the start of a procedure is the machine it starts on. -/
theorem runOn_get_bind (q : Machine → Procedure β) : runOn (get >>= q) m = runOn (q m) m := rfl

/-- A procedure goes on behind another one that raises no error. -/
theorem runOn_bind_of_ok {p : Procedure α} {a : α} (h : runOn p m = (.ok a, m'))
    (q : α → Procedure β) : runOn (p >>= q) m = runOn (q a) m' := by
  have hp : p m = (.ok a, m') := h
  simp only [runOn, ExceptT.run, StateT.run, bind, ExceptT.bind, ExceptT.mk, StateT.bind, hp]
  rfl

/-- An error ends a procedure, and leaves the machine as it is by then. -/
theorem runOn_bind_of_error {p : Procedure α} {e : ExecutionError}
    (h : runOn p m = (.error e, m')) (q : α → Procedure β) :
    runOn (p >>= q) m = (.error e, m') := by
  have hp : p m = (.error e, m') := h
  simp only [runOn, ExceptT.run, StateT.run, bind, ExceptT.bind, ExceptT.mk, StateT.bind, hp]
  rfl

end

/-- A fetch assigns nothing. -/
theorem runOn_fetch (m : Machine) :
    runOn fetch m = (m.fetch?.elim (.error (.noInstruction m.pc)) .ok, m) := by
  rw [fetch, runOn_get_bind]
  cases m.fetch? <;> rfl

/-- A branch assigns what the branch of the machine comes to. -/
theorem runOn_branch (m : Machine) (i : Instruction) :
    runOn (branch i) m = (.ok ⟨⟩, m.branch i) := by
  rw [branch, runOn_get_bind, Machine.branch]
  split
  · dsimp only
    split
    · rfl
    · rfl
  · rfl

/-- A store checks its address before it assigns anything. -/
theorem runOn_store (m : Machine) (i : Instruction) :
    runOn (store i) m =
      let address := m.effectiveAddress i
      if m.memory.inRange address then
        (.ok (none, some address), { m with
          memory := m.memory.write address (m.registers.read i.rs2)
          pc := m.pc + 4 })
      else (.error (.storeOutside address m.memory.size i), m) := by
  rw [store, runOn_get_bind]
  dsimp only
  split
  · rfl
  · rfl

/-- **An instruction, assignment by assignment**, comes to what carrying it out comes to. -/
theorem runOn_execute (m : Machine) (i : Instruction) :
    runOn (execute i) m =
      match m.execute i with
      | .ok effect => (.ok (effect.writtenRegister?, effect.writtenAddress?), effect.machine)
      | .error e => (.error e, m) := by
  rw [execute, runOn_get_bind, Machine.execute]
  cases i.format with
  | register => rfl
  | immediate =>
      by_cases hlw : i.op = .lw
      · simp only [hlw, if_true]
        rfl
      · simp only [hlw, if_false]
        rfl
  | store =>
      dsimp only
      rw [runOn_store]
      dsimp only
      split
      · rfl
      · rfl
  | branch =>
      dsimp only
      rw [runOn_bind_of_ok (runOn_branch m i)]
      rfl
  | unknown name => rfl

theorem runOn_haltIfOutside (m : Machine) :
    runOn haltIfOutside m = (.ok ⟨⟩, m.haltIfOutside) := by
  rw [haltIfOutside, runOn_get_bind, Machine.haltIfOutside]
  split
  · rfl
  · rfl

/-- **A step by assignments is a step of the machine**: it leaves the same machine, whether it
tells an event or raises an error. -/
theorem runOn_step (m : Machine) : runOn step m = (m.step.2, m.step.1) := by
  rw [step, runOn_get_bind]
  obtain ⟨hr, hs⟩ | ⟨hr, hf, hs⟩ | ⟨i, e, hf, he, hs⟩ | ⟨i, effect, hf, he, hs⟩ := step_cases m
  · rw [hr, hs]
    rfl
  · have hfetch : runOn fetch m = (.error (.noInstruction m.pc), m) := by rw [runOn_fetch, hf]; rfl
    rw [if_pos hr, runOn_bind_of_error hfetch, hs]
  · have hfetch : runOn fetch m = (.ok i, m) := by rw [runOn_fetch, hf]; rfl
    have hexecute : runOn (execute i) m = (.error e, m) := by rw [runOn_execute, he]
    rw [if_pos (fetch?_eq_some_iff.mp hf).1, runOn_bind_of_ok hfetch, runOn_bind_of_error hexecute,
      hs]
  · have hfetch : runOn fetch m = (.ok i, m) := by rw [runOn_fetch, hf]; rfl
    have hexecute : runOn (execute i) m =
        (.ok (effect.writtenRegister?, effect.writtenAddress?), effect.machine) := by
      rw [runOn_execute, he]
    have hcount : runOn count effect.machine =
      (.ok ⟨⟩, { effect.machine with executed := effect.machine.executed + 1 }) := rfl
    rw [if_pos (fetch?_eq_some_iff.mp hf).1, runOn_bind_of_ok hfetch, runOn_bind_of_ok hexecute]
    dsimp only
    rw [runOn_bind_of_ok hcount, runOn_bind_of_ok (runOn_haltIfOutside _), hs,
      executed_execute he]
    rfl

end Procedure

end Monocycle.Machine
