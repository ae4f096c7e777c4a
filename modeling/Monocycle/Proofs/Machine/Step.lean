import Monocycle.Machine
import Mathlib.Logic.Function.Iterate

/-!
# Steps of the machine

What one step can do, said once. `Machine.next` is the machine after a step and `Machine.outcome`
how the step ended; a run of the machine is an iterate of `Machine.next`. A step goes one of four
ways, and `Machine.step_cases` is the inversion that every later argument about steps starts from:

* the program counter is outside the program, and the machine only takes its halted phase;
* it is inside but at no instruction, and nothing changes;
* the instruction there cannot be carried out, and nothing changes;
* the instruction is carried out, the executed count grows by one, and the machine halts if the
  program counter has left the program.

## Main results

* `Machine.step_cases`: the four ways of a step.
* `Machine.execute_cases`: the three kinds of effect an instruction has on the machine.
* `Machine.execute_error_cases`: the two reasons why an instruction cannot be carried out.
* `Machine.outcome_eq_halted_iff`, `Machine.next_of_not_isExecuted`: a step that carries nothing
  out changes at most the phase.
-/

namespace Monocycle.Machine

/-- The machine after one step. -/
def next (m : Machine) : Machine :=
  m.step.1

/-- How a step attempt ends, errors included. -/
def outcome (m : Machine) : StepOutcome :=
  match m.step.2 with
  | .ok event => event.outcome
  | .error e => .failed e

/-! ### The program counter and the program -/

theorem pcInRange_iff {m : Machine} : m.pcInRange = true ↔ 0 ≤ m.pc ∧ m.pc < m.endPc := by
  simp [pcInRange]

/-- An instruction is fetched exactly at the multiples of four inside the program. -/
theorem fetch?_eq_some_iff {m : Machine} {i : Instruction} :
    m.fetch? = some i ↔
      m.pcInRange = true ∧ m.pc % 4 = 0 ∧ m.program[(m.pc / 4).toNat]? = some i := by
  simp only [fetch?]
  split
  · next h =>
      simp only [Bool.and_eq_true, beq_iff_eq] at h
      simp [h]
  · next h =>
      simp only [Bool.and_eq_true, beq_iff_eq] at h
      simp only [reduceCtorEq, false_iff]
      exact fun ⟨hr, ha, _⟩ => h ⟨hr, ha⟩

/-- Inside the program, only a program counter that is not a multiple of four is at no
instruction. -/
theorem fetch?_eq_none_iff {m : Machine} (h : m.pcInRange = true) :
    m.fetch? = none ↔ m.pc % 4 ≠ 0 := by
  obtain ⟨hlow, hhigh⟩ := pcInRange_iff.mp h
  have hsize : (m.pc / 4).toNat < m.program.size := by
    rw [endPc] at hhigh
    omega
  by_cases ha : m.pc % 4 = 0 <;> simp [fetch?, h, ha, hsize]

/-! ### Carrying out an instruction -/

/-- **The kinds of effect**: an instruction that is carried out writes a register, stores a word
inside the memory, or is a branch and branches. -/
theorem execute_cases {m : Machine} {i : Instruction} {effect : Effect}
    (h : m.execute i = .ok effect) :
    (∃ v, effect = m.writeBack i.rd v) ∨
    (m.memory.inRange (m.effectiveAddress i) = true ∧
      effect = ⟨{ m with
        memory := m.memory.write (m.effectiveAddress i) (m.registers.read i.rs2)
        pc := m.pc + 4 }, none, some (m.effectiveAddress i)⟩) ∨
    (i.format = .branch ∧ effect = ⟨m.branch i, none, none⟩) := by
  rw [execute] at h
  split at h
  case h_1 => exact .inl ⟨_, by simpa using h.symm⟩
  case h_2 =>
    split at h
    · exact .inl ⟨_, by simpa using h.symm⟩
    · exact .inl ⟨_, by simpa using h.symm⟩
  case h_3 =>
    dsimp only at h
    split at h
    · next hin => exact .inr (.inl ⟨hin, by simpa using h.symm⟩)
    · simp at h
  case h_4 hformat => exact .inr (.inr ⟨hformat, by simpa using h.symm⟩)
  case h_5 => simp at h

/-- **Why an instruction cannot be carried out**: it stores outside the memory, or its format is not
known. -/
theorem execute_error_cases {m : Machine} {i : Instruction} {e : ExecutionError}
    (h : m.execute i = .error e) :
    (i.format = .store ∧ m.memory.inRange (m.effectiveAddress i) = false ∧
      e = .storeOutside (m.effectiveAddress i) m.memory.size i) ∨
    ∃ name, i.format = .unknown name ∧ e = .unknownFormat name i := by
  rw [execute] at h
  split at h
  case h_1 => cases h
  case h_2 => split at h <;> cases h
  case h_3 hformat =>
    dsimp only at h
    split at h
    · cases h
    · next hout => exact .inl ⟨hformat, by simpa using hout, (Except.error.inj h).symm⟩
  case h_4 => cases h
  case h_5 name hformat => exact .inr ⟨name, hformat, (Except.error.inj h).symm⟩

/-- A branch goes on, jumps, or halts the machine behind the program. -/
theorem branch_cases (m : Machine) (i : Instruction) :
    (∃ pc, m.branch i = { m with pc := pc }) ∨
      m.branch i = { m with pc := m.endPc, phase := .halted } := by
  rw [branch]
  split
  · dsimp only
    split
    · exact .inr rfl
    · exact .inl ⟨_, rfl⟩
  · exact .inl ⟨_, rfl⟩

/-- A branch goes on behind itself, to its target, or behind the program if it is its own target. -/
theorem pc_branch (m : Machine) (i : Instruction) :
    (m.branch i).pc =
      if m.branchTaken i then (if i.imm = 0 then m.endPc else m.pc + i.imm) else m.pc + 4 := by
  rw [branch]
  split
  · by_cases himm : i.imm = 0
    · simp [himm]
    · have htarget : m.pc + i.imm ≠ m.pc := by omega
      simp [himm, htarget]
  · rfl

/-- An instruction goes on behind itself unless it is a branch. -/
theorem pc_execute {m : Machine} {i : Instruction} {effect : Effect}
    (h : m.execute i = .ok effect) :
    effect.machine.pc = m.pc + 4 ∨ i.format = .branch ∧ effect = ⟨m.branch i, none, none⟩ := by
  obtain ⟨v, rfl⟩ | ⟨-, rfl⟩ | hbranch := execute_cases h
  · exact .inl rfl
  · exact .inl rfl
  · exact .inr hbranch

/-- Carrying out an instruction leaves the program alone. -/
theorem program_execute {m : Machine} {i : Instruction} {effect : Effect}
    (h : m.execute i = .ok effect) : effect.machine.program = m.program := by
  obtain ⟨v, rfl⟩ | ⟨-, rfl⟩ | ⟨-, rfl⟩ := execute_cases h
  · rfl
  · rfl
  · obtain ⟨pc, hb⟩ | hb := branch_cases m i <;> rw [hb]

/-- Carrying out an instruction keeps the size of the memory. -/
theorem memorySize_execute {m : Machine} {i : Instruction} {effect : Effect}
    (h : m.execute i = .ok effect) : effect.machine.memory.size = m.memory.size := by
  obtain ⟨v, rfl⟩ | ⟨-, rfl⟩ | ⟨-, rfl⟩ := execute_cases h
  · rfl
  · exact DataMemory.size_write _ _ _
  · obtain ⟨pc, hb⟩ | hb := branch_cases m i <;> rw [hb]

/-- Carrying out an instruction keeps the slots of the memory. -/
theorem sized_execute {m : Machine} {i : Instruction} {effect : Effect}
    (h : m.execute i = .ok effect) (hsized : m.memory.Sized) : effect.machine.memory.Sized := by
  obtain ⟨v, rfl⟩ | ⟨-, rfl⟩ | ⟨-, rfl⟩ := execute_cases h
  · exact hsized
  · exact hsized.write _ _
  · obtain ⟨pc, hb⟩ | hb := branch_cases m i <;> rw [hb] <;> exact hsized

/-- Carrying out an instruction keeps the phase, or halts the machine behind the program. -/
theorem phase_execute {m : Machine} {i : Instruction} {effect : Effect}
    (h : m.execute i = .ok effect) :
    effect.machine.phase = m.phase ∨
      effect.machine.phase = .halted ∧ effect.machine.pc = m.endPc := by
  obtain ⟨v, rfl⟩ | ⟨-, rfl⟩ | ⟨-, rfl⟩ := execute_cases h
  · exact .inl rfl
  · exact .inl rfl
  · obtain ⟨pc, hb⟩ | hb := branch_cases m i <;> rw [hb]
    · exact .inl rfl
    · exact .inr ⟨rfl, rfl⟩

/-! ### The four ways of a step -/

/-- The machine after an instruction was carried out: the count goes up, and a machine that has
left its program halts. -/
def settle (m : Machine) (effect : Effect) : Machine :=
  haltIfOutside { effect.machine with executed := m.executed + 1 }

/-- **Inversion of a step.** -/
theorem step_cases (m : Machine) :
    (m.pcInRange = false ∧
      m.step = ({ m with phase := .halted }, .ok ⟨.halted, m.pc, m.pc, none, none, none⟩)) ∨
    (m.pcInRange = true ∧ m.fetch? = none ∧ m.step = (m, .error (.noInstruction m.pc))) ∨
    (∃ i e, m.fetch? = some i ∧ m.execute i = .error e ∧ m.step = (m, .error e)) ∨
    (∃ i effect, m.fetch? = some i ∧ m.execute i = .ok effect ∧
      m.step = (m.settle effect, .ok ⟨.executed i.index, m.pc, (m.settle effect).pc, some i,
        effect.writtenRegister?, effect.writtenAddress?⟩)) := by
  cases hr : m.pcInRange with
  | false => exact .inl ⟨rfl, by simp [step, hr]⟩
  | true =>
      cases hf : m.fetch? with
      | none => exact .inr (.inl ⟨rfl, rfl, by simp [step, hr, hf]⟩)
      | some i =>
          cases he : m.execute i with
          | error e => exact .inr (.inr (.inl ⟨i, e, rfl, he, by simp [step, hr, hf, he]⟩))
          | ok effect =>
              exact .inr (.inr (.inr ⟨i, effect, rfl, he, by simp [step, hr, hf, he, settle]⟩))

/-- An instruction that is fetched and can be carried out makes the step. -/
theorem step_of_execute {m : Machine} {i : Instruction} {effect : Effect}
    (hfetch : m.fetch? = some i) (he : m.execute i = .ok effect) :
    m.next = m.settle effect ∧ m.outcome = .executed i.index := by
  have hrange : m.pcInRange = true := (fetch?_eq_some_iff.mp hfetch).1
  constructor
  · simp [next, step, hrange, hfetch, he, settle]
  · simp [outcome, step, hrange, hfetch, he]

/-- A step that carries an instruction out fetches it. -/
theorem exists_step_of_isExecuted {m : Machine} (h : m.outcome.isExecuted = true) :
    ∃ i effect, m.fetch? = some i ∧ m.execute i = .ok effect ∧
      m.step = (m.settle effect, .ok ⟨.executed i.index, m.pc, (m.settle effect).pc, some i,
        effect.writtenRegister?, effect.writtenAddress?⟩) := by
  obtain ⟨-, hs⟩ | ⟨-, -, hs⟩ | ⟨i, e, -, -, hs⟩ | hexecuted := step_cases m
  · simp [outcome, hs, StepOutcome.isExecuted] at h
  · simp [outcome, hs, StepOutcome.isExecuted] at h
  · simp [outcome, hs, StepOutcome.isExecuted] at h
  · exact hexecuted

/-- Settling changes nothing but the count and the phase. -/
theorem settle_eq (m : Machine) (effect : Effect) :
    m.settle effect = { effect.machine with
      executed := m.executed + 1
      phase := (m.settle effect).phase } := by
  rw [settle, haltIfOutside]
  split <;> rfl

@[simp] theorem pc_settle (m : Machine) (effect : Effect) :
    (m.settle effect).pc = effect.machine.pc := by
  rw [settle_eq]

@[simp] theorem program_settle (m : Machine) (effect : Effect) :
    (m.settle effect).program = effect.machine.program := by
  rw [settle_eq]

@[simp] theorem registers_settle (m : Machine) (effect : Effect) :
    (m.settle effect).registers = effect.machine.registers := by
  rw [settle_eq]

@[simp] theorem memory_settle (m : Machine) (effect : Effect) :
    (m.settle effect).memory = effect.machine.memory := by
  rw [settle_eq]

@[simp] theorem executed_settle (m : Machine) (effect : Effect) :
    (m.settle effect).executed = m.executed + 1 := by
  rw [settle_eq]

/-- After settling the machine is halted if it is outside the program, and in the phase the
instruction left it in otherwise. -/
theorem phase_settle (m : Machine) (effect : Effect) :
    (m.settle effect).phase =
      if effect.machine.pcInRange then effect.machine.phase else .halted := by
  rw [settle, haltIfOutside]
  have h : pcInRange { effect.machine with executed := m.executed + 1 } =
      effect.machine.pcInRange := rfl
  rw [h]
  split <;> rfl

/-- Being inside the program depends on the program counter and the program alone. -/
theorem pcInRange_congr {m m' : Machine} (hpc : m'.pc = m.pc) (hprogram : m'.program = m.program) :
    m'.pcInRange = m.pcInRange := by
  rw [pcInRange, pcInRange, endPc, endPc, hpc, hprogram]

/-! ### Outcomes -/

/-- A step halts exactly outside the program. -/
theorem outcome_eq_halted_iff {m : Machine} : m.outcome = .halted ↔ m.pcInRange = false := by
  obtain ⟨hr, hs⟩ | ⟨hr, -, hs⟩ | ⟨i, e, hf, -, hs⟩ | ⟨i, effect, hf, -, hs⟩ := step_cases m
  · simp [outcome, hs, hr]
  · simp [outcome, hs, hr]
  · simp [outcome, hs, (fetch?_eq_some_iff.mp hf).1]
  · simp [outcome, hs, (fetch?_eq_some_iff.mp hf).1]

/-- A step that carries nothing out leaves the machine as it is, but for the phase of a machine
outside its program. -/
theorem next_of_not_isExecuted {m : Machine} (h : m.outcome.isExecuted = false) :
    m.next = if m.pcInRange then m else { m with phase := .halted } := by
  obtain ⟨hr, hs⟩ | ⟨hr, -, hs⟩ | ⟨i, e, hf, -, hs⟩ | ⟨i, effect, hf, -, hs⟩ := step_cases m
  · simp [next, hs, hr]
  · simp [next, hs, hr]
  · simp [next, hs, (fetch?_eq_some_iff.mp hf).1]
  · simp [outcome, hs, StepOutcome.isExecuted] at h

/-- A step that carries an instruction out counts it. -/
theorem executed_next {m : Machine} (h : m.outcome.isExecuted = true) :
    m.next.executed = m.executed + 1 := by
  obtain ⟨i, effect, -, -, hs⟩ := exists_step_of_isExecuted h
  simp [next, hs]

/-- No step changes the program. -/
@[simp] theorem program_next (m : Machine) : m.next.program = m.program := by
  obtain ⟨-, hs⟩ | ⟨-, -, hs⟩ | ⟨i, e, -, -, hs⟩ | ⟨i, effect, -, he, hs⟩ := step_cases m
  · simp [next, hs]
  · simp [next, hs]
  · simp [next, hs]
  · simp [next, hs, program_execute he]

/-- No step changes the size of the memory. -/
@[simp] theorem memorySize_next (m : Machine) : m.next.memory.size = m.memory.size := by
  obtain ⟨-, hs⟩ | ⟨-, -, hs⟩ | ⟨i, e, -, -, hs⟩ | ⟨i, effect, -, he, hs⟩ := step_cases m
  · simp [next, hs]
  · simp [next, hs]
  · simp [next, hs]
  · simp [next, hs, memorySize_execute he]

end Monocycle.Machine
