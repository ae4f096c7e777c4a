import Monocycle.Proofs.Machine.Words

/-!
# What a step event tells

An event names at most one register or one address, and a step writes nothing else. That makes an
event a complete report: whoever has the registers and the memory of before and looks up the one
word that the event names has those of after. Four kinds of steps have to fit the one form of
report. A write to register 0 is named although it changes nothing; a load outside the memory is a
register write like any other; a branch to itself ends behind the program and names nothing; and a
step outside the program changes the phase alone.

The reports rest on the data invariant. A write sets register 0 back to zero, which leaves it alone
only where it was zero before, and the word that a store leaves is the wrapped register, which is
the register itself only where it held a word.

## Main definitions

* `StepEvent.Tells`: an event tells what happened between two machines.

## Main results

* `Machine.instruction?_of_step_error`: an error names the instruction that was fetched.
* `Machine.HoldsWords.tells_next`: **the event of a step tells what the step did.**
-/

namespace Monocycle

/-- An event **tells** what happened between two machines. -/
structure StepEvent.Tells (event : StepEvent) (m m' : Machine) : Prop where
  pcBefore : event.pcBefore = m.pc
  pcAfter : event.pcAfter = m'.pc
  size : m'.memory.size = m.memory.size
  /-- A register and an address are never named together. -/
  alone : event.writtenRegister? = none ∨ event.writtenAddress? = none
  /-- Where a register is named, nothing else has changed. -/
  register : ∀ r, event.writtenRegister? = some r →
    m'.memory = m.memory ∧ ∀ r', r' ≠ r → m'.registers.read r' = m.registers.read r'
  /-- Where an address is named, it is one of the memory, nothing but its slot has changed, and the
  slot holds the second register that the instruction reads. -/
  address : ∀ a, event.writtenAddress? = some a →
    (0 ≤ a ∧ a < m.memory.size) ∧ m'.registers = m.registers ∧
    (∀ j : Nat, a ≠ j → m'.memory.slots[j]? = m.memory.slots[j]?) ∧
    ∃ i, event.instruction? = some i ∧
      m'.memory.slots[a.toNat]? = some (m.registers.read i.rs2)
  /-- Where nothing is named, nothing has changed. -/
  nothing : event.writtenRegister? = none → event.writtenAddress? = none →
    m'.registers = m.registers ∧ m'.memory = m.memory
  /-- The count goes up by one if an instruction was carried out, and stays otherwise. -/
  executed : m'.executed = if event.outcome.isExecuted then m.executed + 1 else m.executed

/-- An event that names nothing and carries nothing out tells of two machines that differ in the
phase at most. -/
theorem StepEvent.tells_of_phase (m : Machine) (phase : Phase) {event : StepEvent}
    (hbefore : event.pcBefore = m.pc) (hafter : event.pcAfter = m.pc)
    (hregister : event.writtenRegister? = none) (haddress : event.writtenAddress? = none)
    (houtcome : event.outcome.isExecuted = false) : event.Tells m { m with phase := phase } where
  pcBefore := hbefore
  pcAfter := hafter
  size := rfl
  alone := .inl hregister
  register r hr := by cases hregister.symm.trans hr
  address a ha := by cases haddress.symm.trans ha
  nothing _ _ := ⟨rfl, rfl⟩
  executed := by simp [houtcome]

/-- A write inside a memory with all its slots leaves the wrapped value in the slot. -/
theorem DataMemory.Sized.slots_write {m : DataMemory} (h : m.Sized) {address : Int}
    (hin : m.inRange address = true) (v : Int) :
    (m.write address v).slots[address.toNat]? = some (Word.wrap v) := by
  have hbound : address.toNat < m.slots.size := by
    have := inRange_iff.mp hin
    rw [Sized] at h
    omega
  have hwrite : (m.write address v).slots = m.slots.setIfInBounds address.toNat (Word.wrap v) := by
    rw [DataMemory.write, if_pos hin]
  rw [hwrite]
  exact Array.getElem?_setIfInBounds_self_of_lt hbound

namespace Machine

/-- **An error names the instruction that was fetched**, if there was one. -/
theorem instruction?_of_step_error {m : Machine} {e : ExecutionError} (h : m.step.2 = .error e) :
    e.instruction? = m.fetch? := by
  obtain ⟨-, hs⟩ | ⟨-, hf, hs⟩ | ⟨i, e', hf, he, hs⟩ | ⟨i, effect, -, -, hs⟩ := step_cases m <;>
    rw [hs] at h
  · cases h
  · cases h
    exact hf.symm
  · cases h
    obtain ⟨-, -, rfl⟩ | ⟨name, -, rfl⟩ := execute_error_cases he <;> exact hf.symm
  · cases h

namespace HoldsWords

variable {m : Machine}

/-- The event of an instruction that was carried out tells what it did. -/
theorem tells_settle (h : m.HoldsWords) {i : Instruction} {effect : Effect}
    (he : m.execute i = .ok effect) :
    StepEvent.Tells ⟨.executed i.index, m.pc, (m.settle effect).pc, some i,
      effect.writtenRegister?, effect.writtenAddress?⟩ m (m.settle effect) := by
  have hcount : (m.settle effect).executed = m.executed + 1 := executed_settle m effect
  have hsize : (m.settle effect).memory.size = m.memory.size := by
    rw [memory_settle, memorySize_execute he]
  obtain ⟨v, rfl⟩ | ⟨hin, rfl⟩ | ⟨-, rfl⟩ := execute_cases he
  · -- a register is named: the memory is left alone, and so is every other register
    refine ⟨rfl, rfl, hsize, .inr rfl, fun r hr => ?_, nofun, nofun, hcount⟩
    cases hr
    rw [memory_settle, registers_settle]
    exact ⟨rfl, fun r' hne => h.registers.read_write_of_ne hne v⟩
  · -- an address is named: what is stored is a word, so that wrapping it changes nothing
    refine ⟨rfl, rfl, hsize, .inl rfl, nofun, fun a ha => ?_, nofun, hcount⟩
    cases ha
    rw [memory_settle, registers_settle]
    have hword : Word.wrap (m.registers.read i.rs2) = m.registers.read i.rs2 :=
      Word.wrap_of_inRange (h.registers.inRange i.rs2)
    refine ⟨DataMemory.inRange_iff.mp hin, rfl,
      fun j hne => DataMemory.slots_write_of_ne hin _ hne, i, rfl, ?_⟩
    exact (h.memory.sized.slots_write hin _).trans (congrArg some hword)
  · -- nothing is named: a branch writes nothing
    refine ⟨rfl, rfl, hsize, .inl rfl, nofun, nofun, fun _ _ => ?_, hcount⟩
    rw [memory_settle, registers_settle]
    obtain ⟨pc, hb⟩ | hb := branch_cases m i <;> rw [hb] <;> exact ⟨rfl, rfl⟩

/-- **The event of a step tells what the step did.** -/
theorem tells_next (h : m.HoldsWords) {event : StepEvent} (hevent : m.step.2 = .ok event) :
    event.Tells m m.next := by
  obtain ⟨-, hs⟩ | ⟨-, -, hs⟩ | ⟨i, e, -, -, hs⟩ | ⟨i, effect, -, he, hs⟩ := step_cases m <;>
    rw [hs] at hevent
  · cases hevent
    rw [Machine.next, hs]
    exact StepEvent.tells_of_phase m .halted rfl rfl rfl rfl rfl
  · cases hevent
  · cases hevent
  · cases hevent
    rw [Machine.next, hs]
    exact h.tells_settle he

end HoldsWords

end Machine

end Monocycle
