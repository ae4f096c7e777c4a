import Monocycle.Proofs.Assembly.WellFormed
import Monocycle.Proofs.Machine.Control

/-!
# Running assembled programs

A machine that runs an assembled program fetches records by their addresses: the record at the
program counter is the one whose address the program counter is. This ties what is known of the
records to what the machine does, step after step.

An assembled program can fail in two ways only. It can store outside the memory, and it can lead
the program counter between two instructions by a branch over a distance that is no multiple of
four. That a record has a format the machine does not know never happens.

## Main definitions

* `Machine.Runs`: the machine runs a program, with a data memory of a size.

## Main results

* `Machine.Runs.iterate_next`: a machine goes on to run its program.
* `Machine.Runs.fetch?_eq_some_iff`: the record fetched is the one at the program counter.
* `failed_or_executed_of_assembled`: **an assembled program is well-formed and fails in two ways
  only.**
-/

namespace Monocycle

namespace Machine

/-! ### Machines that run a program -/

/-- A machine **runs** a program with a data memory of a size. -/
structure Runs (p : Program) (size : Int) (m : Machine) : Prop where
  program : m.program = p.instructions.toArray
  size : m.memory.size = size
  controlled : m.Controlled

namespace Runs

variable {source : Text} {p : Program} {size : Int} {m : Machine}

/-- A machine runs the program it was loaded with. -/
theorem load (m : Machine) (p : Program) : Runs p m.memory.size (m.load p.instructions) where
  program := rfl
  size := rfl
  controlled := controlled_load m p.instructions

/-- A step goes on with the program. -/
theorem next (h : Runs p size m) : Runs p size m.next where
  program := (program_next m).trans h.program
  size := (memorySize_next m).trans h.size
  controlled := h.controlled.next

/-- **A run** goes on with the program. -/
theorem iterate_next (h : Runs p size m) (n : Nat) : Runs p size (Machine.next^[n] m) := by
  induction n with
  | zero => exact h
  | succ n ih =>
      rw [Function.iterate_succ_apply']
      exact ih.next

/-- The program ends four bytes behind its last instruction. -/
theorem endPc_eq (h : Runs p size m) : m.endPc = 4 * p.instructions.length := by
  rw [endPc, h.program, List.size_toArray, Int.mul_comm]

/-- **The record fetched** is the one at the program counter. -/
theorem fetch?_eq_some_iff (hassemble : assemble source = .ok p) (h : Runs p size m)
    {i : Instruction} : m.fetch? = some i ↔ i ∈ p.instructions ∧ i.address = m.pc := by
  rw [Machine.fetch?_eq_some_iff, pcInRange_iff, h.endPc_eq, h.program, List.getElem?_toArray]
  constructor
  · rintro ⟨⟨hlow, -⟩, haligned, hi⟩
    refine ⟨List.mem_of_getElem? hi, ?_⟩
    rw [address_of_getElem? hassemble hi]
    omega
  · rintro ⟨hi, hpc⟩
    obtain ⟨j, hj⟩ := List.getElem?_of_mem hi
    obtain ⟨hlt, -⟩ := List.getElem?_eq_some_iff.mp hj
    rw [address_of_getElem? hassemble hj] at hpc
    refine ⟨by omega, by omega, ?_⟩
    rwa [show (m.pc / 4).toNat = j by omega]

/-- The index of a record at the program counter is a quarter of it. -/
theorem index_of_fetch? (hassemble : assemble source = .ok p) (h : Runs p size m)
    {i : Instruction} (hfetch : m.fetch? = some i) : i.index = m.pc / 4 := by
  rw [Instruction.index, ((h.fetch?_eq_some_iff hassemble).mp hfetch).2]

/-- **A step fails** at a store outside the memory, or between two instructions. -/
theorem failed_cases (hassemble : assemble source = .ok p) (h : Runs p size m)
    {e : ExecutionError} (he : m.outcome = .failed e) :
    (∃ i ∈ p.instructions, i.address = m.pc ∧ i.format = .store ∧
      ¬(0 ≤ m.effectiveAddress i ∧ m.effectiveAddress i < size) ∧
      e = .storeOutside (m.effectiveAddress i) size i) ∨
    (m.pc % 4 ≠ 0 ∧ e = .noInstruction m.pc) := by
  obtain ⟨-, hs⟩ | ⟨hr, hf, hs⟩ | ⟨i, e', hf, hexecute, hs⟩ | ⟨i, effect, -, -, hs⟩ := step_cases m
  · simp [outcome, hs] at he
  · have heq : e = .noInstruction m.pc := by simpa [outcome, hs] using he.symm
    exact .inr ⟨(fetch?_eq_none_iff hr).mp hf, heq⟩
  · obtain rfl : e = e' := by simpa [outcome, hs] using he.symm
    obtain ⟨hi, hpc⟩ := (h.fetch?_eq_some_iff hassemble).mp hf
    obtain ⟨hformat, hout, rfl⟩ | ⟨name, hformat, -⟩ := execute_error_cases hexecute
    · rw [h.size]
      refine .inl ⟨i, hi, hpc, hformat, ?_, rfl⟩
      rw [← h.size, ← DataMemory.inRange_iff, hout]
      exact Bool.noConfusion
    · have hfits := (wellFormed_of_mem hassemble hi).fitsFormat
      rw [Instruction.FitsFormat, hformat] at hfits
      exact hfits.elim
  · simp [outcome, hs] at he

/-- A step that carries an instruction out tells its position in the program. -/
theorem index_of_executed (hassemble : assemble source = .ok p) (h : Runs p size m) {index : Int}
    (hexecuted : m.outcome = .executed index) : index = m.pc / 4 := by
  obtain ⟨-, hs⟩ | ⟨-, -, hs⟩ | ⟨i, e, -, -, hs⟩ | ⟨i, effect, hf, -, hs⟩ := step_cases m
  · simp [outcome, hs] at hexecuted
  · simp [outcome, hs] at hexecuted
  · simp [outcome, hs] at hexecuted
  · obtain rfl : index = i.index := by simpa [outcome, hs] using hexecuted.symm
    exact h.index_of_fetch? hassemble hf

end Runs

end Machine

/-! ### Assembled programs -/

/-- **An assembled program is well-formed and fails in two ways only.** Whatever machine it is loaded
into, after any number of steps a step that fails is a store outside the memory, which tells the
position of the store, or finds the program counter between two instructions, and tells none. A step
that carries an instruction out tells the position of that instruction. -/
theorem failed_or_executed_of_assembled {source : Text} {p : Program}
    (h : assemble source = .ok p) :
    (∀ i ∈ p.instructions, i.WellFormed p.instructions.length) ∧
    ∀ (m₀ : Machine) (n : Nat),
      let m := Machine.next^[n] (m₀.load p.instructions)
      (∀ e, m.outcome = .failed e →
        (∃ i ∈ p.instructions, i.address = m.pc ∧ i.format = .store ∧
          ¬(0 ≤ m.effectiveAddress i ∧ m.effectiveAddress i < m₀.memory.size) ∧
          e = .storeOutside (m.effectiveAddress i) m₀.memory.size i ∧
          e.index? = some (m.pc / 4)) ∨
        (m.pc % 4 ≠ 0 ∧ e = .noInstruction m.pc ∧ e.index? = none)) ∧
      (∀ name i, m.outcome ≠ .failed (.unknownFormat name i)) ∧
      ∀ index, m.outcome = .executed index → index = m.pc / 4 := by
  refine ⟨fun i hi => wellFormed_of_mem h hi, fun m₀ n => ?_⟩
  intro m
  have hruns : Machine.Runs p m₀.memory.size m := (Machine.Runs.load m₀ p).iterate_next n
  refine ⟨fun e he => ?_, fun name i he => ?_, fun index => hruns.index_of_executed h⟩
  · obtain ⟨i, hi, hpc, hstore, hout, rfl⟩ | ⟨haligned, rfl⟩ := hruns.failed_cases h he
    · refine .inl ⟨i, hi, hpc, hstore, hout, rfl, ?_⟩
      rw [← hpc]
      rfl
    · exact .inr ⟨haligned, rfl, rfl⟩
  · obtain ⟨i', -, -, -, -, heq⟩ | ⟨-, heq⟩ := hruns.failed_cases h he
    · cases heq
    · cases heq

/-- A program whose second instruction stores outside the memory. -/
theorem failed_or_executed_of_assembled_store :
    ∃ p, assemble "addi x1, x0, 64\nsw x1, 0(x1)".toList = .ok p ∧
      (∀ i ∈ p.instructions, i.WellFormed p.instructions.length) ∧
      let m := Machine.next^[1] ((Machine.ofMemorySize 16).load p.instructions)
      ∃ e, m.outcome = .failed e ∧
        ((∃ i ∈ p.instructions, i.address = m.pc ∧ i.format = .store ∧
          ¬(0 ≤ m.effectiveAddress i ∧ m.effectiveAddress i < 16) ∧
          e = .storeOutside (m.effectiveAddress i) 16 i ∧ e.index? = some (m.pc / 4)) ∨
        (m.pc % 4 ≠ 0 ∧ e = .noInstruction m.pc ∧ e.index? = none)) := by
  obtain ⟨p, hp, e, he⟩ : ∃ p, assemble "addi x1, x0, 64\nsw x1, 0(x1)".toList = .ok p ∧
      ∃ e, (Machine.next^[1] ((Machine.ofMemorySize 16).load p.instructions)).outcome =
        .failed e := ⟨_, rfl, _, rfl⟩
  obtain ⟨hwellFormed, hrun⟩ := failed_or_executed_of_assembled hp
  exact ⟨p, hp, hwellFormed, e, he, (hrun (Machine.ofMemorySize 16) 1).1 e he⟩

end Monocycle
