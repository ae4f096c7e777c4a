import Monocycle.Proofs.Machine.Step

/-!
# The words of a machine

Every register and every slot of the memory holds a signed word, register 0 holds zero, and the
memory has one slot for each of its addresses. `Machine.HoldsWords` is this invariant. It asks
nothing of the program: a record may name any format with any operation code, and its immediate may
be an integer of any size. What keeps the invariant is that the two ways to write, to a register
and to the memory, wrap what they are given.

What a step may touch is said by its own event. A step that is carried out changes no register but
the one its event names, and no slot but the one at the address its event names, which is an address
of the memory; a step that fails changes nothing. `StepEvent.Covers` says so.

## Main definitions

* `RegisterFile.HoldsWords`, `DataMemory.HoldsWords`, `Machine.HoldsWords`: the invariant.
* `StepEvent.Covers`: what a step wrote is what its event tells.
* `Machine.Reachable`: the machines that loads of any records, steps and resets lead to.

## Main results

* `Machine.HoldsWords.next`: a step keeps the invariant.
* `Machine.covers_next`: a step writes what its event tells, and nothing else.
* `Machine.words_of_reachable`: **the data invariant of the machine**.
-/

namespace Monocycle

/-! ### Registers -/

namespace RegisterFile

/-- A register file **holds words** when register 0 holds zero and every register a signed word. -/
structure HoldsWords (f : RegisterFile) : Prop where
  zero : f.read .zero = 0
  inRange : ∀ r, Word.InRange (f.read r)

theorem holdsWords_cleared : cleared.HoldsWords where
  zero := read_cleared _
  inRange r := by
    rw [read_cleared]
    decide

/-- A write wraps its value and sets register 0 back. -/
theorem HoldsWords.write {f : RegisterFile} (h : f.HoldsWords) (r : Register) (v : Int) :
    (f.write r v).HoldsWords where
  zero := by
    rw [read_write]
    rfl
  inRange s := by
    rw [read_write]
    split
    · decide
    · split
      · exact Word.inRange_wrap v
      · exact h.inRange s

/-- A write changes no register but its own: register 0 is set back to the zero it held. -/
theorem HoldsWords.read_write_of_ne {f : RegisterFile} (h : f.HoldsWords) {r s : Register}
    (hne : s ≠ r) (v : Int) : (f.write r v).read s = f.read s := by
  rw [read_write, if_neg hne]
  split
  · next hzero =>
      rw [hzero]
      exact h.zero.symm
  · rfl

/-- The listed words are those of the registers. -/
theorem mem_toList_iff {f : RegisterFile} {v : Int} : v ∈ f.toList ↔ ∃ r, f.read r = v := by
  rw [toList, Vector.mem_toList_iff, Vector.mem_iff_getElem]
  constructor
  · rintro ⟨i, hi, hv⟩
    exact ⟨⟨i, hi⟩, hv⟩
  · rintro ⟨r, hv⟩
    exact ⟨r.val, r.isLt, hv⟩

end RegisterFile

/-! ### Memory -/

namespace DataMemory

/-- A memory **holds words** when it has a slot for each of its addresses and every slot holds a
signed word. -/
structure HoldsWords (m : DataMemory) : Prop where
  sized : m.Sized
  inRange : ∀ v ∈ m.slots, Word.InRange v

theorem holdsWords_ofSize (size : Int) : (ofSize size).HoldsWords where
  sized := sized_ofSize size
  inRange v hv := by
    obtain ⟨-, rfl⟩ := Array.mem_replicate.mp hv
    decide

/-- A write wraps its value. -/
theorem HoldsWords.write {m : DataMemory} (h : m.HoldsWords) (address v : Int) :
    (m.write address v).HoldsWords where
  sized := h.sized.write address v
  inRange w hw := by
    rw [DataMemory.write] at hw
    split at hw
    · obtain hold | rfl := Array.mem_or_eq_of_mem_setIfInBounds hw
      · exact h.inRange w hold
      · exact Word.inRange_wrap v
    · exact h.inRange w hw

/-- What is read is a signed word, inside the memory or outside. -/
theorem HoldsWords.inRange_read {m : DataMemory} (h : m.HoldsWords) (address : Int) :
    Word.InRange (m.read address) := by
  rw [read, Array.getD_eq_getD_getElem?]
  split
  · cases hslot : m.slots[address.toNat]? with
    | none => decide
    | some v => exact h.inRange v (Array.mem_of_getElem? hslot)
  · decide

/-- A write inside the memory changes no slot but the one at its address. -/
theorem slots_write_of_ne {m : DataMemory} {address : Int} (hin : m.inRange address = true)
    (v : Int) {j : Nat} (hne : address ≠ j) : (m.write address v).slots[j]? = m.slots[j]? := by
  have hindex : address.toNat ≠ j := by
    have := (inRange_iff.mp hin).1
    omega
  rw [write, if_pos hin]
  exact Array.getElem?_setIfInBounds_ne hindex

/-- As many slots as the size tells, and none if it is negative. -/
theorem Sized.size_slots {m : DataMemory} (h : m.Sized) : (m.slots.size : Int) = max 0 m.size := by
  rw [h]
  omega

end DataMemory

/-! ### The machine -/

/-- An event **covers** what happened between two machines: no register changed but the one it
names, no slot but the one at the address it names, and that is an address of the memory. -/
structure StepEvent.Covers (event : StepEvent) (m m' : Machine) : Prop where
  registers : ∀ r, event.writtenRegister? ≠ some r → m'.registers.read r = m.registers.read r
  slots : ∀ j : Nat, event.writtenAddress? ≠ some (j : Int) →
    m'.memory.slots[j]? = m.memory.slots[j]?
  address : ∀ a, event.writtenAddress? = some a → 0 ≤ a ∧ a < m.memory.size

namespace Machine

/-- A machine **holds words** when its registers and its memory do. -/
structure HoldsWords (m : Machine) : Prop where
  registers : m.registers.HoldsWords
  memory : m.memory.HoldsWords

theorem holdsWords_ofMemorySize (size : Int) : (ofMemorySize size).HoldsWords :=
  ⟨RegisterFile.holdsWords_cleared, DataMemory.holdsWords_ofSize size⟩

/-- Starting over clears every word, whatever was there before. -/
theorem holdsWords_reset (m : Machine) : m.reset.HoldsWords :=
  ⟨RegisterFile.holdsWords_cleared, DataMemory.holdsWords_ofSize m.memory.size⟩

theorem holdsWords_load (m : Machine) (is : List Instruction) : (m.load is).HoldsWords :=
  holdsWords_reset _

namespace HoldsWords

variable {m : Machine}

/-- Carrying out an instruction keeps the invariant, whatever the record asks for. -/
theorem execute (h : m.HoldsWords) {i : Instruction} {effect : Effect}
    (he : m.execute i = .ok effect) : effect.machine.HoldsWords := by
  obtain ⟨v, rfl⟩ | ⟨-, rfl⟩ | ⟨-, rfl⟩ := execute_cases he
  · exact ⟨h.registers.write i.rd v, h.memory⟩
  · exact ⟨h.registers, h.memory.write _ _⟩
  · obtain ⟨pc, hb⟩ | hb := branch_cases m i <;> rw [hb] <;> exact ⟨h.registers, h.memory⟩

/-- **A step keeps the invariant.** -/
theorem next (h : m.HoldsWords) : m.next.HoldsWords := by
  obtain ⟨-, hs⟩ | ⟨-, -, hs⟩ | ⟨i, e, -, -, hs⟩ | ⟨i, effect, -, he, hs⟩ := step_cases m <;>
    rw [Machine.next, hs]
  · exact ⟨h.registers, h.memory⟩
  · exact h
  · exact h
  · have heffect := h.execute he
    exact ⟨by simpa using heffect.registers, by simpa using heffect.memory⟩

end HoldsWords

/-- A step that fails changes nothing. -/
theorem next_of_error {m : Machine} {e : ExecutionError} (h : m.step.2 = .error e) :
    m.next = m := by
  obtain ⟨-, hs⟩ | ⟨-, -, hs⟩ | ⟨i, e, -, -, hs⟩ | ⟨i, effect, -, -, hs⟩ := step_cases m <;>
    rw [hs] at h
  · cases h
  · rw [next, hs]
  · rw [next, hs]
  · cases h

/-- **What a step writes** is what its event tells. -/
theorem HoldsWords.covers_next {m : Machine} (h : m.HoldsWords) {event : StepEvent}
    (hevent : m.step.2 = .ok event) : event.Covers m m.next := by
  obtain ⟨-, hs⟩ | ⟨-, -, hs⟩ | ⟨i, e, -, -, hs⟩ | ⟨i, effect, -, he, hs⟩ := step_cases m <;>
    rw [hs] at hevent
  · cases hevent
    rw [Machine.next, hs]
    exact ⟨fun _ _ => rfl, fun _ _ => rfl, fun _ ha => by cases ha⟩
  · cases hevent
  · cases hevent
  · cases hevent
    rw [Machine.next, hs]
    obtain ⟨v, rfl⟩ | ⟨hin, rfl⟩ | ⟨-, rfl⟩ := execute_cases he
    · -- a register is written, and the memory left alone
      refine ⟨fun r hr => ?_, fun j _ => by rw [memory_settle]; rfl, fun a ha => by cases ha⟩
      rw [registers_settle]
      exact h.registers.read_write_of_ne (fun heq => hr (by rw [heq]; rfl)) v
    · -- a slot is written, and the registers left alone
      refine ⟨fun r _ => by rw [registers_settle], fun j hj => ?_, fun a ha => ?_⟩
      · rw [memory_settle]
        exact DataMemory.slots_write_of_ne hin _ (fun heq => hj (by rw [heq]))
      · cases ha
        exact DataMemory.inRange_iff.mp hin
    · obtain ⟨pc, hb⟩ | hb := branch_cases m i
      all_goals
        refine ⟨fun r _ => ?_, fun j _ => ?_, fun a ha => by cases ha⟩
        · rw [registers_settle, hb]
        · rw [memory_settle, hb]

/-- The machines that a machine with a memory of a size can become: any records are loaded, with
any formats, operation codes and immediates, and steps and resets follow in any order. -/
inductive Reachable (size : Int) : Machine → Prop
  | fresh : Reachable size (ofMemorySize size)
  | load {m : Machine} (is : List Instruction) : Reachable size m → Reachable size (m.load is)
  | step {m : Machine} : Reachable size m → Reachable size m.next
  | reset {m : Machine} : Reachable size m → Reachable size m.reset

namespace Reachable

variable {size : Int} {m : Machine}

theorem holdsWords (h : Reachable size m) : m.HoldsWords := by
  induction h with
  | fresh => exact holdsWords_ofMemorySize size
  | load is _ _ => exact holdsWords_load _ is
  | step _ ih => exact ih.next
  | reset _ _ => exact holdsWords_reset _

/-- Nothing changes the size of the memory. -/
theorem memorySize (h : Reachable size m) : m.memory.size = size := by
  induction h with
  | fresh => rfl
  | load is _ ih => exact ih
  | step _ ih => exact (memorySize_next _).trans ih
  | reset _ ih => exact ih

end Reachable

/-- **The data invariant of the machine.** Whatever records were loaded, and after any steps and
resets, there are thirty-two registers, register 0 is zero, every register and every slot holds a
signed word, and there are as many slots as the size of the memory tells, none if it is negative.
The next step, if it fails, writes nothing; otherwise it writes the register and the slot that its
event names, and no others. -/
theorem words_of_reachable {size : Int} {m : Machine} (h : Reachable size m) :
    m.registers.toList.length = 32 ∧
    m.registers.read .zero = 0 ∧
    (∀ v ∈ m.registers.toList, Word.InRange v) ∧
    (∀ v ∈ m.memory.slots, Word.InRange v) ∧
    (m.memory.slots.size : Int) = max 0 size ∧
    (∀ e, m.step.2 = .error e → m.next = m) ∧
    ∀ event, m.step.2 = .ok event → event.Covers m m.next := by
  have hwords : m.HoldsWords := h.holdsWords
  refine ⟨RegisterFile.length_toList _, hwords.registers.zero, fun v hv => ?_,
    hwords.memory.inRange, ?_, fun e => next_of_error, fun event => hwords.covers_next⟩
  · obtain ⟨r, rfl⟩ := RegisterFile.mem_toList_iff.mp hv
    exact hwords.registers.inRange r
  · rw [← h.memorySize]
    exact hwords.memory.sized.size_slots

/-- Records that no assembler writes: an immediate beyond the signed words, and a store whose
operation code is a branch and whose offset only wraps to an address of the memory. -/
def mismatchedRecords : List Instruction :=
  [⟨.immediate, .addi, 0, [], 1, .framePointer, .zero, .zero, 2147483648⟩,
   ⟨.store, .beq, 4, [], 2, .zero, .framePointer, .framePointer, 2147483652⟩]

/-- The mismatched store writes the wrapped immediate at the wrapped address, and nothing else. -/
theorem words_of_reachable_mismatched :
    let m := ((ofMemorySize 16).load mismatchedRecords).next
    Reachable 16 m ∧
    m.registers.read .framePointer = -2147483648 ∧ m.next.memory.read 4 = -2147483648 ∧
    m.registers.toList.length = 32 ∧ m.registers.read .zero = 0 ∧
    (∀ v ∈ m.registers.toList, Word.InRange v) ∧ (∀ v ∈ m.memory.slots, Word.InRange v) ∧
    (m.memory.slots.size : Int) = max 0 16 ∧ (∀ e, m.step.2 = .error e → m.next = m) ∧
    ∀ event, m.step.2 = .ok event → event.Covers m m.next := by
  intro m
  have hm : Reachable 16 m := (Reachable.fresh.load mismatchedRecords).step
  exact ⟨hm, rfl, rfl, words_of_reachable hm⟩

end Machine

end Monocycle
