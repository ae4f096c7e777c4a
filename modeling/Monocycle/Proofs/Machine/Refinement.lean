import Monocycle.Proofs.Assembly.Records
import Monocycle.Proofs.Machine.Control
import Monocycle.Proofs.Machine.Reference

/-!
# Refinement of the reference machine

The machine computes on integers that it wraps to signed words; the reference machine computes on
vectors of 32 bits. Read as bits, the one goes through the states of the other, step by step and
for runs of any length, and the two report the same at every step.

The relation between the two is `Simulates`: program counters and counts are equal, registers and
memory hold the signed readings of the vectors, and the machine is halted exactly if the reference
machine is. One instruction keeps the data (`Agrees.execute`), one step keeps the whole relation
and gives equal reports (`Simulates.step`), and a run follows by induction on its length.

## Main results

* `exists_reads`: every record the assembler makes has a reading on the reference machine.
* `Simulates.step`: one step of both machines.
* `ofMachine_iterate_next`: **an assembled program runs as on the reference machine.**
-/

namespace Monocycle.Reference

/-! ### The machine read as bits -/

/-- The **reading of a machine as bits**. -/
def State.ofMachine (m : Machine) : State :=
  ⟨m.pc, fun r => .ofInt 32 (m.registers.read r), fun a => .ofInt 32 (m.memory.read a),
    m.isHalted, m.executed⟩

/-- What an outcome reports. -/
def Report.ofOutcome : StepOutcome → Report
  | .executed _ => .executed
  | .halted => .halted
  | .failed _ => .failed

/-- A program and its **reading**: record by record the instructions of the reference machine. -/
def Reads (is : List Instruction) (code : List Instr) : Prop :=
  is.map Instr.ofRecord? = code.map some

/-! ### Every assembled record has a reading -/

/-- Whether the records of a shape have a reading on the reference machine. -/
def isReadable : Shape → Bool
  | .register code => (registerOp? code).isSome
  | .immediate code => code != .lw && (immediateOp? code).isSome
  | .load | .store => true
  | .branch code => (branchCondition? code).isSome

/-- The shapes of all mnemonics are readable. -/
theorem isReadable_of_mem_mnemonics : ∀ entry ∈ mnemonics, isReadable entry.2 = true := by
  decide

/-- What the operands of a readable shape settle has a reading, whatever the other fields are. -/
theorem exists_ofRecord? {shape : Shape} (h : isReadable shape = true) {d : Decoded}
    (hd : d.Fits shape) (address : Int) (text : Text) (line : Nat) :
    ∃ r, Instr.ofRecord? ⟨d.format, d.op, address, text, line, d.rd, d.rs1, d.rs2, d.imm⟩ =
      some r := by
  cases hd with
  | register code rd rs1 rs2 =>
      obtain ⟨f, hf⟩ := Option.isSome_iff_exists.mp h
      exact ⟨.op f rd rs1 rs2, by simp [Instr.ofRecord?, hf]⟩
  | immediate code rd rs1 imm =>
      simp only [isReadable, Bool.and_eq_true, bne_iff_ne] at h
      obtain ⟨f, hf⟩ := Option.isSome_iff_exists.mp h.2
      exact ⟨.opImm f rd rs1 (.ofInt 32 imm), by simp [Instr.ofRecord?, hf, h.1]⟩
  | load rd base offset => exact ⟨.load rd base (.ofInt 32 offset), rfl⟩
  | store value base offset => exact ⟨.store value base (.ofInt 32 offset), rfl⟩
  | branch code rs1 rs2 imm =>
      obtain ⟨c, hc⟩ := Option.isSome_iff_exists.mp h
      exact ⟨.branch c rs1 rs2 imm, by simp [Instr.ofRecord?, hc]⟩

/-- **An assembled program has a reading** on the reference machine. -/
theorem exists_reads {source : Text} {p : Program} (h : assemble source = .ok p) :
    ∃ code, Reads p.instructions code := by
  have hall : ∀ i ∈ p.instructions, ∃ r, Instr.ofRecord? i = some r := by
    intro i hi
    obtain ⟨line, -, a, hdecode⟩ := exists_decode_of_mem h hi
    obtain ⟨word, operands, shape, d, -, hshape, hd, rfl⟩ := decode_eq_ok_iff.mp hdecode
    obtain ⟨name, hmem, -⟩ := Shape.exists_mem_mnemonics hshape
    exact exists_ofRecord? (isReadable_of_mem_mnemonics _ hmem) (fits_of_decodeOperands hd) a
      line.text line.number
  simp only [Reads]
  generalize p.instructions = is at hall
  induction is with
  | nil => exact ⟨[], rfl⟩
  | cons i rest ih =>
      obtain ⟨r, hr⟩ := hall i List.mem_cons_self
      obtain ⟨code, hcode⟩ := ih fun j hj => hall j (List.mem_cons_of_mem _ hj)
      exact ⟨r :: code, by rw [List.map_cons, List.map_cons, hr, hcode]⟩

/-- A program and its reading are equally long. -/
theorem Reads.length_eq {is : List Instruction} {code : List Instr} (h : Reads is code) :
    is.length = code.length := by
  simpa using congrArg List.length h

/-- The instruction at a position is the reading of the record there. -/
theorem Reads.getElem? {is : List Instruction} {code : List Instr} (h : Reads is code) {k : Nat}
    {i : Instruction} (hi : is[k]? = some i) :
    ∃ r, code[k]? = some r ∧ Instr.ofRecord? i = some r := by
  have hk := congrArg (·[k]?) h
  simp only [List.getElem?_map, hi, Option.map_some] at hk
  cases hr : code[k]? with
  | none => simp [hr] at hk
  | some r => exact ⟨r, rfl, by simpa [hr] using hk⟩

/-! ### One instruction -/

/-- The **data agree**: program counters are equal, and registers and memory of the machine hold
the signed readings of the vectors. Register 0 is zero on both sides. -/
structure Agrees (m : Machine) (s : State) : Prop where
  pc : m.pc = s.pc
  zero : s.registers 0 = 0
  registers (r : Register) : m.registers.read r = (s.registers r).toInt
  memory (a : Int) : m.memory.read a = (s.memory a).toInt

namespace Agrees

variable {m : Machine} {s : State}

/-- Both machines form the same address. -/
theorem effectiveAddress (h : Agrees m s) (i : Instruction) :
    m.effectiveAddress i = s.address i.rs1 (.ofInt 32 i.imm) := by
  rw [Machine.effectiveAddress, State.address, Word.wrap_eq_toInt, Word.bits_add, h.registers,
    Word.bits_toInt]
  rfl

/-- Both machines write the same register, and neither writes register 0. -/
theorem writeBack (h : Agrees m s) (rd : Register) (x : BitVec 32) :
    Agrees (m.writeBack rd x.toInt).machine (s.writeRegister rd x) where
  pc := congrArg (· + 4) h.pc
  memory a := h.memory a
  zero := by
    rw [State.registers_writeRegister]
    split
    · exact h.zero
    · next hrd => rw [if_neg (Ne.symm hrd), h.zero]
  registers r := by
    have hwrap : Word.wrap x.toInt = x.toInt := by rw [Word.wrap_eq_toInt, Word.bits_toInt]
    have hzero : (s.registers 0).toInt = 0 := by rw [h.zero]; rfl
    simp only [Machine.writeBack, RegisterFile.read_write, State.registers_writeRegister, hwrap]
    by_cases hr : r = 0
    · subst hr
      by_cases hrd : rd = 0
      · rw [if_pos rfl, if_pos hrd, hzero]
      · rw [if_pos rfl, if_neg hrd, if_neg (Ne.symm hrd), hzero]
    · by_cases hrd : rd = 0
      · have hne : r ≠ rd := fun heq => hr (heq.trans hrd)
        rw [if_neg hr, if_neg hne, if_pos hrd, h.registers]
      · rw [if_neg hr, if_neg hrd]
        split
        · rfl
        · exact h.registers r

/-- Both machines store to the same slot. -/
theorem write (h : Agrees m s) (hsized : m.memory.Sized) {a : Int}
    (hin : m.memory.inRange a = true) (x : BitVec 32) :
    Agrees { m with memory := m.memory.write a x.toInt, pc := m.pc + 4 }
      { s with memory := Function.update s.memory a x, pc := s.pc + 4 } where
  pc := congrArg (· + 4) h.pc
  zero := h.zero
  registers := h.registers
  memory other := by
    have hwrap : Word.wrap x.toInt = x.toInt := by rw [Word.wrap_eq_toInt, Word.bits_toInt]
    rw [hsized.read_write hin, hwrap]
    by_cases heq : other = a
    · simp [heq]
    · simp [heq, h.memory]

/-- Both machines load the same word, zero outside the memory. -/
theorem read (h : Agrees m s) (a : Int) :
    m.memory.read a = (if 0 ≤ a ∧ a < m.memory.size then s.memory a else 0).toInt := by
  by_cases hin : 0 ≤ a ∧ a < m.memory.size
  · rw [if_pos hin, h.memory]
  · have hout : m.memory.inRange a = false := by
      simpa only [Bool.not_eq_true] using mt DataMemory.inRange_iff.mp hin
    rw [if_neg hin, DataMemory.read, hout]
    rfl

/-- Moving both program counters to one place keeps the agreement. -/
theorem jump (h : Agrees m s) (pc : Int) (phase : Phase) :
    Agrees { m with pc := pc, phase := phase } { s with pc := pc } :=
  ⟨rfl, h.zero, h.registers, h.memory⟩

end Agrees

/-- The operation of a code in register form is the one the arithmetic unit performs. -/
theorem result_of_registerOp? {op : Opcode} {f : Arith} (h : registerOp? op = some f) (a b : Int) :
    op.result a b = (f.onBits (Word.bits a) (Word.bits b)).toInt := by
  have harith : op.arith? = some f := by
    cases op <;> simp_all [registerOp?, Opcode.arith?]
  simp [Opcode.result, harith, Arith.eval_eq_onBits]

/-- The operation of a code in immediate form is the one the arithmetic unit performs. -/
theorem result_of_immediateOp? {op : Opcode} {f : Arith} (h : immediateOp? op = some f)
    (a b : Int) : op.result a b = (f.onBits (Word.bits a) (Word.bits b)).toInt := by
  have harith : op.arith? = some f := by
    cases op <;> simp_all [immediateOp?, Opcode.arith?]
  simp [Opcode.result, harith, Arith.eval_eq_onBits]

/-- The condition of a branch code is the one the branch unit tests. -/
theorem taken_of_branchCondition? {op : Opcode} {c : Comparison} (h : branchCondition? op = some c)
    (a b : Int) : op.taken a b = c.onBits (Word.bits a) (Word.bits b) := by
  have hcomparison : op.comparison? = some c := by
    cases op <;> simp_all [branchCondition?, Opcode.comparison?]
  simp [Opcode.taken, hcomparison, Comparison.holds_eq_onBits]

/-- A branch leads both machines to the same place. -/
theorem Agrees.branch {m : Machine} {s : State} (h : Agrees m s) {i : Instruction} {c : Comparison}
    (hc : branchCondition? i.op = some c) (size : Int) :
    ∃ after, s.exec? m.program.size size (.branch c i.rs1 i.rs2 i.imm) = some after ∧
      Agrees (m.branch i) after := by
  have htaken : m.branchTaken i = c.onBits (s.registers i.rs1) (s.registers i.rs2) := by
    rw [Machine.branchTaken, taken_of_branchCondition? hc, h.registers, h.registers,
      Word.bits_toInt, Word.bits_toInt]
  simp only [State.exec?, Machine.branch, htaken]
  split
  · -- taken: over no distance to the end of the program, else to the target
    refine ⟨_, rfl, ?_⟩
    by_cases himm : i.imm = 0
    · have hend : m.endPc = 4 * m.program.size := by
        rw [Machine.endPc, Int.mul_comm]
      simp only [himm, Int.add_zero, if_true, hend]
      exact h.jump _ _
    · have htarget : s.pc + i.imm ≠ s.pc := by omega
      simp only [himm, htarget, if_false, h.pc]
      exact h.jump _ _
  · refine ⟨_, rfl, ?_⟩
    simp only [h.pc]
    exact h.jump _ _

/-- What carrying out an instruction comes to on both machines: both fail, or both succeed with
data that agree. -/
def Matches : Except ExecutionError Machine.Effect → Option State → Prop
  | .ok effect, some s => Agrees effect.machine s
  | .error _, none => True
  | _, _ => False

namespace Matches

/-- Where the machine fails, the reference machine fails. -/
theorem eq_none {e : ExecutionError} {s? : Option State} (h : Matches (.error e) s?) :
    s? = none := by
  cases s? with
  | none => rfl
  | some s => exact h.elim

/-- Where the machine succeeds, the reference machine succeeds with data that agree. -/
theorem exists_eq_some {effect : Machine.Effect} {s? : Option State} (h : Matches (.ok effect) s?) :
    ∃ s, s? = some s ∧ Agrees effect.machine s := by
  cases s? with
  | none => exact h.elim
  | some s => exact ⟨s, rfl, h⟩

end Matches

/-- **One instruction**: its record on the machine and its reading on the reference machine either
both fail or lead to data that agree. -/
theorem Agrees.execute {m : Machine} {s : State} (h : Agrees m s) (hsized : m.memory.Sized)
    {i : Instruction} {r : Instr} (hr : Instr.ofRecord? i = some r) :
    Matches (m.execute i) (s.exec? m.program.size m.memory.size r) := by
  rw [Instr.ofRecord?] at hr
  split at hr
  case h_1 hformat =>
    obtain ⟨f, hf, rfl⟩ := Option.map_eq_some_iff.mp hr
    simp only [Machine.execute, hformat, State.exec?, result_of_registerOp? hf, h.registers,
      Word.bits_toInt]
    exact h.writeBack i.rd _
  case h_2 hformat =>
    split at hr
    · next hlw =>
        cases hr
        simp only [Machine.execute, hformat, hlw, if_true, State.exec?, h.effectiveAddress, h.read]
        exact h.writeBack i.rd _
    · next hlw =>
        obtain ⟨f, hf, rfl⟩ := Option.map_eq_some_iff.mp hr
        simp only [Machine.execute, hformat, hlw, if_false, State.exec?,
          result_of_immediateOp? hf, h.registers, Word.bits_toInt]
        exact h.writeBack i.rd _
  case h_3 hformat =>
    split at hr
    · next hsw =>
        cases hr
        simp only [Machine.execute, hformat, State.exec?, h.effectiveAddress]
        by_cases hin : m.memory.inRange (s.address i.rs1 (.ofInt 32 i.imm)) = true
        · rw [if_pos hin, if_pos (DataMemory.inRange_iff.mp hin), h.registers]
          exact h.write hsized hin _
        · rw [if_neg hin, if_neg (mt DataMemory.inRange_iff.mpr hin)]
          trivial
    · simp at hr
  case h_4 hformat =>
    obtain ⟨c, hc, rfl⟩ := Option.map_eq_some_iff.mp hr
    obtain ⟨after, hafter, hagrees⟩ := h.branch hc m.memory.size
    simp only [Machine.execute, hformat, hafter]
    exact hagrees
  case h_5 => simp at hr

/-! ### Steps and runs -/

/-- The **simulation relation** between a machine and the reference machine on one program: the
data agree, and so do the halted flags and the counts. On the side of the machine it carries what
makes this an invariant: its program is the one that the code reads, its memory has its slots, and
its phase is in order. -/
structure Simulates (code : List Instr) (size : Int) (m : Machine) (s : State) : Prop where
  agrees : Agrees m s
  halted : m.isHalted = s.halted
  executed : m.executed = s.executed
  reads : Reads m.program.toList code
  size : m.memory.size = size
  sized : m.memory.Sized
  controlled : m.Controlled

namespace Simulates

variable {code : List Instr} {size : Int} {m : Machine} {s : State}

/-- A program that starts over simulates the reference machine in its initial state. -/
theorem load {is : List Instruction} (h : Reads is code) (m : Machine) :
    Simulates code m.memory.size (m.load is) .initial where
  agrees :=
    { pc := rfl
      zero := rfl
      registers := fun r => by simp [Machine.load, Machine.reset, State.initial]
      memory := fun a => by
        simp [Machine.load, Machine.reset, State.initial, DataMemory.cleared] }
  halted := by
    simp only [Machine.isHalted, Machine.load, Machine.reset, State.initial]
    split <;> rfl
  executed := rfl
  reads := by simpa [Machine.load, Machine.reset] using h
  size := rfl
  sized := DataMemory.sized_ofSize _
  controlled := Machine.controlled_load m is

/-- The two programs are equally long. -/
theorem length_eq (h : Simulates code size m s) : m.program.size = code.length := by
  simpa using h.reads.length_eq

/-- Both machines are inside their programs, or neither is. -/
theorem isInside_eq (h : Simulates code size m s) : s.isInside code.length = m.pcInRange := by
  rw [State.isInside, Machine.pcInRange, Machine.endPc, h.agrees.pc, h.length_eq, Int.mul_comm]

/-- Where the machine fetches a record, the reference machine carries out its reading. -/
theorem bind_exec?_eq (h : Simulates code size m s) {i : Instruction}
    (hfetch : m.fetch? = some i) :
    s.isInside code.length = true ∧ s.pc % 4 = 0 ∧ ∃ r, Instr.ofRecord? i = some r ∧
      code[(s.pc / 4).toNat]?.bind (s.exec? code.length size) =
        s.exec? m.program.size m.memory.size r := by
  obtain ⟨hin, haligned, hi⟩ := Machine.fetch?_eq_some_iff.mp hfetch
  rw [← Array.getElem?_toList] at hi
  obtain ⟨r, hr, hread⟩ := h.reads.getElem? hi
  rw [h.agrees.pc] at haligned hr
  exact ⟨h.isInside_eq.trans hin, haligned, r, hread, by
    rw [hr, h.length_eq, h.size, Option.bind_some]⟩

/-- Outside the program both machines halt. -/
theorem halt (h : Simulates code size m s)
    (hcontrolled : Machine.Controlled { m with phase := .halted }) :
    Simulates code size { m with phase := .halted } { s with halted := true } where
  agrees := ⟨h.agrees.pc, h.agrees.zero, h.agrees.registers, h.agrees.memory⟩
  halted := rfl
  executed := h.executed
  reads := h.reads
  size := h.size
  sized := h.sized
  controlled := hcontrolled

/-- After an instruction was carried out, both machines count it, and both halt if it has led out
of the program. -/
theorem settle (h : Simulates code size m s) {i : Instruction} {effect : Machine.Effect}
    (he : m.execute i = .ok effect) {after : State} (hagrees : Agrees effect.machine after)
    (hcontrolled : (m.settle effect).Controlled) :
    Simulates code size (m.settle effect)
      { after with
        executed := s.executed + 1
        halted := !after.isInside code.length } where
  agrees :=
    { pc := (Machine.pc_settle m effect).trans hagrees.pc
      zero := hagrees.zero
      registers := fun r => by rw [Machine.registers_settle, hagrees.registers]
      memory := fun a => by rw [Machine.memory_settle, hagrees.memory] }
  halted := by
    have hprogram : effect.machine.program.size = code.length := by
      rw [Machine.program_execute he, h.length_eq]
    have hinside : after.isInside code.length = effect.machine.pcInRange := by
      rw [State.isInside, Machine.pcInRange, Machine.endPc, hagrees.pc, hprogram, Int.mul_comm]
    have hrange : (m.settle effect).pcInRange = effect.machine.pcInRange :=
      Machine.pcInRange_congr (Machine.pc_settle m effect) (Machine.program_settle m effect)
    cases hr : effect.machine.pcInRange with
    | true =>
        have hready := hcontrolled.ready_of_pcInRange (hrange.trans hr)
        simp [Machine.isHalted, hready, hinside, hr]
    | false => simp [Machine.isHalted, Machine.phase_settle, hinside, hr]
  executed := by rw [Machine.executed_settle, h.executed]
  reads := by rw [Machine.program_settle, Machine.program_execute he]; exact h.reads
  size := by rw [Machine.memory_settle, Machine.memorySize_execute he, h.size]
  sized := by rw [Machine.memory_settle]; exact Machine.sized_execute he h.sized
  controlled := hcontrolled

/-- **One step** of both machines keeps the simulation, and they report the same. -/
theorem step (h : Simulates code size m s) :
    Simulates code size m.next (s.step code size).1 ∧
      Report.ofOutcome m.outcome = (s.step code size).2 := by
  have hcontrolled := h.controlled.next
  obtain ⟨hr, hs⟩ | ⟨hr, hf, hs⟩ | ⟨i, e, hf, he, hs⟩ | ⟨i, effect, hf, he, hs⟩ :=
    Machine.step_cases m
  · -- outside the program both machines halt
    have hstep : s.step code size = ({ s with halted := true }, .halted) := by
      simp [State.step, h.isInside_eq, hr]
    have hnext : m.next = { m with phase := .halted } := by rw [Machine.next, hs]
    have hout : m.outcome = .halted := by rw [Machine.outcome, hs]
    rw [hnext] at hcontrolled
    rw [hstep, hnext, hout]
    exact ⟨h.halt hcontrolled, rfl⟩
  · -- between two instructions both fail
    have haligned : ¬s.pc % 4 = 0 := by
      rw [← h.agrees.pc]
      exact (Machine.fetch?_eq_none_iff hr).mp hf
    have hstep : s.step code size = (s, .failed) := by
      simp [State.step, h.isInside_eq, hr, haligned]
    have hnext : m.next = m := by rw [Machine.next, hs]
    have hout : m.outcome = .failed (.noInstruction m.pc) := by rw [Machine.outcome, hs]
    rw [hstep, hnext, hout]
    exact ⟨h, rfl⟩
  · -- an instruction that cannot be carried out fails on both
    obtain ⟨hin, haligned, r, hread, hexec⟩ := h.bind_exec?_eq hf
    have hmatch := h.agrees.execute h.sized hread
    rw [he] at hmatch
    have hnone := hmatch.eq_none
    have hstep : s.step code size = (s, .failed) := by
      simp [State.step, hin, haligned, hexec, hnone]
    have hnext : m.next = m := by rw [Machine.next, hs]
    have hout : m.outcome = .failed e := by rw [Machine.outcome, hs]
    rw [hstep, hnext, hout]
    exact ⟨h, rfl⟩
  · -- an instruction that is carried out leads to data that agree
    obtain ⟨hin, haligned, r, hread, hexec⟩ := h.bind_exec?_eq hf
    have hmatch := h.agrees.execute h.sized hread
    rw [he] at hmatch
    obtain ⟨after, hafter, hagrees⟩ := hmatch.exists_eq_some
    have hstep : s.step code size = ({ after with
        executed := s.executed + 1
        halted := !after.isInside code.length }, .executed) := by
      simp [State.step, hin, haligned, hexec, hafter]
    have hnext : m.next = m.settle effect := by rw [Machine.next, hs]
    have hout : m.outcome = .executed i.index := by rw [Machine.outcome, hs]
    rw [hnext] at hcontrolled
    rw [hstep, hnext, hout]
    exact ⟨h.settle he hagrees hcontrolled, rfl⟩

/-- A run of both machines keeps the simulation. -/
theorem iterate (h : Simulates code size m s) (n : Nat) :
    Simulates code size (Machine.next^[n] m) ((fun s => (s.step code size).1)^[n] s) := by
  induction n with
  | zero => exact h
  | succ n ih =>
      rw [Function.iterate_succ_apply', Function.iterate_succ_apply']
      exact ih.step.1

/-- Read as bits, the machine is in the state it simulates. -/
theorem ofMachine_eq (h : Simulates code size m s) : State.ofMachine m = s := by
  have hregisters : (fun r => BitVec.ofInt 32 (m.registers.read r)) = s.registers := by
    funext r
    rw [h.agrees.registers, BitVec.ofInt_toInt]
  have hmemory : (fun a => BitVec.ofInt 32 (m.memory.read a)) = s.memory := by
    funext a
    rw [h.agrees.memory, BitVec.ofInt_toInt]
  rw [State.ofMachine, h.agrees.pc, h.halted, h.executed, hregisters, hmemory]

end Simulates

/-- **An assembled program runs as on the reference machine.** Whatever machine the program of a
source is loaded into, after any number of steps the machine, read as bits, is in the state of the
reference machine after as many steps, and the next step of both reports the same. -/
theorem ofMachine_iterate_next {source : Text} {p : Program} (h : assemble source = .ok p) :
    ∃ code, Reads p.instructions code ∧ ∀ (m : Machine) (n : Nat),
      State.ofMachine (Machine.next^[n] (m.load p.instructions)) =
        State.run code m.memory.size n ∧
      Report.ofOutcome (Machine.next^[n] (m.load p.instructions)).outcome =
        ((State.run code m.memory.size n).step code m.memory.size).2 := by
  obtain ⟨code, hreads⟩ := exists_reads h
  refine ⟨code, hreads, fun m n => ?_⟩
  have hsim := (Simulates.load hreads m).iterate n
  exact ⟨hsim.ofMachine_eq, hsim.step.2⟩

/-- A program that wraps an address, stores inside the memory and then outside of it. -/
theorem ofMachine_iterate_next_store :
    ∃ p, assemble "addi x1, x0, -1\nsrli x2, x1, 31\nsw x1, 3(x2)\nsw x1, 0(x1)".toList = .ok p ∧
      ∃ code, Reads p.instructions code ∧
        State.ofMachine (Machine.next^[3] ((Machine.ofMemorySize 16).load p.instructions)) =
          State.run code 16 3 ∧
        Report.ofOutcome (Machine.next^[3] ((Machine.ofMemorySize 16).load p.instructions)).outcome =
          ((State.run code 16 3).step code 16).2 := by
  obtain ⟨p, hp⟩ : ∃ p, assemble
      "addi x1, x0, -1\nsrli x2, x1, 31\nsw x1, 3(x2)\nsw x1, 0(x1)".toList = .ok p := ⟨_, rfl⟩
  obtain ⟨code, hreads, hrun⟩ := ofMachine_iterate_next hp
  exact ⟨p, hp, code, hreads, hrun (Machine.ofMemorySize 16) 3⟩

end Monocycle.Reference
