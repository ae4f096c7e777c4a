import Monocycle.Proofs.Machine.Assembled
import Monocycle.Proofs.Machine.Words

/-!
# What a load reads

The stores of a run are kept in a log: for each store that was carried out its effective address
and the word of the register it stored, oldest first. A step that is no store, or a store that
fails, leaves the log as it is, and a reset empties it. `Logged start log m` says that a machine
`m` comes from `start` by steps and resets, and `log` is the log of the stores since the last reset.

The memory of such a machine is what replaying its log gives: `Machine.Logged.read_eq`. The log
knows nothing of base registers and offsets, so two of them that give the same address, directly or
after wrapping, name the same slot; and an address is any integer, aligned or not.

## Main definitions

* `Machine.storing?`: the store that the next step carries out.
* `Machine.Logged`: a run of steps and resets with its log.
* `lastStored`: the word at an address after the stores of a log.

## Main results

* `Machine.HoldsWords.read_next`: what one step does to the memory.
* `Machine.Logged.read_eq`: what a whole run does to it.
* `Machine.read_next_of_load`: **a load reads what was last stored** at its address.
-/

namespace Monocycle

/-- A **stored word**: the address of a store and the word it stored there. -/
structure StoredWord where
  address : Int
  value : Int
  deriving DecidableEq

/-! ### Logs of stores -/

/-- The word at an address after the stores of a log, `old` before them. -/
def lastStored (a old : Int) (log : List StoredWord) : Int :=
  log.foldl (fun word stored => if stored.address = a then stored.value else word) old

section

variable {a old : Int} {log : List StoredWord}

@[simp] theorem lastStored_nil : lastStored a old [] = old := rfl

@[simp] theorem lastStored_cons (stored : StoredWord) (log : List StoredWord) :
    lastStored a old (stored :: log) =
      lastStored a (if stored.address = a then stored.value else old) log := rfl

theorem lastStored_append (log later : List StoredWord) :
    lastStored a old (log ++ later) = lastStored a (lastStored a old log) later :=
  List.foldl_append

/-- Stores at other addresses do not disturb a word. -/
theorem lastStored_of_forall_ne (h : ∀ stored ∈ log, stored.address ≠ a) :
    lastStored a old log = old := by
  induction log with
  | nil => rfl
  | cons stored log ih =>
      obtain ⟨hne, hrest⟩ := List.forall_mem_cons.mp h
      rw [lastStored_cons, if_neg hne, ih hrest]

/-- A word is that of the last store at its address. -/
theorem lastStored_of_last {v : Int} {before after : List StoredWord}
    (h : ∀ stored ∈ after, stored.address ≠ a) :
    lastStored a old (before ++ ⟨a, v⟩ :: after) = v := by
  rw [lastStored_append, lastStored_cons, if_pos rfl, lastStored_of_forall_ne h]

end

namespace Machine

/-! ### Loads and stores -/

/-- A load writes what is read at its effective address. -/
theorem execute_of_load {m : Machine} {i : Instruction} (hformat : i.format = .immediate)
    (hload : i.op = .lw) :
    m.execute i = .ok (m.writeBack i.rd (m.memory.read (m.effectiveAddress i))) := by
  simp [execute, hformat, hload]

/-- A store that is carried out has its address in the memory, and writes there. -/
theorem memory_execute_of_store {m : Machine} {i : Instruction} {effect : Effect}
    (hformat : i.format = .store) (he : m.execute i = .ok effect) :
    m.memory.inRange (m.effectiveAddress i) = true ∧
      effect.machine.memory =
        m.memory.write (m.effectiveAddress i) (m.registers.read i.rs2) := by
  simp only [execute, hformat] at he
  split at he
  · next hin =>
      cases he
      exact ⟨hin, rfl⟩
  · cases he

/-- Only a store touches the memory. -/
theorem memory_execute_of_ne_store {m : Machine} {i : Instruction} {effect : Effect}
    (hformat : i.format ≠ .store) (he : m.execute i = .ok effect) :
    effect.machine.memory = m.memory := by
  rw [execute] at he
  split at he
  case h_1 => cases he; rfl
  case h_2 => split at he <;> cases he <;> rfl
  case h_3 hstore => exact absurd hstore hformat
  case h_4 =>
    cases he
    obtain ⟨pc, hb⟩ | hb := branch_cases m i <;> rw [hb]
  case h_5 => cases he

/-- The **store that the next step carries out**, if it carries one out: its effective address, and
the word that its second register holds. -/
def storing? (m : Machine) : Option StoredWord :=
  match m.fetch? with
  | some i =>
    if i.format = .store ∧ m.outcome.isExecuted = true then
      some ⟨m.effectiveAddress i, m.registers.read i.rs2⟩
    else none
  | none => none

/-- **What one step does to the memory**: it stores a word, or leaves every word alone. -/
theorem HoldsWords.read_next {m : Machine} (h : m.HoldsWords) (a : Int) :
    m.next.memory.read a = lastStored a (m.memory.read a) m.storing?.toList := by
  obtain ⟨hr, hs⟩ | ⟨-, hf, hs⟩ | ⟨i, e, hf, -, hs⟩ | ⟨i, effect, hf, he, hs⟩ := step_cases m
  · have hf : m.fetch? = none := by simp [fetch?, hr]
    simp [Machine.next, hs, storing?, hf]
  · simp [Machine.next, hs, storing?, hf]
  · -- a step that fails is no store, and changes nothing
    simp [Machine.next, hs, storing?, hf, outcome, StepOutcome.isExecuted]
  · obtain ⟨hnext, hout⟩ := step_of_execute hf he
    rw [hnext, memory_settle]
    by_cases hformat : i.format = .store
    · obtain ⟨hin, hmemory⟩ := memory_execute_of_store hformat he
      rw [hmemory, h.memory.sized.read_write hin, Word.wrap_of_inRange (h.registers.inRange i.rs2)]
      simp [storing?, hf, hformat, hout, StepOutcome.isExecuted, eq_comm]
    · rw [memory_execute_of_ne_store hformat he]
      simp [storing?, hf, hformat]

/-! ### Runs with their logs -/

/-- A **logged run**: steps and resets from a machine on, with the stores since the last reset. -/
inductive Logged (start : Machine) : List StoredWord → Machine → Prop
  | start : Logged start [] start
  | step {log : List StoredWord} {m : Machine} :
      Logged start log m → Logged start (log ++ m.storing?.toList) m.next
  | reset {log : List StoredWord} {m : Machine} : Logged start log m → Logged start [] m.reset

namespace Logged

variable {start m : Machine} {log : List StoredWord}

/-- A run of a machine that holds words leads to such machines. -/
theorem holdsWords (h : Logged start log m) (hstart : start.HoldsWords) : m.HoldsWords := by
  induction h with
  | start => exact hstart
  | step _ ih => exact ih.next
  | reset _ _ => exact holdsWords_reset _

/-- A run goes on with the program. -/
theorem runs {p : Program} {size : Int} (h : Logged start log m) (hstart : Runs p size start) :
    Runs p size m := by
  induction h with
  | start => exact hstart
  | step _ ih => exact ih.next
  | reset _ ih => exact ⟨ih.program, ih.size, controlled_reset _⟩

/-- **The memory is the replay of the log**, if it was empty at the start. -/
theorem read_eq (h : Logged start log m) (hstart : start.HoldsWords)
    (hempty : ∀ a, start.memory.read a = 0) (a : Int) :
    m.memory.read a = lastStored a 0 log := by
  induction h with
  | start => exact hempty a
  | step h ih => rw [(h.holdsWords hstart).read_next, ih, lastStored_append]
  | reset _ _ => exact DataMemory.read_ofSize _ a

end Logged

/-- A record of an assembled program that loads is in the immediate format. -/
theorem format_of_load {source : Text} {p : Program} (hassemble : assemble source = .ok p)
    {i : Instruction} (hi : i ∈ p.instructions) (hload : i.op = .lw) : i.format = .immediate := by
  have hfits : i.FitsFormat := (wellFormed_of_mem hassemble hi).fitsFormat
  rw [Instruction.FitsFormat, hload] at hfits
  split at hfits
  · exact absurd hfits.1 (by decide)
  · assumption
  · exact absurd hfits.1 (by decide)
  · exact absurd hfits.1 (by decide)
  · exact hfits.elim

/-- **A load reads what was last stored at its address.** A program is loaded into any machine, and
steps and resets follow. A load that is then fetched is carried out, and leaves in its register the
word of the most recent store at its effective address, whatever stores at other addresses came
after it; where there was no such store, or the address is outside the memory, it leaves zero. -/
theorem read_next_of_load {source : Text} {p : Program} (hassemble : assemble source = .ok p)
    {m₀ m : Machine} {log : List StoredWord} (hlog : Logged (m₀.load p.instructions) log m)
    {i : Instruction} (hfetch : m.fetch? = some i) (hload : i.op = .lw) (hrd : i.rd ≠ .zero) :
    let a := Word.wrap (m.registers.read i.rs1 + i.imm)
    let result := m.next.registers.read i.rd
    m.outcome = .executed i.index ∧
    (∀ before v after, log = before ++ ⟨a, v⟩ :: after →
      (∀ stored ∈ after, stored.address ≠ a) → result = v) ∧
    ((∀ stored ∈ log, stored.address ≠ a) → result = 0) ∧
    (¬(0 ≤ a ∧ a < m₀.memory.size) → result = 0) := by
  intro a result
  have hruns : Runs p m₀.memory.size m := hlog.runs (Runs.load m₀ p)
  have hwords : m.HoldsWords := hlog.holdsWords (holdsWords_load m₀ _)
  obtain ⟨hi, -⟩ := (hruns.fetch?_eq_some_iff hassemble).mp hfetch
  obtain ⟨hnext, hout⟩ :=
    step_of_execute hfetch (execute_of_load (format_of_load hassemble hi hload) hload)
  have hresult : result = m.memory.read a := by
    have hne : ¬(i.rd = 0) := hrd
    simp only [result, hnext, registers_settle, writeBack, RegisterFile.read_write, if_neg hne,
      if_pos]
    exact Word.wrap_of_inRange (hwords.memory.inRange_read a)
  have hreplay : result = lastStored a 0 log :=
    hresult.trans (hlog.read_eq (holdsWords_load m₀ _) (DataMemory.read_ofSize _) a)
  refine ⟨hout, fun before v after heq hafter => ?_, fun hnone => ?_, fun houtside => ?_⟩
  · rw [hreplay, heq, lastStored_of_last hafter]
  · rw [hreplay, lastStored_of_forall_ne hnone]
  · have hrange : m.memory.inRange a = false := by
      rw [← hruns.size] at houtside
      exact Bool.eq_false_iff.mpr fun hin => houtside (DataMemory.inRange_iff.mp hin)
    rw [hresult, DataMemory.read, hrange]
    rfl

/-- A program that stores through a base and an offset whose sum wraps to address 0, and loads from
there through register 0. -/
def wrappingStore : Text :=
  "addi x1, x0, -2147483648\nsw x1, -2147483648(x1)\nlw x5, 0(x0)".toList

/-- The load of that program finds the word. -/
theorem read_next_of_load_wrappingStore :
    ∃ p, assemble wrappingStore = .ok p ∧
      let start := (ofMemorySize 16).load p.instructions
      Logged start [⟨0, -2147483648⟩] start.next.next ∧
      ∃ i, start.next.next.fetch? = some i ∧ i.op = .lw ∧ i.rd ≠ .zero ∧
        start.next.next.outcome = .executed i.index ∧
        start.next.next.next.registers.read i.rd = -2147483648 := by
  obtain ⟨p, hassemble, i, hlog, hfetch, hload, hrd, ha⟩ :
      ∃ p, assemble wrappingStore = .ok p ∧ ∃ i,
        let start := (ofMemorySize 16).load p.instructions
        start.storing?.toList ++ start.next.storing?.toList = [⟨0, -2147483648⟩] ∧
        start.next.next.fetch? = some i ∧ i.op = .lw ∧ i.rd ≠ .zero ∧
        Word.wrap (start.next.next.registers.read i.rs1 + i.imm) = 0 :=
    ⟨_, rfl, _, by decide, rfl, rfl, by decide, by decide⟩
  have hrun : Logged ((ofMemorySize 16).load p.instructions) [⟨0, -2147483648⟩]
      ((ofMemorySize 16).load p.instructions).next.next := by
    rw [← hlog]
    exact Logged.start.step.step
  obtain ⟨hout, hlast, -, -⟩ := read_next_of_load hassemble hrun hfetch hload hrd
  exact ⟨p, hassemble, hrun, i, hfetch, hload, hrd, hout,
    hlast [] (-2147483648) [] (by rw [ha]; rfl) (by simp)⟩

end Machine

end Monocycle
