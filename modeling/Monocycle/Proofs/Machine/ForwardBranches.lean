import Monocycle.Proofs.Machine.Assembled
import Monocycle.Proofs.Machine.Run
import Monocycle.Proofs.Machine.Stretch

/-!
# Programs that branch only forward

Nothing in the text of a program bounds the number of its steps, but a program without a backward
branch comes to an end: every instruction that is carried out takes the program counter further.
Instructions stand four bytes apart, and so the machine can carry out no more of them than there
are.

A branch need not go to an instruction. A branch forward by a distance that is no multiple of four
may take the program counter a single byte further, and then no instruction is found there. The
invariant `Machine.Ahead` leaves room for this: the program counter lags three bytes behind at
most.

## Main definitions

* `Program.BranchesForward`: no branch of the program goes back.
* `Machine.Ahead`: the program counter is ahead of the executed instructions.

## Main results

* `Machine.Runs.ahead_next`, `Machine.Runs.ahead_iterate_next`: steps keep the program counter
  ahead.
* `Machine.stretch_le_of_branchesForward`: a program that branches only forward has a bounded
  stretch.
* `Machine.exists_not_isExecuted_of_branchesForward`: it comes to a step that carries nothing out.
-/

namespace Monocycle

/-- A program **branches only forward** if no branch of it has a negative distance. -/
def Program.BranchesForward (p : Program) : Prop :=
  ∀ i ∈ p.instructions, i.format = .branch → 0 ≤ i.imm

/-- A program that does not branch only forward has a branch that goes back. -/
theorem Program.exists_of_not_branchesForward {p : Program} (h : ¬p.BranchesForward) :
    ∃ i ∈ p.instructions, i.format = .branch ∧ i.imm < 0 := by
  simp only [BranchesForward, not_forall] at h
  obtain ⟨i, hi, hformat, hback⟩ := h
  exact ⟨i, hi, hformat, by omega⟩

namespace Machine

/-- The program counter is **ahead** of the executed instructions: it lags three bytes behind them
at most, and there are no more of them than the program has. -/
structure Ahead (count : Nat) (m : Machine) : Prop where
  pc : 4 * (m.executed : Int) ≤ m.pc + 3
  executed : m.executed ≤ count

/-- A program that starts over is ahead. -/
theorem ahead_load (m : Machine) (instructions : List Instruction) :
    Ahead instructions.length (m.load instructions) where
  pc := by simp [load, reset]
  executed := Nat.zero_le _

namespace Runs

variable {source : Text} {p : Program} {size : Int} {m : Machine}

/-- **An instruction takes the program counter further**, where no branch goes back. -/
theorem pc_lt_of_execute (hassemble : assemble source = .ok p) (hforward : p.BranchesForward)
    (h : Runs p size m) {i : Instruction} {effect : Effect} (hfetch : m.fetch? = some i)
    (he : m.execute i = .ok effect) : m.pc < effect.machine.pc := by
  obtain ⟨hi, -⟩ := (h.fetch?_eq_some_iff hassemble).mp hfetch
  obtain ⟨-, hinside⟩ := pcInRange_iff.mp (Machine.fetch?_eq_some_iff.mp hfetch).1
  obtain hpc | ⟨hformat, rfl⟩ := pc_execute he
  · omega
  · rw [pc_branch]
    have hdistance : 0 ≤ i.imm := hforward i hi hformat
    split
    · split
      · exact hinside
      · omega
    · omega

/-- **A step** keeps the program counter ahead. -/
theorem ahead_next (hassemble : assemble source = .ok p) (hforward : p.BranchesForward)
    (h : Runs p size m) (ha : Ahead p.instructions.length m) :
    Ahead p.instructions.length m.next := by
  obtain ⟨-, hs⟩ | ⟨-, -, hs⟩ | ⟨i, e, -, -, hs⟩ | ⟨i, effect, hf, he, hs⟩ := step_cases m <;>
    rw [Machine.next, hs]
  · exact ⟨ha.pc, ha.executed⟩
  · exact ha
  · exact ha
  · -- the instruction stands at a multiple of four, so that nothing lags behind before the step
    obtain ⟨hrange, haligned, -⟩ := Machine.fetch?_eq_some_iff.mp hf
    obtain ⟨-, hinside⟩ := pcInRange_iff.mp hrange
    rw [h.endPc_eq] at hinside
    have hbefore := ha.pc
    have hfurther := h.pc_lt_of_execute hassemble hforward hf he
    constructor
    · rw [pc_settle, executed_settle]
      omega
    · rw [executed_settle]
      omega

/-- **A run** keeps the program counter ahead. -/
theorem ahead_iterate_next (hassemble : assemble source = .ok p) (hforward : p.BranchesForward)
    (h : Runs p size m) (ha : Ahead p.instructions.length m) (n : Nat) :
    Ahead p.instructions.length (Machine.next^[n] m) := by
  induction n with
  | zero => exact ha
  | succ n ih =>
      rw [Function.iterate_succ_apply']
      exact ahead_next hassemble hforward (h.iterate_next n) ih

end Runs

section

variable {source : Text} {p : Program}

/-- A machine carries out no more instructions than its program has, if the program branches only
forward. -/
theorem length_of_executes (h : assemble source = .ok p) (hforward : p.BranchesForward)
    (m : Machine) {k : Nat}
    (hexecutes : ∀ i < k, (next^[i] (m.load p.instructions)).outcome.isExecuted = true) :
    k ≤ p.instructions.length := by
  have hran : Ran (m.load p.instructions) k (next^[k] (m.load p.instructions)) :=
    ⟨hexecutes, .inl rfl⟩
  have hexecuted := ((Runs.load m p).ahead_iterate_next h hforward (ahead_load m _) k).executed
  rwa [hran.executed, show (m.load p.instructions).executed = 0 from rfl, Nat.zero_add]
    at hexecuted

/-- **A program that branches only forward has a bounded stretch.** -/
theorem stretch_le_of_branchesForward (h : assemble source = .ok p) (hforward : p.BranchesForward)
    (m : Machine) : (m.load p.instructions).stretch ≤ p.instructions.length := by
  refine sSup_le ?_
  rintro n ⟨k, hk, rfl⟩
  exact Nat.cast_le.mpr (length_of_executes h hforward m hk.executes)

/-- **A program that branches only forward comes to a step that carries nothing out.** -/
theorem exists_not_isExecuted_of_branchesForward (h : assemble source = .ok p)
    (hforward : p.BranchesForward) (m : Machine) :
    ∃ n ≤ p.instructions.length,
      (∀ i < n, (next^[i] (m.load p.instructions)).outcome.isExecuted = true) ∧
      (next^[n] (m.load p.instructions)).outcome.isExecuted = false := by
  have hends : ∃ n, (next^[n] (m.load p.instructions)).outcome.isExecuted = false := by
    by_contra! hno
    have hle := length_of_executes h hforward m (k := p.instructions.length + 1)
      fun i _ => Bool.eq_true_of_not_eq_false (hno i)
    exact Nat.not_succ_le_self _ hle
  have hbefore : ∀ i < Nat.find hends,
      (next^[i] (m.load p.instructions)).outcome.isExecuted = true :=
    fun i hi => Bool.eq_true_of_not_eq_false (Nat.find_min hends hi)
  exact ⟨_, length_of_executes h hforward m hbefore, hbefore, Nat.find_spec hends⟩

end

end Machine

end Monocycle
