import Monocycle.Proofs.Machine.Step

/-!
# The phase and the program counter

Whether a machine is idle, ready or halted is kept in a field of its own, beside the program
counter that it has to agree with. `Machine.Controlled` is that agreement: an idle machine has no
program and stands at its beginning, a ready one is inside its program, and a halted one is
outside. Loading and resetting establish it, and a step keeps it, whichever of its four ways it
goes.

## Main results

* `Machine.controlled_reset`, `Machine.controlled_load`: a program that starts over is in order.
* `Machine.Controlled.next`, `Machine.Controlled.iterate_next`: so is every machine it runs into.
* `Machine.Controlled.outcome_ready`, `Machine.Controlled.outcome_of_ne_ready`: what a step can
  come to is told by the phase.
* `Machine.Controlled.next_of_halted`: a halted machine stays as it is.
-/

namespace Monocycle.Machine

/-- The **control invariant**: the phase agrees with the program and the program counter. -/
structure Controlled (m : Machine) : Prop where
  /-- An idle machine has no program and stands at its beginning. -/
  idle : m.phase = .idle → m.program = #[] ∧ m.pc = 0
  /-- A ready machine has a program and is inside it. -/
  ready : m.phase = .ready → m.program ≠ #[] ∧ 0 ≤ m.pc ∧ m.pc < m.endPc
  /-- A halted machine is outside its program. -/
  halted : m.phase = .halted → ¬(0 ≤ m.pc ∧ m.pc < m.endPc)

/-- A machine without a program is in order. -/
theorem controlled_ofMemorySize (size : Int) : (ofMemorySize size).Controlled where
  idle _ := ⟨rfl, rfl⟩
  ready h := by simp [ofMemorySize] at h
  halted h := by simp [ofMemorySize] at h

/-- A program that starts over is in order. -/
theorem controlled_reset (m : Machine) : m.reset.Controlled := by
  by_cases hp : m.program = #[]
  · have hphase : m.reset.phase = .idle := by simp [reset, hp]
    exact ⟨fun _ => ⟨hp, rfl⟩, by simp [hphase], by simp [hphase]⟩
  · have hphase : m.reset.phase = .ready := by simp [reset, hp]
    have hsize : 0 < m.program.size := Array.size_pos_iff.mpr hp
    refine ⟨by simp [hphase], fun _ => ⟨hp, Int.le_refl 0, ?_⟩, by simp [hphase]⟩
    simp only [reset, endPc]
    omega

/-- A program just loaded is in order. -/
theorem controlled_load (m : Machine) (is : List Instruction) : (m.load is).Controlled :=
  controlled_reset _

namespace Controlled

variable {m : Machine}

/-- A machine inside its program is ready. -/
theorem ready_of_pcInRange (h : m.Controlled) (hr : m.pcInRange = true) : m.phase = .ready := by
  have hrange := pcInRange_iff.mp hr
  cases hphase : m.phase with
  | idle =>
      obtain ⟨hprogram, hpc⟩ := h.idle hphase
      simp [endPc, hprogram] at hrange
      omega
  | ready => rfl
  | halted => exact absurd hrange (h.halted hphase)

/-- A ready machine is inside its program. -/
theorem pcInRange_of_ready (h : m.Controlled) (hphase : m.phase = .ready) : m.pcInRange = true :=
  pcInRange_iff.mpr (h.ready hphase).2

/-- A machine that is not ready is outside its program. -/
theorem pcInRange_of_ne_ready (h : m.Controlled) (hphase : m.phase ≠ .ready) :
    m.pcInRange = false := by
  by_contra hr
  exact hphase (h.ready_of_pcInRange (by simpa using hr))

/-- A machine with a program is halted exactly outside of it. -/
theorem halted_iff (h : m.Controlled) (hprogram : m.program ≠ #[]) :
    m.phase = .halted ↔ m.pcInRange = false := by
  constructor
  · intro hphase
    exact h.pcInRange_of_ne_ready (by rw [hphase]; exact Phase.noConfusion)
  · intro hrange
    cases hphase : m.phase with
    | idle => exact absurd (h.idle hphase).1 hprogram
    | ready => exact Bool.noConfusion ((h.pcInRange_of_ready hphase).symm.trans hrange)
    | halted => rfl

/-- A machine that takes its halted phase outside the program is in order. -/
theorem halt (hr : m.pcInRange = false) : Controlled { m with phase := .halted } where
  idle h := by simp at h
  ready h := by simp at h
  halted _ hrange := by
    rw [show m.pcInRange = true from pcInRange_iff.mpr hrange] at hr
    exact Bool.noConfusion hr

/-- **A step keeps the control invariant.** -/
theorem next (h : m.Controlled) : m.next.Controlled := by
  obtain ⟨hr, hs⟩ | ⟨-, -, hs⟩ | ⟨i, e, -, -, hs⟩ | ⟨i, effect, hf, he, hs⟩ := step_cases m <;>
    rw [Machine.next, hs]
  · exact halt hr
  · exact h
  · exact h
  · -- the instruction at hand: the phase is read off the program counter it leaves behind
    have hready : m.phase = .ready := h.ready_of_pcInRange (fetch?_eq_some_iff.mp hf).1
    cases hr : effect.machine.pcInRange with
    | false =>
        have hsettle : m.settle effect = { m.settle effect with phase := .halted } := by
          rw [settle_eq, phase_settle, hr]
          rfl
        rw [hsettle]
        exact halt ((pcInRange_congr (pc_settle m effect) (program_settle m effect)).trans hr)
    | true =>
        have hrange := pcInRange_iff.mp hr
        have hphase : (m.settle effect).phase = .ready := by
          rw [phase_settle, hr, if_pos rfl]
          obtain hkept | ⟨-, hend⟩ := phase_execute he
          · exact hkept.trans hready
          · rw [endPc, program_execute he] at hrange
            rw [hend, endPc] at hrange
            omega
        refine ⟨by simp [hphase], fun _ => ⟨?_, ?_⟩, by simp [hphase]⟩
        · rw [program_settle, program_execute he]
          exact (h.ready hready).1
        · simpa [endPc] using hrange

/-- A run keeps the control invariant. -/
theorem iterate_next (h : m.Controlled) (n : Nat) : (Machine.next^[n] m).Controlled := by
  induction n with
  | zero => exact h
  | succ n ih =>
      rw [Function.iterate_succ_apply']
      exact ih.next

/-- A step of a ready machine carries an instruction out or fails. -/
theorem outcome_ready (h : m.Controlled) (hphase : m.phase = .ready) : m.outcome ≠ .halted := by
  rw [Ne, outcome_eq_halted_iff, h.pcInRange_of_ready hphase]
  exact Bool.noConfusion

/-- A step of an idle or halted machine finds nothing to carry out. -/
theorem outcome_of_ne_ready (h : m.Controlled) (hphase : m.phase ≠ .ready) :
    m.outcome = .halted :=
  outcome_eq_halted_iff.mpr (h.pcInRange_of_ne_ready hphase)

/-- A step of a halted machine finds nothing to carry out. -/
theorem outcome_of_isHalted (h : m.Controlled) (hhalted : m.isHalted = true) :
    m.outcome = .halted := by
  have hphase : m.phase = .halted := by simpa [isHalted] using hhalted
  exact h.outcome_of_ne_ready (by rw [hphase]; exact Phase.noConfusion)

/-- A halted machine stays as it is. -/
theorem next_of_halted (h : m.Controlled) (hphase : m.phase = .halted) : m.next = m := by
  have hr : m.pcInRange = false := h.pcInRange_of_ne_ready (by simp [hphase])
  have hout : m.outcome.isExecuted = false := by
    rw [outcome_eq_halted_iff.mpr hr]
    rfl
  rw [next_of_not_isExecuted hout, hr, ← hphase]
  rfl

end Controlled

end Monocycle.Machine
