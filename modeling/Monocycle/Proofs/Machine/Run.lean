import Monocycle.Proofs.Machine.Control

/-!
# Runs of the machine that are cut and resumed

Whoever drives the machine may attempt steps that carry nothing out: behind the end of the program,
or at an instruction that fails. Such an attempt is no step of the program, and leaves all of the
machine as it is but for its phase, `Idled`. `Ran start k m` says that a machine `m` comes from
`start` by `k` steps that were carried out, with any number of idle attempts between them, and is
kept by one more attempt of either kind.

Where runs are compared, machines are compared up to the phase, `Alike`: an empty program is idle
until it is first stepped, and halted from then on.

## Main results

* `Ran.next`: what one more attempt does to a run.
* `Ran.trans`: a run that is cut and resumed is one run.
* `Ran.executed`: the executed count of the machine counts the steps of the run.
* `Ran.steps_unique`: under a step limit, the number of steps of a run that went as far as it could
  is determined.
-/

namespace Monocycle.Machine

/-- Machines that are **alike**: they agree but for the phase. -/
structure Alike (m m' : Machine) : Prop where
  pc : m'.pc = m.pc
  registers : m'.registers = m.registers
  memory : m'.memory = m.memory
  program : m'.program = m.program
  executed : m'.executed = m.executed

namespace Alike

theorem refl (m : Machine) : Alike m m :=
  ⟨rfl, rfl, rfl, rfl, rfl⟩

theorem symm {m m' : Machine} (h : Alike m m') : Alike m' m :=
  ⟨h.pc.symm, h.registers.symm, h.memory.symm, h.program.symm, h.executed.symm⟩

theorem trans {m m' m'' : Machine} (h : Alike m m') (h' : Alike m' m'') : Alike m m'' :=
  ⟨h'.pc.trans h.pc, h'.registers.trans h.registers, h'.memory.trans h.memory,
    h'.program.trans h.program, h'.executed.trans h.executed⟩

/-- Machines that are alike are inside their program or outside together. -/
theorem pcInRange {m m' : Machine} (h : Alike m m') : m'.pcInRange = m.pcInRange :=
  pcInRange_congr h.pc h.program

end Alike

/-- A machine that carries an instruction out is inside its program. -/
theorem pcInRange_of_isExecuted {m : Machine} (h : m.outcome.isExecuted = true) :
    m.pcInRange = true := by
  obtain ⟨i, effect, hfetch, -⟩ := exists_step_of_isExecuted h
  exact (fetch?_eq_some_iff.mp hfetch).1

/-- A machine that has **idled**: `m'` comes from `m` by attempts that carried nothing out. Inside
the program they leave no trace, and outside they can only have taken the phase. -/
def Idled (m m' : Machine) : Prop :=
  m' = m ∨ m.pcInRange = false ∧ m' = { m with phase := .halted }

namespace Idled

variable {m m' m'' : Machine}

theorem alike (h : Idled m m') : Alike m m' := by
  obtain rfl | ⟨-, rfl⟩ := h
  · exact .refl _
  · exact ⟨rfl, rfl, rfl, rfl, rfl⟩

/-- Inside the program an idle attempt leaves no trace. -/
theorem eq_of_pcInRange (h : Idled m m') (hr : m'.pcInRange = true) : m' = m := by
  obtain heq | ⟨hout, -⟩ := id h
  · exact heq
  · rw [h.alike.pcInRange, hout] at hr
    exact Bool.noConfusion hr

theorem trans (h : Idled m m') (h' : Idled m' m'') : Idled m m'' := by
  obtain rfl | ⟨hout, rfl⟩ := h
  · exact h'
  · obtain rfl | ⟨-, rfl⟩ := h'
    · exact .inr ⟨hout, rfl⟩
    · exact .inr ⟨hout, rfl⟩

/-- A step that carries nothing out is an idle attempt. -/
theorem next (h : m.outcome.isExecuted = false) : Idled m m.next := by
  rw [next_of_not_isExecuted h]
  cases hr : m.pcInRange with
  | true => exact .inl rfl
  | false => exact .inr ⟨hr, rfl⟩

theorem controlled (h : Idled m m') (hm : m.Controlled) : m'.Controlled := by
  obtain rfl | ⟨hout, rfl⟩ := h
  · exact hm
  · exact Controlled.halt hout

end Idled

/-- A **run with idle attempts**: `m` comes from `start` by `k` steps that carried an instruction
out, and by attempts that carried nothing out. -/
structure Ran (start : Machine) (k : Nat) (m : Machine) : Prop where
  /-- Each of the first `k` steps carries an instruction out. -/
  executes : ∀ i < k, (next^[i] start).outcome.isExecuted = true
  idled : Idled (next^[k] start) m

namespace Ran

variable {start m m' : Machine} {k j : Nat}

theorem refl (m : Machine) : Ran m 0 m where
  executes i hi := absurd hi (Nat.not_lt_zero i)
  idled := .inl rfl

/-- A run ends in the outcome of its last machine, whatever was attempted in between. -/
theorem outcome_eq (h : Ran start k m) : m.outcome = (next^[k] start).outcome := by
  cases hr : m.pcInRange with
  | true => rw [← h.idled.eq_of_pcInRange hr]
  | false =>
      have hr' : (next^[k] start).pcInRange = false := h.idled.alike.pcInRange.symm.trans hr
      rw [outcome_eq_halted_iff.mpr hr, outcome_eq_halted_iff.mpr hr']

/-- A run from a machine that carries nothing out has no step, and ends in such a machine. -/
theorem of_not_isExecuted (h : Ran start k m) (hstart : start.outcome.isExecuted = false) :
    k = 0 ∧ m.outcome.isExecuted = false := by
  have hk : k = 0 := by
    by_contra hne
    have hfirst : start.outcome.isExecuted = true := h.executes 0 (Nat.pos_of_ne_zero hne)
    exact Bool.noConfusion (hfirst.symm.trans hstart)
  subst hk
  exact ⟨rfl, (congrArg StepOutcome.isExecuted h.outcome_eq).trans hstart⟩

/-- A run keeps the control invariant, idle attempts included. -/
theorem controlled (h : Ran start k m) (hstart : start.Controlled) : m.Controlled :=
  h.idled.controlled (hstart.iterate_next k)

/-- **One more attempt** makes a run longer by one step if it carries an instruction out, and
keeps the run as it is otherwise. -/
theorem next (h : Ran start k m) : Ran start (k + m.outcome.isExecuted.toNat) m.next := by
  cases ho : m.outcome.isExecuted with
  | true =>
      have hm : m = Machine.next^[k] start :=
        h.idled.eq_of_pcInRange (pcInRange_of_isExecuted ho)
      refine ⟨fun i hi => ?_, .inl ?_⟩
      · obtain hlt | rfl : i < k ∨ i = k := by
          simp only [Bool.toNat_true] at hi
          omega
        · exact h.executes i hlt
        · rw [← hm]
          exact ho
      · rw [Bool.toNat_true, Function.iterate_succ_apply', ← hm]
  | false => exact ⟨h.executes, h.idled.trans (.next ho)⟩

/-- **A run that is cut and resumed** is one run. -/
theorem trans (h : Ran start k m) (h' : Ran m j m') : Ran start (k + j) m' := by
  cases j with
  | zero => exact ⟨h.executes, h.idled.trans h'.idled⟩
  | succ j =>
      -- the resumed run carries a step out, so it starts at the very machine of the first one
      have hm : m = Machine.next^[k] start :=
        h.idled.eq_of_pcInRange (pcInRange_of_isExecuted (h'.executes 0 (Nat.succ_pos j)))
      have hiterate : ∀ i, Machine.next^[k + i] start = Machine.next^[i] m := by
        intro i
        rw [Nat.add_comm, Function.iterate_add_apply, hm]
      refine ⟨fun i hi => ?_, ?_⟩
      · by_cases hlt : i < k
        · exact h.executes i hlt
        · obtain ⟨d, rfl⟩ : ∃ d, i = k + d := ⟨i - k, by omega⟩
          rw [hiterate]
          exact h'.executes d (by omega)
      · rw [hiterate]
        exact h'.idled

/-- **The executed count** of the machine counts the steps of a run. -/
theorem executed (h : Ran start k m) : m.executed = start.executed + k := by
  have hiterate : ∀ j ≤ k, (Machine.next^[j] start).executed = start.executed + j := by
    intro j hj
    induction j with
    | zero => rfl
    | succ j ih =>
        rw [Function.iterate_succ_apply', executed_next (h.executes j (by omega)), ih (by omega)]
        omega
  rw [h.idled.alike.executed, hiterate k (Nat.le_refl k)]

/-- **How far a run goes**: runs with at most `limit` steps, each of which made all of them or came
to a machine that carries nothing out, have the same number of steps. -/
theorem steps_unique {limit : Nat} (h : Ran start k m) (h' : Ran start j m') (hk : k ≤ limit)
    (hj : j ≤ limit) (hend : k = limit ∨ m.outcome.isExecuted = false)
    (hend' : j = limit ∨ m'.outcome.isExecuted = false) : k = j := by
  rw [h.outcome_eq] at hend
  rw [h'.outcome_eq] at hend'
  rcases Nat.lt_trichotomy k j with hlt | heq | hgt
  · obtain hlimit | hstuck := hend
    · omega
    · cases (h'.executes k hlt).symm.trans hstuck
  · exact heq
  · obtain hlimit | hstuck := hend'
    · omega
    · cases (h.executes j hgt).symm.trans hstuck

end Ran

end Monocycle.Machine
