import Monocycle.Proofs.Machine.Assignments
import Monocycle.Proofs.Machine.Events
import Monocycle.Proofs.Simulator.Deliveries

/-!
# Failed steps

A step fails at one of three places: no instruction is at the program counter, a store has formed an
address outside the memory, or the format of a record is not known. By then nothing has been
assigned, neither in the step that is carried out assignment by assignment nor, therefore, in the
machine, and a machine that fails once fails again at every further step.

A simulator answers a failed step with its outcome. The event that goes to the listeners names no
register and no address, and the index in the outcome is that of the record that was fetched.

## Main results

* `Machine.step_iterate_next_of_error`: a machine that fails does so at every step.
* `Machine.index?_of_step_error`: the index that an error tells.
* `Simulator.failed_step_has_no_effect`: **a failed step has no effect.**
-/

namespace Monocycle

namespace Machine

variable {m : Machine} {e : ExecutionError}

/-- A step that fails is made inside the program. -/
theorem pcInRange_of_step_error (h : m.step.2 = .error e) : m.pcInRange = true := by
  obtain ⟨-, hs⟩ | ⟨hr, -, -⟩ | ⟨i, e', hf, -, -⟩ | ⟨i, effect, hf, -, -⟩ := step_cases m
  · rw [hs] at h
    cases h
  · exact hr
  · exact (fetch?_eq_some_iff.mp hf).1
  · exact (fetch?_eq_some_iff.mp hf).1

/-- A step that fails leaves the machine. -/
theorem step_of_error (h : m.step.2 = .error e) : m.step = (m, .error e) :=
  Prod.ext (next_of_error h) h

/-- **A machine that fails does so at every step**, and stays as it is. -/
theorem step_iterate_next_of_error (h : m.step.2 = .error e) (n : Nat) :
    (next^[n] m).step = (m, .error e) := by
  rw [Function.iterate_fixed (next_of_error h) n, step_of_error h]

/-- **The index that an error tells** is that of the record that was fetched; at a program counter
that is no multiple of four no record is, and there is no index. -/
theorem index?_of_step_error (h : m.step.2 = .error e) :
    (m.pc % 4 ≠ 0 ∧ m.fetch? = none ∧ e.index? = none) ∨
      ∃ i, m.pc % 4 = 0 ∧ m.fetch? = some i ∧ e.index? = some (i.address / 4) := by
  have hinstruction := instruction?_of_step_error h
  cases hf : m.fetch? with
  | none =>
      have hpc := (fetch?_eq_none_iff (pcInRange_of_step_error h)).mp hf
      exact .inl ⟨hpc, rfl, by rw [ExecutionError.index?, hinstruction, hf]; rfl⟩
  | some i =>
      have hpc := (fetch?_eq_some_iff.mp hf).2.1
      exact .inr ⟨i, hpc, rfl, by rw [ExecutionError.index?, hinstruction, hf]; rfl⟩

end Machine

namespace Simulator

variable {m : Machine} {e : ExecutionError}

/-- The event of a failed step: the program counter stays, and nothing is named but the instruction
that was fetched. -/
theorem event_of_error {s : Simulator} (h : s.machine.step.2 = .error e) :
    s.event = ⟨.failed e, s.machine.pc, s.machine.pc, s.machine.fetch?, none, none⟩ := by
  rw [event, Machine.step_of_error h, eventOf, Machine.instruction?_of_step_error h]

/-- **A failed step has no effect.** The machine may hold any records, register words and slots, and
any program counter. Carrying the step out assignment by assignment leaves the machine as it was, in
every component, and each further step fails with the same error. A simulator with that machine
tells of the failure by one event: the program counter of before and after, the record that was
fetched with its index, no register and no address. Under any conduct of the listeners the event is
delivered from the front of the subscriptions on, and the step answers the failure unless a listener
takes away a subscription that is not there; self-contained listeners, such as those that react as
they say of themselves, all hear of it. Unless a listener resets it, the simulator keeps its
machine. -/
theorem failed_step_has_no_effect (h : m.step.2 = .error e) :
    Machine.Procedure.runOn Machine.Procedure.step m = (.error e, m) ∧
    (∀ n, (Machine.next^[n] m).step = (m, .error e)) ∧
    ((m.pc % 4 ≠ 0 ∧ m.fetch? = none ∧ e.index? = none) ∨
      ∃ i, m.pc % 4 = 0 ∧ m.fetch? = some i ∧ e.index? = some (i.address / 4)) ∧
    ∀ (s : Simulator) (conduct : Conduct), s.machine = m →
      let event : StepEvent := ⟨.failed e, m.pc, m.pc, m.fetch?, none, none⟩
      let t := s.stepWith conduct
      t.deliveries <+: s.listeners.map (fun l => (l, event)) ∧
      (t.answer = .ok (.failed e) ∨ t.answer = .error .notSubscribed ∧ conduct.Unsubscribes) ∧
      (conduct.SelfContained → t.answer = .ok (.failed e) ∧
        t.deliveries = s.listeners.map fun l => (l, event)) ∧
      (¬conduct.Resets → t.simulator.machine = m) := by
  have houtcome : m.outcome = .failed e := by rw [Machine.outcome, h]
  refine ⟨by rw [Machine.Procedure.runOn_step, Machine.step_of_error h],
    Machine.step_iterate_next_of_error h, Machine.index?_of_step_error h, ?_⟩
  intro s conduct hs event t
  subst hs
  have hevent : s.event = event := event_of_error h
  have hdue : s.dueDeliveries = s.listeners.map fun l => (l, event) := by
    rw [dueDeliveries, hevent, listeners_stepped]
  refine ⟨?_, ?_, fun hself => ⟨?_, ?_⟩, fun hresets => ?_⟩
  · have hprefix := deliveries_notify_isPrefix conduct s.event 0 s.stepped.listeners s.stepped
    rwa [← deliveries_stepWith, hevent] at hprefix
  · by_cases hunsubscribes : conduct.Unsubscribes
    · exact (answer_stepWith conduct s).imp (fun ha => ha.trans (by rw [houtcome]))
        fun ha => ⟨ha, hunsubscribes⟩
    · exact .inl ((answer_stepWith_of_not_unsubscribes hunsubscribes s).trans (by rw [houtcome]))
  · exact (answer_stepWith_of_selfContained hself s).trans (by rw [houtcome])
  · exact (StepAttempt.heardByAll (a := ⟨s, conduct⟩) hself).deliveries.trans hdue
  · exact (machine_stepWith_of_not_resets hresets s).trans (Machine.next_of_error h)

/-- A store whose record names another operation, at an address that belongs to the second of the
instructions, to an address just outside the memory. -/
theorem failed_step_has_no_effect_store :
    let i : Instruction := ⟨.store, .beq, 6, [], 1, .zero, .zero, .zero, 16⟩
    let m := (Machine.ofMemorySize 16).load [i]
    let e := ExecutionError.storeOutside 16 16 i
    let event : StepEvent := ⟨.failed e, 0, 0, some i, none, none⟩
    Machine.Procedure.runOn Machine.Procedure.step m = (.error e, m) ∧
    (∀ n, (Machine.next^[n] m).step = (m, .error e)) ∧ e.index? = some 1 ∧
    ∀ s : Simulator, s.machine = m → s.step.answer = .ok (.failed e) ∧
      s.step.deliveries = s.listeners.map fun l => (l, event) := by
  intro i m e event
  have h : m.step.2 = .error e := by decide +kernel
  obtain ⟨hassigned, hagain, -, hsimulator⟩ := failed_step_has_no_effect h
  refine ⟨hassigned, hagain, rfl, fun s hs => ?_⟩
  exact (hsimulator s Listener.conduct hs).2.2.1 Listener.selfContained_conduct

end Simulator

end Monocycle
