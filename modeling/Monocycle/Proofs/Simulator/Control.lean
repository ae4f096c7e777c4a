import Monocycle.Proofs.Machine.Control
import Monocycle.Proofs.Simulator.History

/-!
# The phase over every history

The agreement of phase, program and program counter (`Machine.Controlled`) is kept by loads,
resets and steps of the machine, so it holds in every state that a history of operations reaches,
whatever the listeners did on the way. With it the phase tells what a step comes to: a ready
machine carries an instruction out or fails, an idle or halted one finds nothing to carry out, and
a halted machine is moved by nothing but a reset or a load.

## Main results

* `Reachable.controlled`: the machine of every reachable simulator is in order.
* `control_of_reachable`: what this means for steps and for leaving the halted phase.
-/

namespace Monocycle.Simulator

/-- **The machine of every reachable simulator is in order.** -/
theorem Reachable.controlled {s : Simulator} (h : Reachable s) : s.machine.Controlled := by
  induction h with
  | fresh hcreate =>
      obtain ⟨size, rfl⟩ := exists_eq_of_create hcreate
      exact Machine.controlled_ofMemorySize size
  | perform op _ ih =>
      exact machine_perform (fun _ hm => hm.next) (fun m _ => Machine.controlled_reset m)
        (fun m is _ => Machine.controlled_load m is) op ih

/-- A halted machine is moved by nothing but a reset or a load. -/
theorem machine_perform_of_halted {s : Simulator} (h : s.machine.Controlled)
    (hphase : s.machine.phase = .halted) (op : Operation) :
    (s.perform op).simulator.machine = s.machine ∨ (s.perform op).Restarts ∨ s.Loads op := by
  by_cases hload : s.Loads op
  · exact .inr (.inr hload)
  · obtain ⟨n, hn⟩ | hr := exists_iterate_of_not_loads hload
    · left
      rw [hn]
      exact Function.iterate_fixed (h.next_of_halted hphase) n
    · exact .inr (.inl hr)

/-- **The phase over every history.** In every reachable simulator the phase agrees with the
program and the program counter. A step answers that there is nothing to carry out exactly if the
machine is not ready, under every conduct of the listeners, and it does answer unless a listener
takes a subscription away. A halted machine stays as it is in the step of the machine and in every
operation, unless the operation resets it, itself or through a listener, or loads a program. -/
theorem control_of_reachable {s : Simulator} (h : Reachable s) :
    s.machine.Controlled ∧
    (∀ conduct : Conduct,
      (∀ o, (s.stepWith conduct).answer = .ok o → (o = .halted ↔ s.machine.phase ≠ .ready)) ∧
      (¬conduct.Unsubscribes → ∃ o, (s.stepWith conduct).answer = .ok o)) ∧
    (s.machine.phase = .halted → s.machine.next = s.machine ∧ ∀ op,
      ((s.perform op).simulator.machine = s.machine ∨ (s.perform op).Restarts ∨ s.Loads op) ∧
      ((s.perform op).Restarts → op.MayReset)) := by
  have hcontrolled := h.controlled
  refine ⟨hcontrolled, fun conduct => ⟨?_, ?_⟩, fun hphase => ⟨?_, fun op => ⟨?_, ?_⟩⟩⟩
  · intro o ho
    have houtcome : o = s.machine.outcome := by
      obtain hok | herr := answer_stepWith conduct s
      · exact Except.ok.inj (ho.symm.trans hok)
      · cases ho.symm.trans herr
    rw [houtcome]
    constructor
    · exact fun hhalted hready => hcontrolled.outcome_ready hready hhalted
    · exact hcontrolled.outcome_of_ne_ready
  · exact fun hkeep => ⟨_, answer_stepWith_of_not_unsubscribes hkeep s⟩
  · exact hcontrolled.next_of_halted hphase
  · exact machine_perform_of_halted hcontrolled hphase op
  · exact mayReset_of_restarts

/-- A branch to itself halts the machine behind the program, and nothing but a reset or a load
moves it from there. -/
theorem control_of_reachable_selfLoop :
    ∃ s, Reachable s ∧ s.machine.phase = .halted ∧ s.machine.pc = 4 ∧
      s.machine.next = s.machine ∧ ∀ op, (s.perform op).simulator.machine = s.machine ∨
        (s.perform op).Restarts ∨ s.Loads op := by
  obtain ⟨s, hreach, hphase, hpc⟩ :
      ∃ s, Reachable s ∧ s.machine.phase = .halted ∧ s.machine.pc = 4 :=
    ⟨_, .perform (.step Listener.conduct) (.perform (.load "beq x0, x0, 0".toList)
      (.fresh (rfl : create .builtIn (some 16) = .ok _))), rfl, rfl⟩
  obtain ⟨-, -, hhalted⟩ := control_of_reachable hreach
  obtain ⟨hnext, hop⟩ := hhalted hphase
  exact ⟨s, hreach, hphase, hpc, hnext, fun op => (hop op).1⟩

end Monocycle.Simulator
