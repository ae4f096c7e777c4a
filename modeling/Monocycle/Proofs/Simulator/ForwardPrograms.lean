import Monocycle.Proofs.Machine.ForwardBranches
import Monocycle.Proofs.Simulator.Account

/-!
# Programs that finish

A program that branches only forward carries out no more instructions than it has. A run of it
from its start that nobody stops therefore never comes to a step limit that is greater: it ends
with the machine halted, or with a step that fails.

## Main results

* `Account.finished`, `run_of_stretch_lt`: a run that does not come to its limit, and has no token,
  halts or fails.
* `forward_programs_finish`: **a program that branches only forward always finishes.**
-/

namespace Monocycle.Simulator

/-- A run without listeners is unstopped. -/
theorem unstopped_of_no_listeners {s : Simulator} (h : s.listeners = [])
    (options : RunOptions) : s.Unstopped (fun _ => Listener.conduct) options :=
  unstopped_of_quietOn (P := fun _ => False) (fun _ _ _ _ hl => hl.elim) (by simp [h]) options

/-- **A run that is not cut short.** Without a token, a run of a machine that does not go as far as
the limit ends with the machine halted or with a step that fails. -/
theorem Account.finished {limit : ℕ∞} {start final : Machine} {result : RunResult}
    (h : Account ⊤ limit start result final) (hroom : start.stretch < limit) :
    (result.steps : ℕ∞) = start.stretch ∧ result.cancelled = false ∧
      (result.halted = true ∨ ∃ e, result.last? = some (.failed e)) := by
  have hsteps : (result.steps : ℕ∞) = start.stretch := by
    rw [h.steps, min_eq_right hroom.le, min_eq_right le_top]
  have hcancelled : result.cancelled = false := by
    rw [← Bool.not_eq_true, h.cancelled]
    rintro ⟨-, hlt | ⟨k, htop, -⟩⟩
    · exact not_top_lt hlt
    · exact ENat.top_ne_natCast k htop
  refine ⟨hsteps, hcancelled, ?_⟩
  rw [h.halted]
  obtain hlimit | hhalted | ⟨o, hlast, hstuck⟩ := h.ended hcancelled
  · exact absurd (hsteps.symm.trans hlimit) hroom.ne
  · exact .inl hhalted
  · cases o with
    | executed index => cases hstuck
    | halted => exact .inl (h.nothing_left hlast)
    | failed e => exact .inr ⟨e, hlast⟩

/-- **A run with room for the stretch** of its machine goes through all of it, where nobody listens:
it ends with the machine halted or with a step that fails. -/
theorem run_of_stretch_lt {s : Simulator} (hnone : s.listeners = []) {maxSteps : Int}
    (hroom : s.machine.stretch < maxSteps.toNat) :
    ∃ result, (s.run ⟨some maxSteps, none, some 0⟩).answer = .ok result ∧
      (result.steps : ℕ∞) = s.machine.stretch ∧ result.cancelled = false ∧
      (result.halted = true ∨ ∃ e, result.last? = some (.failed e)) := by
  obtain ⟨attempts, hends⟩ := exists_ends_of_rounds (fun _ => Listener.conduct) s
    ⟨some maxSteps, none, some 0⟩ (.inl rfl) rfl
  obtain herr | ⟨result, hresult, haccount⟩ :=
    hends.account_start (unstopped_of_no_listeners hnone _) (.inl Delay.refusal?_zero)
  · exact absurd herr (hends.answer_of_steps_answer fun _ => answer_step)
  · exact ⟨result, hresult, haccount.finished hroom⟩

/-- **A program that branches only forward always finishes.** Whatever simulator it is loaded into,
the program counts as many executed instructions as it has at most, and comes to a step that carries
nothing out. Without listeners, a run with a greater limit is not cut by it: it makes as many steps
as there are instructions at most, and ends with the machine halted or with a step that fails. So a
program that carries out more instructions than it has branches back. -/
theorem forward_programs_finish {source : Text} {p : Program} (h : assemble source = .ok p)
    (s : Simulator) :
    let loaded := (s.load source).simulator
    let count := p.instructions.length
    (s.load source).answer = .ok (.loaded count) ∧
    (p.BranchesForward →
      (∀ n, (Machine.next^[n] loaded.machine).executed ≤ count) ∧
      (∃ n ≤ count, (∀ i < n, (Machine.next^[i] loaded.machine).outcome.isExecuted = true) ∧
        (Machine.next^[n] loaded.machine).outcome.isExecuted = false) ∧
      (s.listeners = [] → ∀ maxSteps : Int, count < maxSteps →
        ∃ result, (loaded.run ⟨some maxSteps, none, some 0⟩).answer = .ok result ∧
          result.steps ≤ count ∧ result.cancelled = false ∧
          (result.halted = true ∨ ∃ e, result.last? = some (.failed e)))) ∧
    ∀ n, count < (Machine.next^[n] loaded.machine).executed →
      ∃ i ∈ p.instructions, i.format = .branch ∧ i.imm < 0 := by
  intro loaded count
  obtain ⟨p', hp', hloaded, hanswer⟩ | ⟨e, hfails, -⟩ := load_cases s source
  · obtain rfl : p = p' := Except.ok.inj (h.symm.trans hp')
    have hmachine : loaded.machine = s.machine.load p.instructions :=
      congrArg Simulator.machine hloaded
    have hahead : p.BranchesForward →
        ∀ n, (Machine.next^[n] loaded.machine).executed ≤ count := by
      intro hforward n
      rw [hmachine]
      exact ((Machine.Runs.load s.machine p).ahead_iterate_next h hforward
        (Machine.ahead_load _ _) n).executed
    refine ⟨hanswer, fun hforward => ⟨hahead hforward, ?_, fun hnone maxSteps hroom => ?_⟩,
      fun n hmore => ?_⟩
    · rw [hmachine]
      exact Machine.exists_not_isExecuted_of_branchesForward h hforward s.machine
    · have hlisteners : loaded.listeners = [] := (congrArg Simulator.listeners hloaded).trans hnone
      have hstretch : loaded.machine.stretch ≤ count := by
        rw [hmachine]
        exact Machine.stretch_le_of_branchesForward h hforward s.machine
      have hlimit : count < maxSteps.toNat := by omega
      obtain ⟨result, hresult, hsteps, hcancelled, hend⟩ :=
        run_of_stretch_lt hlisteners (hstretch.trans_lt (Nat.cast_lt.mpr hlimit))
      have hcount : (result.steps : ℕ∞) ≤ count := hsteps.trans_le hstretch
      exact ⟨result, hresult, Nat.cast_le.mp hcount, hcancelled, hend⟩
    · exact Program.exists_of_not_branchesForward fun hforward =>
        absurd hmore (Nat.not_lt.mpr (hahead hforward n))
  · cases h.symm.trans hfails

/-- A branch forward to an odd address, behind which the program does not go on. -/
theorem forward_programs_finish_odd :
    let source := "beq x0, x0, 5\nadd x1, x1, x1\nbeq x0, x0, 0".toList
    ∃ p, assemble source = .ok p ∧ p.BranchesForward ∧ p.instructions.length = 3 ∧
      let s : Simulator := ⟨.ofMemorySize 16, [], false, [], .builtIn⟩
      ∃ result, ((s.load source).simulator.run ⟨some 4, none, some 0⟩).answer = .ok result ∧
        result.steps ≤ 3 ∧ result.cancelled = false ∧
        (result.halted = true ∨ ∃ e, result.last? = some (.failed e)) := by
  intro source
  obtain ⟨p, hp, hforward, hcount⟩ : ∃ p, assemble source = .ok p ∧ p.BranchesForward ∧
      p.instructions.length = 3 := by
    refine ⟨_, rfl, ?_, rfl⟩
    unfold Program.BranchesForward
    decide
  refine ⟨p, hp, hforward, hcount, ?_⟩
  intro s
  have hfinish := ((forward_programs_finish hp s).2.1 hforward).2.2 rfl 4
  rw [hcount] at hfinish
  exact hfinish (by decide)

end Monocycle.Simulator
