import Monocycle.Proofs.Simulator.Run

/-!
# Histories of a simulator

The operations on a simulator as data, and the states that any history of them reaches. An
operation is a load of any text, a step, a run, a reset, a stop, or a change of the subscriptions.
Steps and runs come with a conduct of the listeners, so that a history also tells what the
listeners did while it went on, and a run is followed for any number of rounds, so that the states
in the middle of a run are reached as well.

All that a history can do to the machine is to step it, to reset it and to load programs into it.
Whether it was reset in the course of an operation is told by the journal of the turn.

## Main results

* `runWith_preserves`: what every step keeps, a run keeps.
* `machine_perform`: an operation keeps what loading, resetting and stepping a machine keep.
* `exists_iterate_of_not_loads`: without a load and a reset, an operation only steps the machine.
* `mayReset_of_restarts`: only resets and listeners that reset restart the machine.
-/

namespace Monocycle.Simulator

/-- An **operation** on a simulator. -/
inductive Operation where
  | load (source : Text)
  /-- A step under a conduct of the listeners. -/
  | step (conduct : Conduct)
  /-- A run under a conduct of the listeners, followed for some rounds. -/
  | run (conduct : Nat → Conduct) (rounds : Nat) (options : RunOptions)
  | reset
  | stop
  | subscribe (l : Listener)
  | unsubscribe (l : Listener)

/-- The turn an operation comes to, its answer left aside. -/
def perform (s : Simulator) : Operation → Turn Unit
  | .load source => let t := s.load source; ⟨t.simulator, t.answer.map fun _ => (), t.journal⟩
  | .step conduct =>
    let t := s.stepWith conduct
    ⟨t.simulator, t.answer.map fun _ => (), t.journal⟩
  | .run conduct rounds options =>
    let t := s.runWith conduct rounds options
    ⟨t.simulator, t.answer.map fun _ => (), t.journal⟩
  | .reset => s.reset
  | .stop => ⟨s.stop, .ok (), []⟩
  | .subscribe l => ⟨s.subscribe l, .ok (), []⟩
  | .unsubscribe l => s.unsubscribe l

/-- **Reachable** simulators: those that a history of operations leads to from a fresh one. -/
inductive Reachable : Simulator → Prop
  | fresh {settings : Settings} {memorySize? : Option Int} {s : Simulator} :
      create settings memorySize? = .ok s → Reachable s
  | perform {s : Simulator} (op : Operation) : Reachable s → Reachable (s.perform op).simulator

/-- A fresh simulator has an empty machine, no labels, no run and no listener. -/
theorem exists_eq_of_create {settings : Settings} {memorySize? : Option Int} {s : Simulator}
    (h : create settings memorySize? = .ok s) :
    ∃ size, s = ⟨.ofMemorySize size, [], false, [], settings⟩ := by
  cases memorySize? with
  | some size => exact ⟨size, (Except.ok.inj h).symm⟩
  | none =>
      cases hsize : settings.memorySize with
      | error e =>
          simp only [create, hsize] at h
          cases h
      | ok size =>
          simp only [create, hsize] at h
          exact ⟨size, (Except.ok.inj h).symm⟩

/-- Whether a reset may be in an operation: it is one, or a listener resets in its course. -/
def Operation.MayReset : Operation → Prop
  | .step conduct => conduct.Resets
  | .run conduct _ _ => ∃ round, (conduct round).Resets
  | .reset => True
  | .load _ | .stop | .subscribe _ | .unsubscribe _ => False

/-- An operation **loads** if it is the load of a source that is accepted. -/
def Loads (s : Simulator) (op : Operation) : Prop :=
  ∃ source count, op = .load source ∧ (s.load source).answer = .ok (.loaded count)

/-! ### Loads -/

/-- A load puts the program of the source into the machine, or changes nothing. -/
theorem load_cases (s : Simulator) (source : Text) :
    (∃ p, assemble source = .ok p ∧
      (s.load source).simulator = { s with
        machine := s.machine.load p.instructions
        labels := p.labels
        running := false } ∧
      (s.load source).answer = .ok (.loaded p.instructions.length)) ∨
    (∃ e, assemble source = .error e ∧ (s.load source).simulator = s ∧
      ∀ count, (s.load source).answer ≠ .ok (.loaded count)) := by
  cases h : assemble source with
  | ok p => exact .inl ⟨p, rfl, by rw [load, h], by rw [load, h]⟩
  | error e =>
      cases e with
      | parse e => exact .inr ⟨_, rfl, by rw [load, h], by simp [load, h]⟩
      | tooManyDigits count => exact .inr ⟨_, rfl, by rw [load, h], by simp [load, h]⟩

/-- No load restarts the machine. -/
theorem not_restarts_load (s : Simulator) (source : Text) : ¬(s.load source).Restarts := by
  have hremarks : Remark.restarted ∉ assemblyRemarks source := by
    simp [assemblyRemarks]
  simp only [Turn.Restarts, load]
  split
  · simp [hremarks]
  · simp [hremarks]
  · simp [hremarks]

/-! ### Runs -/

section Runs

variable {conduct : Nat → Conduct}

/-- **What every step keeps, a run keeps**: a property of a simulator and of the journal so far
that steps under the conduct, stopping, and the note of a step limit keep. -/
theorem RunState.go_preserves {P : Simulator → List JournalEntry → Prop}
    (hstep : ∀ s journal round, P s journal →
      P (s.stepWith (conduct round)).simulator (journal ++ (s.stepWith (conduct round)).journal))
    (hstop : ∀ s journal, P s journal → P s.stop journal)
    (hnote : ∀ s journal steps, P s journal →
      P s (journal ++ [.noted (.limitReached steps)]))
    {maxSteps? : Option Int} {pause : Delay} (rounds : Nat) {r : RunState}
    (h : P r.simulator r.journal.toList) :
    P (go conduct maxSteps? pause rounds r).simulator
      (go conduct maxSteps? pause rounds r).journal := by
  induction rounds generalizing r with
  | zero => exact hstop _ _ h
  | succ rounds ih =>
      rw [go]
      cases he : r.ending? maxSteps? with
      | some t =>
          obtain ⟨-, rfl⟩ | ⟨-, -, rfl⟩ := ending?_cases he
          · exact hstop _ _ h
          · simpa [finish] using hstop _ _ (hnote _ _ r.steps h)
      | none =>
          have hafter := hstep _ _ r.steps h
          obtain ⟨e, -, ha⟩ | ⟨o, -, -, ha⟩ | ⟨o, -, -, -, ha⟩ | ⟨o, e, -, -, -, -, ha⟩ |
              ⟨o, -, -, -, -, ha⟩ := attempt_cases conduct pause r rfl <;>
            simp only [ha]
          · simpa [fail, afterStep] using hstop _ _ hafter
          · simpa [finish, afterOutcome, afterStep] using hstop _ _ hafter
          · simpa [finish, afterExecuted, afterOutcome, afterStep] using hstop _ _ hafter
          · simpa [fail, afterExecuted, afterOutcome, afterStep] using hstop _ _ hafter
          · exact ih (by simpa [afterExecuted, afterOutcome, afterStep] using hafter)

/-- The same for a run as an operation, which starts with an empty journal. -/
theorem runWith_preserves {P : Simulator → List JournalEntry → Prop}
    (hstep : ∀ s journal round, P s journal →
      P (s.stepWith (conduct round)).simulator (journal ++ (s.stepWith (conduct round)).journal))
    (hstop : ∀ s journal, P s journal → P s.stop journal)
    (hnote : ∀ s journal steps, P s journal →
      P s (journal ++ [.noted (.limitReached steps)]))
    (rounds : Nat) {s : Simulator} (options : RunOptions) (h : P s [])
    (hrunning : P { s with running := true } []) :
    P (s.runWith conduct rounds options).simulator (s.runWith conduct rounds options).journal := by
  rw [runWith]
  split
  · exact h
  · exact RunState.go_preserves hstep hstop hnote rounds hrunning

/-- A run leaves the settings alone. -/
theorem settings_runWith (rounds : Nat) (s : Simulator) (options : RunOptions) :
    (s.runWith conduct rounds options).simulator.settings = s.settings :=
  runWith_preserves (P := fun s' _ => s'.settings = s.settings)
    (fun s' _ round hs' => (heard_stepWith (conduct round) s').settings.trans hs')
    (fun _ _ hs' => hs') (fun _ _ _ hs' => hs') rounds options rfl rfl

end Runs

/-! ### Operations -/

/-- **What an operation keeps**: whatever loading, resetting and stepping a machine keep. -/
theorem machine_perform {P : Machine → Prop} (hnext : ∀ m, P m → P m.next)
    (hreset : ∀ m, P m → P m.reset) (hload : ∀ m is, P m → P (Machine.load m is))
    {s : Simulator} (op : Operation) (h : P s.machine) : P (s.perform op).simulator.machine := by
  have hstep : ∀ (s : Simulator) conduct, P s.machine →
      P (s.stepWith conduct).simulator.machine := by
    intro s conduct hs
    obtain hm | ⟨hm, -⟩ := (heard_stepWith conduct s).machine <;> rw [hm, machine_stepped]
    · exact hnext _ hs
    · exact hreset _ (hnext _ hs)
  cases op with
  | load source =>
      obtain ⟨p, -, hs, -⟩ | ⟨e, -, hs, -⟩ := load_cases s source <;> simp only [perform, hs]
      · exact hload _ _ h
      · exact h
  | step conduct => exact hstep s conduct h
  | run conduct rounds options =>
      exact runWith_preserves (P := fun s _ => P s.machine) (fun s _ _ hs => hstep s _ hs)
        (fun _ _ hs => hs) (fun _ _ _ hs => hs) rounds options h h
  | reset => exact hreset _ h
  | stop => exact h
  | subscribe l => exact h
  | unsubscribe l =>
      simp only [perform, unsubscribe]
      split <;> exact h

/-- Without a load, **an operation steps the machine** some number of times or restarts it. -/
theorem exists_iterate_of_not_loads {s : Simulator} {op : Operation} (h : ¬s.Loads op) :
    (∃ n, (s.perform op).simulator.machine = Machine.next^[n] s.machine) ∨
      (s.perform op).Restarts := by
  cases op with
  | load source =>
      obtain ⟨p, -, -, ha⟩ | ⟨e, -, hs, -⟩ := load_cases s source
      · exact absurd ⟨source, _, rfl, ha⟩ h
      · exact .inl ⟨0, by rw [perform, hs]; rfl⟩
  | step conduct =>
      exact (heard_stepWith conduct s).machine.imp (fun hm => ⟨1, hm⟩) fun ⟨_, hr⟩ => hr
  | run conduct rounds options =>
      refine runWith_preserves (P := fun s' journal =>
        (∃ n, s'.machine = Machine.next^[n] s.machine) ∨
          JournalEntry.noted .restarted ∈ journal)
        ?_ (fun _ _ hs => hs) ?_ rounds options (.inl ⟨0, rfl⟩) (.inl ⟨0, rfl⟩)
      · intro s' journal round hs'
        obtain ⟨n, hn⟩ | hr := hs'
        · obtain hm | ⟨-, hr⟩ := (heard_stepWith (conduct round) s').machine
          · refine .inl ⟨n + 1, ?_⟩
            rw [hm, machine_stepped, hn, Function.iterate_succ_apply']
          · exact .inr (List.mem_append_right _ hr)
        · exact .inr (List.mem_append_left _ hr)
      · exact fun _ _ _ hs => hs.imp_right (List.mem_append_left _)
  | reset => exact .inr (by simp [Turn.Restarts, perform, reset])
  | stop => exact .inl ⟨0, rfl⟩
  | subscribe l => exact .inl ⟨0, rfl⟩
  | unsubscribe l =>
      refine .inl ⟨0, ?_⟩
      simp only [perform, unsubscribe]
      split <;> rfl

/-- Only a reset, or a listener that resets, restarts the machine. -/
theorem mayReset_of_restarts {s : Simulator} {op : Operation} (h : (s.perform op).Restarts) :
    op.MayReset := by
  cases op with
  | load source => exact absurd h (not_restarts_load s source)
  | step conduct => exact resets_of_restarts_stepWith h
  | run conduct rounds options =>
      refine runWith_preserves (P := fun _ journal =>
        JournalEntry.noted .restarted ∈ journal → ∃ round, (conduct round).Resets)
        ?_ (fun _ _ hs => hs) ?_ rounds options (by simp) (by simp) h
      · intro s' journal round hs' hmem
        obtain hbefore | hstep := List.mem_append.mp hmem
        · exact hs' hbefore
        · exact ⟨round, resets_of_restarts_stepWith hstep⟩
      · intro s' journal steps hs' hmem
        exact hs' (by simpa using hmem)
  | reset => exact trivial
  | stop => simp [Turn.Restarts, perform] at h
  | subscribe l => simp [Turn.Restarts, perform] at h
  | unsubscribe l =>
      simp only [Turn.Restarts, perform, unsubscribe] at h
      split at h <;> simp at h

end Monocycle.Simulator
