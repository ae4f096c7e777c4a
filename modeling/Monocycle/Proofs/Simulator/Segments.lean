import Monocycle.Proofs.Machine.Run
import Monocycle.Proofs.Simulator.Conduct
import Monocycle.Proofs.Simulator.History

/-!
# Execution in segments

A program need not be carried out in one go. It can be stepped, run to a limit, stopped by a
listener or a token, and taken up again, in any order. `Segments s outcomes s'` says that a
simulator `s` was driven to `s'` in this way, and lists the outcomes of all step attempts. What
counts in the end is only how many of them carried an instruction out: the machine is the one after
so many steps, as if it had never been interrupted.

The argument is one invariant, that the machine is a run (`Machine.Ran`) of as many steps as there
were executed outcomes. An attempt that carries nothing out, which a run makes when it is taken up
behind the end of the program or at an instruction that fails, keeps it.

## Main results

* `RunState.Ends.ran`: what a run does to the machine and what it answers.
* `RunState.Ends.reaches_limit`: a run that nobody stops goes as far as its limit allows.
* `Segments.ran`: execution in segments is a run of the machine.
* `splitsRuns`: two runs with limits `m` and `n` are one run with the limit `m + n`.
* `segmented_execution`: all of it from a source that loads.
-/

namespace Monocycle.Simulator

/-- The number of outcomes that carried an instruction out. -/
def executedCount (outcomes : List StepOutcome) : Nat :=
  outcomes.countP StepOutcome.isExecuted

/-- The outcomes of the step attempts of a run. -/
def attemptOutcomes (attempts : List Simulator) : List StepOutcome :=
  attempts.map fun s => s.machine.outcome

@[simp] theorem executedCount_nil : executedCount [] = 0 := rfl

@[simp] theorem executedCount_cons (o : StepOutcome) (outcomes : List StepOutcome) :
    executedCount (o :: outcomes) = o.isExecuted.toNat + executedCount outcomes := by
  cases h : o.isExecuted <;> simp [executedCount, h, Nat.add_comm]

@[simp] theorem attemptOutcomes_nil : attemptOutcomes [] = [] := rfl

@[simp] theorem attemptOutcomes_cons (s : Simulator) (attempts : List Simulator) :
    attemptOutcomes (s :: attempts) = s.machine.outcome :: attemptOutcomes attempts := rfl

@[simp] theorem executedCount_append (outcomes outcomes' : List StepOutcome) :
    executedCount (outcomes ++ outcomes') = executedCount outcomes + executedCount outcomes' :=
  List.countP_append

/-! ### One run -/

/-- A step with mild listeners is the step of the machine. -/
theorem ran_stepWith {conduct : Conduct} (h : conduct.Mild) (s : Simulator) :
    Machine.Ran s.machine s.machine.outcome.isExecuted.toNat
      (s.stepWith conduct).simulator.machine := by
  rw [machine_stepWith_of_not_resets h.not_resets]
  have hnext := (Machine.Ran.refl s.machine).next
  rwa [Nat.zero_add] at hnext

/-- A step with mild listeners keeps the control invariant. -/
theorem controlled_stepWith {conduct : Conduct} (h : conduct.Mild) {s : Simulator}
    (hs : s.machine.Controlled) : (s.stepWith conduct).simulator.machine.Controlled := by
  rw [machine_stepWith_of_not_resets h.not_resets]
  exact hs.next

namespace RunState

variable {conduct : Nat → Conduct} {maxSteps? : Option Int} {pause : Delay}
variable {r : RunState} {attempts : List Simulator} {t : Turn RunResult}

namespace Ends

/-- **One run** with mild listeners, whatever its pause: the steps of its answer, if it has one, are
its executed outcomes, and so many steps does the machine make. -/
theorem ran (h : Ends conduct maxSteps? pause r attempts t)
    (hmild : ∀ round, (conduct round).Mild) :
    (∀ result, t.answer = .ok result →
      result.steps = r.steps + executedCount (attemptOutcomes attempts)) ∧
    Machine.Ran r.simulator.machine (executedCount (attemptOutcomes attempts))
      t.simulator.machine := by
  have hself : ∀ round, (conduct round).SelfContained := fun round => (hmild round).selfContained
  induction h with
  | ending he =>
      obtain ⟨-, rfl⟩ | ⟨-, -, rfl⟩ := ending?_cases he
      · exact ⟨fun result hresult => (Except.ok.inj hresult) ▸ rfl, .refl _⟩
      · exact ⟨fun result hresult => (Except.ok.inj hresult) ▸ rfl, .refl _⟩
  | @last r t _ ha =>
      have hstep := ran_stepWith (hmild r.steps) r.simulator
      obtain ⟨ho, hat⟩ | ⟨ho, -, hat⟩ | ⟨e, -, -, hat⟩ | ⟨-, hat⟩ :=
        attempt_cases_of_selfContained hself pause r rfl rfl
      · cases hat.symm.trans ha
        refine ⟨fun result hresult => ?_, by simpa using hstep⟩
        obtain rfl := Except.ok.inj hresult
        simp [ho]
      · cases hat.symm.trans ha
        refine ⟨fun result hresult => ?_, by simpa using hstep⟩
        obtain rfl := Except.ok.inj hresult
        simp [ho]
      · -- the step is made when the clock refuses the pause behind it
        cases hat.symm.trans ha
        refine ⟨fun result hresult => ?_, by simpa using hstep⟩
        cases hresult
      · cases hat.symm.trans ha
  | @next r r' attempts t _ ha _ ih =>
      have hstep := ran_stepWith (hmild r.steps) r.simulator
      obtain ⟨-, hat⟩ | ⟨-, -, hat⟩ | ⟨e, -, -, hat⟩ | ⟨ho, hat⟩ :=
        attempt_cases_of_selfContained hself pause r rfl rfl
      · cases hat.symm.trans ha
      · cases hat.symm.trans ha
      · cases hat.symm.trans ha
      · cases hat.symm.trans ha
        obtain ⟨hsteps, hran⟩ := ih
        rw [attemptOutcomes_cons, executedCount_cons]
        refine ⟨fun result hresult => ?_, hstep.trans hran⟩
        rw [hsteps result hresult, steps_afterExecuted, ho, Bool.toNat_true]
        omega

/-- **A run that nobody stops**, with a pause that the clock takes, makes all the steps of its limit,
or comes to a machine that carries nothing out. -/
theorem reaches_limit {m : Nat} (h : Ends conduct (some m) pause r attempts t)
    (hquiet : ∀ round, (conduct round).Mild ∧ ¬(conduct round).Stops)
    (hpause : pause.refusal? = none) (hrunning : r.simulator.running = true) (htoken : r.cancelAfter? = none)
    (hcontrolled : r.simulator.machine.Controlled) (hsteps : r.steps ≤ m) :
    ∃ result, t.answer = .ok result ∧ result.steps ≤ m ∧
      (result.steps = m ∨ t.simulator.machine.outcome.isExecuted = false) := by
  have hmild : ∀ round, (conduct round).Mild := fun round => (hquiet round).1
  have hself : ∀ round, (conduct round).SelfContained := fun round => (hmild round).selfContained
  induction h with
  | @ending r t he =>
      obtain ⟨hcancelled, -⟩ | ⟨-, hlimit, rfl⟩ := ending?_cases he
      · simp [isCancelled, hrunning, htoken] at hcancelled
      · have hlimit : (m : Int) ≤ r.steps := by simpa [isAtLimit] using hlimit
        exact ⟨_, rfl, hsteps, .inl (Nat.le_antisymm hsteps (Int.ofNat_le.mp hlimit))⟩
  | @last r t he ha =>
      have hstep := ran_stepWith (hmild r.steps) r.simulator
      obtain ⟨ho, hat⟩ | ⟨ho, hhalted, hat⟩ | ⟨e, -, hrefused, -⟩ | ⟨-, hat⟩ :=
        attempt_cases_of_selfContained hself pause r rfl rfl
      · cases hat.symm.trans ha
        refine ⟨_, rfl, hsteps, .inr ?_⟩
        rw [ho] at hstep
        exact (congrArg StepOutcome.isExecuted hstep.outcome_eq).trans ho
      · cases hat.symm.trans ha
        have hroom : r.steps + 1 ≤ m := steps_lt_of_ending?_eq_none he
        refine ⟨_, rfl, hroom, .inr ?_⟩
        rw [machine_finish, simulator_afterExecuted,
          (controlled_stepWith (hmild r.steps) hcontrolled).outcome_of_isHalted hhalted]
        rfl
      · cases hpause.symm.trans hrefused
      · cases hat.symm.trans ha
  | @next r r' attempts t he ha _ ih =>
      have hroom : r.steps + 1 ≤ m := steps_lt_of_ending?_eq_none he
      obtain ⟨-, hat⟩ | ⟨-, -, hat⟩ | ⟨e, -, -, hat⟩ | ⟨ho, hat⟩ :=
        attempt_cases_of_selfContained hself pause r rfl rfl
      · cases hat.symm.trans ha
      · cases hat.symm.trans ha
      · cases hat.symm.trans ha
      · cases hat.symm.trans ha
        refine ih ?_ (by simp [htoken]) ?_ (by rw [steps_afterExecuted]; exact hroom)
        · exact (running_stepWith_of_not_stops (hmild _) (hquiet _).2 ho).trans hrunning
        · rw [simulator_afterExecuted]
          exact controlled_stepWith (hmild r.steps) hcontrolled

/-- **A stopped run ends**: the step at which a listener stops or resets the simulator is the last
one of the run. -/
theorem length_of_stopsAt (h : Ends conduct maxSteps? pause r attempts t) {i : Nat} {a : Simulator}
    (ha : attempts[i]? = some a) (hstops : (conduct (r.steps + i)).StopsAt a) :
    attempts.length = i + 1 := by
  induction h generalizing i with
  | ending _ => simp at ha
  | last _ _ =>
      cases i with
      | zero => rfl
      | succ i => simp at ha
  | @next r r' attempts t he hattempt hrest ih =>
      obtain ⟨o, hok, -, rfl⟩ := exists_of_attempt_eq_inr hattempt
      cases i with
      | zero =>
          obtain rfl : r.simulator = a := by simpa using ha
          have hoff : (r.simulator.stepWith (conduct r.steps)).simulator.running = false :=
            not_running_of_stopsAt hstops hok
          have hcancelled : (r.afterExecuted (r.simulator.stepWith (conduct r.steps)) o).isCancelled
              = true := by
            rw [isCancelled, simulator_afterExecuted, hoff]
            rfl
          -- a run that is off ends before its next step
          cases hrest with
          | ending _ => rfl
          | last he' _ =>
              cases (ending?_eq_none_iff.mp he').1.symm.trans hcancelled
          | next he' _ _ =>
              cases (ending?_eq_none_iff.mp he').1.symm.trans hcancelled
      | succ i =>
          rw [List.length_cons, ih (i := i) (by simpa using ha)]
          have hround : (r.afterExecuted (r.simulator.stepWith (conduct r.steps)) o).steps + i =
              r.steps + (i + 1) := by
            rw [steps_afterExecuted]
            omega
          rwa [hround]

end Ends

end RunState

/-! ### Segments -/

/-- **Execution in segments**: `Segments s outcomes s'` says that a simulator `s` was driven to `s'`
by steps and runs under mild conducts, and by stops and changes of the subscriptions in between,
and that its step attempts had the outcomes given, in order. Every run comes to an end, if only
because the clock refuses its pause. -/
inductive Segments (s : Simulator) : List StepOutcome → Simulator → Prop
  | refl : Segments s [] s
  /-- One step, which answers its outcome. -/
  | step {outcomes : List StepOutcome} {s' : Simulator} {o : StepOutcome} (conduct : Conduct) :
      Segments s outcomes s' → conduct.Mild → (s'.stepWith conduct).answer = .ok o →
      Segments s (outcomes ++ [o]) (s'.stepWith conduct).simulator
  /-- One run, with any limit, token and pause. -/
  | run {outcomes : List StepOutcome} {s' : Simulator} {attempts : List Simulator} {pause : Delay}
      {t : Turn RunResult} (conduct : Nat → Conduct) (options : RunOptions) :
      Segments s outcomes s' → (∀ round, (conduct round).Mild) →
      s'.runPause options = .ok pause →
      RunState.Ends conduct options.maxSteps? pause (.start s' options) attempts t →
      Segments s (outcomes ++ attemptOutcomes attempts) t.simulator
  | stop {outcomes : List StepOutcome} {s' : Simulator} :
      Segments s outcomes s' → Segments s outcomes s'.stop
  | subscribe {outcomes : List StepOutcome} {s' : Simulator} (l : Listener) :
      Segments s outcomes s' → Segments s outcomes (s'.subscribe l)
  | unsubscribe {outcomes : List StepOutcome} {s' : Simulator} (l : Listener) :
      Segments s outcomes s' → Segments s outcomes (s'.unsubscribe l).simulator

@[simp] theorem machine_unsubscribe (s : Simulator) (l : Listener) :
    (s.unsubscribe l).simulator.machine = s.machine := by
  rw [unsubscribe]
  split
  · rfl
  · rfl

/-- **Execution in segments is a run of the machine**, of as many steps as there were executed
outcomes. -/
theorem Segments.ran {s s' : Simulator} {outcomes : List StepOutcome} (h : Segments s outcomes s') :
    Machine.Ran s.machine (executedCount outcomes) s'.machine := by
  induction h with
  | refl => exact .refl _
  | @step outcomes s' o conduct _ hmild hanswer ih =>
      obtain rfl := Except.ok.inj ((answer_stepWith_of_mild hmild s').symm.trans hanswer)
      rw [executedCount_append, executedCount_cons, executedCount_nil, Nat.add_zero]
      exact ih.trans (ran_stepWith hmild s')
  | run conduct options _ hmild _ hends ih =>
      rw [executedCount_append]
      exact ih.trans (hends.ran hmild).2
  | stop _ ih => exact ih
  | subscribe l _ ih => exact ih
  | unsubscribe l _ ih =>
      rw [machine_unsubscribe]
      exact ih

/-! ### What holds of a simulator whatever was done before -/

/-- **Steps and runs answer**, runs if the clock takes their pause, and any answer of a run counts its
executed outcomes. -/
def CountsSteps (s : Simulator) : Prop :=
  (∀ conduct : Conduct, conduct.Mild → (s.stepWith conduct).answer = .ok s.machine.outcome) ∧
  ∀ (conduct : Nat → Conduct) (options : RunOptions) (pause : Delay) (attempts : List Simulator)
    (t : Turn RunResult), (∀ round, (conduct round).Mild) →
    RunState.Ends conduct options.maxSteps? pause (.start s options) attempts t →
    (pause.refusal? = none → ∃ result, t.answer = .ok result) ∧
    ∀ result, t.answer = .ok result → result.steps = executedCount (attemptOutcomes attempts)

/-- **A stop ends a run**: when a listener stops or resets the simulator at some step attempt of a
run, under any conduct, that attempt is the last one of the run. -/
def StopsRuns (s : Simulator) : Prop :=
  ∀ (conduct : Nat → Conduct) (options : RunOptions) (pause : Delay) (attempts : List Simulator)
    (t : Turn RunResult),
    RunState.Ends conduct options.maxSteps? pause (.start s options) attempts t →
    ∀ i a, attempts[i]? = some a → (conduct i).StopsAt a → attempts.length = i + 1

/-- A run has a **pace** if its pause is known and the clock takes it. -/
def HasPace (s : Simulator) (pause? : Option Delay) : Prop :=
  ∃ pause, s.runPause ⟨none, none, pause?⟩ = .ok pause ∧ pause.refusal? = none

/-- A run with a step limit and no token. -/
def runLimited (conduct : Nat → Conduct) (limit : Nat) (pause? : Option Delay) (s : Simulator) :
    Turn RunResult :=
  let options : RunOptions := ⟨some limit, none, pause?⟩
  s.runWith conduct options.rounds options

/-- **A run can be split**: two runs with the limits `m` and `n`, one after the other, and one run
with the limit `m + n` all answer, their steps add up, and they leave machines that are alike. In
none of them a listener stops the run. -/
def SplitsRuns (s : Simulator) : Prop :=
  ∀ (m n : Nat) (first second whole : Nat → Conduct) (pause₁? pause₂? pause? : Option Delay),
    (∀ round, ∀ conduct ∈ [first round, second round, whole round],
      conduct.Mild ∧ ¬conduct.Stops) →
    (∀ pause? ∈ [pause₁?, pause₂?, pause?], s.HasPace pause?) →
    ∃ a b c,
      (s.runLimited first m pause₁?).answer = .ok a ∧
      ((s.runLimited first m pause₁?).simulator.runLimited second n pause₂?).answer = .ok b ∧
      (s.runLimited whole (m + n) pause?).answer = .ok c ∧ a.steps + b.steps = c.steps ∧
      Machine.Alike (s.runLimited whole (m + n) pause?).simulator.machine
        ((s.runLimited first m pause₁?).simulator.runLimited second n pause₂?).simulator.machine

/-- Every simulator counts the steps of its runs. -/
theorem countsSteps (s : Simulator) : s.CountsSteps := by
  refine ⟨fun conduct hmild => answer_stepWith_of_mild hmild s, ?_⟩
  intro conduct options pause attempts t hmild hends
  refine ⟨hends.exists_answer fun round => (hmild round).selfContained, fun result hresult => ?_⟩
  exact ((hends.ran hmild).1 result hresult).trans (Nat.zero_add _)

/-- Every simulator ends its runs when a listener stops them. -/
theorem stopsRuns (s : Simulator) : s.StopsRuns := by
  intro conduct options pause attempts t hends i a ha hstops
  refine hends.length_of_stopsAt ha ?_
  rwa [show (RunState.start s options).steps + i = i from Nat.zero_add i]

/-- **A limited run that nobody stops** answers, and is a run of the machine that makes all its
steps or comes to a machine that carries nothing out. -/
theorem ran_runLimited {conduct : Nat → Conduct}
    (hquiet : ∀ round, (conduct round).Mild ∧ ¬(conduct round).Stops) (limit : Nat)
    {pause? : Option Delay} {s : Simulator} (hs : s.machine.Controlled)
    (hpace : s.HasPace pause?) :
    ∃ result, (s.runLimited conduct limit pause?).answer = .ok result ∧
      Machine.Ran s.machine result.steps (s.runLimited conduct limit pause?).simulator.machine ∧
      result.steps ≤ limit ∧ (result.steps = limit ∨
        (s.runLimited conduct limit pause?).simulator.machine.outcome.isExecuted = false) := by
  obtain ⟨pause, hpause, htaken⟩ := hpace
  obtain ⟨attempts, hends⟩ := exists_ends_of_rounds conduct s
    ⟨some limit, none, pause?⟩ (.inl rfl) hpause
  obtain ⟨hsteps, hran⟩ := hends.ran fun round => (hquiet round).1
  obtain ⟨result, hresult, hle, hend⟩ := hends.reaches_limit hquiet htaken rfl rfl hs
    (Nat.zero_le limit)
  have hcount : result.steps = executedCount (attemptOutcomes attempts) :=
    (hsteps result hresult).trans (Nat.zero_add _)
  refine ⟨result, hresult, ?_, hle, hend⟩
  rw [hcount]
  exact hran

/-- A pace is a matter of the settings. -/
theorem HasPace.congr {s s' : Simulator} {pause? : Option Delay} (h : s.HasPace pause?)
    (hsettings : s'.settings = s.settings) : s'.HasPace pause? := by
  obtain ⟨pause, hpause, htaken⟩ := h
  refine ⟨pause, ?_, htaken⟩
  rw [← hpause, runPause, runPause, hsettings]

/-- **A run can be split** wherever the machine is in order. -/
theorem splitsRuns {s : Simulator} (hs : s.machine.Controlled) : s.SplitsRuns := by
  intro m n first second whole pause₁? pause₂? pause? hquiet hpaces
  obtain ⟨a, ha, hrana, hlea, henda⟩ := ran_runLimited
    (fun round => hquiet round (first round) (by simp)) m hs (hpaces pause₁? (by simp))
  have hcut : (s.runLimited first m pause₁?).simulator.HasPace pause₂? :=
    (hpaces pause₂? (by simp)).congr (settings_runWith _ s _)
  obtain ⟨b, hb, hranb, hleb, hendb⟩ := ran_runLimited
    (fun round => hquiet round (second round) (by simp)) n (hrana.controlled hs) hcut
  obtain ⟨c, hc, hranc, hlec, hendc⟩ := ran_runLimited
    (fun round => hquiet round (whole round) (by simp)) (m + n) hs (hpaces pause? (by simp))
  have htwo := hrana.trans hranb
  have hend : a.steps + b.steps = m + n ∨ ((s.runLimited first m pause₁?).simulator.runLimited
      second n pause₂?).simulator.machine.outcome.isExecuted = false := by
    rcases henda with hfull | hstuck
    · rcases hendb with hfull' | hstuck'
      · exact .inl (by omega)
      · exact .inr hstuck'
    · exact .inr (hranb.of_not_isExecuted hstuck).2
  have hsteps : a.steps + b.steps = c.steps :=
    htwo.steps_unique hranc (Nat.add_le_add hlea hleb) hlec hend hendc
  refine ⟨a, b, c, ha, hb, hc, hsteps, ?_⟩
  rw [hsteps] at htwo
  exact hranc.idled.alike.symm.trans htwo.idled.alike

/-! ### From a source that loads -/

/-- **Segmented execution.** A source was loaded, and the program was driven in segments. If `k` of
the step attempts carried an instruction out, then the first `k` steps of the loaded machine all
carry an instruction out, the machine at hand is alike to the one after them, and its executed
count is `k`. Whatever was done so far, steps and runs answer and count, a run can be split, and a
stop ends a run. -/
theorem segmented_execution {s₀ s : Simulator} {source : Text} {count : Nat}
    {outcomes : List StepOutcome} (hload : (s₀.load source).answer = .ok (.loaded count))
    (h : Segments (s₀.load source).simulator outcomes s) :
    let loaded := (s₀.load source).simulator.machine
    let k := executedCount outcomes
    (∀ i < k, (Machine.next^[i] loaded).outcome.isExecuted = true) ∧
      Machine.Alike (Machine.next^[k] loaded) s.machine ∧ s.machine.executed = k ∧
      s.CountsSteps ∧ s.SplitsRuns ∧ s.StopsRuns := by
  intro loaded k
  obtain ⟨p, -, hs, -⟩ | ⟨e, -, -, hno⟩ := load_cases s₀ source
  · have hloaded : loaded = s₀.machine.load p.instructions := by
      simp only [loaded, hs]
    have hran : Machine.Ran loaded k s.machine := h.ran
    have hcontrolled : s.machine.Controlled := by
      refine hran.controlled ?_
      rw [hloaded]
      exact Machine.controlled_load _ _
    have hzero : loaded.executed = 0 := by
      rw [hloaded]
      rfl
    refine ⟨hran.executes, hran.idled.alike, ?_, countsSteps s, splitsRuns hcontrolled,
      stopsRuns s⟩
    rw [hran.executed, hzero, Nat.zero_add]
  · exact absurd hload (hno count)

/-- A run that is stopped by a listener after its first step, and a step after it, are two steps of
the program. -/
theorem segmented_execution_stopped :
    ∃ s₀ s : Simulator, ∃ outcomes : List StepOutcome,
      let source := "addi x1, x0, 5\nadd x2, x1, x1\nbeq x0, x0, 0".toList
      (s₀.load source).answer = .ok (.loaded 3) ∧
      Segments (s₀.load source).simulator outcomes s ∧ executedCount outcomes = 2 ∧
      s.machine.executed = 2 ∧ s.registers[2]? = some 10 := by
  have hquiet : Conduct.Mild fun _ _ _ => [] := fun _ _ _ => ⟨by simp, Nat.zero_le 1⟩
  have hstop : Conduct.Mild fun _ _ _ => [.stop] := fun _ _ _ => ⟨by simp, by simp⟩
  have hdriven : ∃ s₀ s : Simulator, ∃ outcomes : List StepOutcome,
      let source := "addi x1, x0, 5\nadd x2, x1, x1\nbeq x0, x0, 0".toList
      (s₀.load source).answer = .ok (.loaded 3) ∧
      Segments (s₀.load source).simulator outcomes s ∧ executedCount outcomes = 2 ∧
      s.registers[2]? = some 10 :=
    ⟨⟨.ofMemorySize 16, [], false, [⟨"watch", .none, none⟩], .builtIn⟩, _, _, rfl,
      .step _ (.run (fun _ _ _ _ => [.stop]) ⟨none, none, some 0⟩ .refl
        (fun _ => hstop) rfl (.next rfl rfl (.ending rfl))) hquiet rfl, rfl, rfl⟩
  obtain ⟨s₀, s, outcomes, hload, hsegments, hcount, hregister⟩ := hdriven
  have hexecuted : s.machine.executed = executedCount outcomes :=
    (segmented_execution hload hsegments).2.2.1
  exact ⟨s₀, s, outcomes, hload, hsegments, hcount, hexecuted.trans hcount, hregister⟩

end Monocycle.Simulator
