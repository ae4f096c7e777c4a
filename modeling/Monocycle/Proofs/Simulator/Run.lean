import Monocycle.Proofs.Simulator.Listener

/-!
# Runs and their step attempts

A run of the simulator is a loop, and its definition gives the loop a number of rounds after which
it is given up. This module describes the same loop without a number of rounds:
`RunState.Ends r attempts t` says that a run in the state `r` comes to an end of its own with the
turn `t`, and lists in `attempts` the simulators that the run had at hand when it attempted a step,
in order. What the run does can then be read off the list, step attempt by step attempt.

The rounds are scaffolding: `RunState.exists_ends_iff` says that a run ends exactly if it ends in
some number of rounds without being given up, and then with the same turn.

## Main results

* `RunState.attempt_cases`: the five ways a step of a run can go.
* `RunState.attempt_leaves`: what a step of a run leaves, whether the run goes on or not.
* `RunState.Ends.unique`: how a run ends, and its step attempts, are determined.
* `RunState.exists_ends_iff`: the loop with and without rounds.
* `exists_ends_of_rounds`: a run with a step limit or a token is never given up.
-/

namespace Monocycle.Simulator

namespace RunState

/-- A run at its beginning. -/
def start (s : Simulator) (options : RunOptions) : RunState :=
  ⟨{ s with running := true }, options.cancelAfter?, 0, none, #[]⟩

/-- A run after a step attempt whose outcome is known. -/
def afterOutcome (r : RunState) (turn : Turn StepOutcome) (outcome : StepOutcome) : RunState :=
  { r.afterStep turn with last? := some outcome }

/-- A run after a step that carried an instruction out. -/
def afterExecuted (r : RunState) (turn : Turn StepOutcome) (outcome : StepOutcome) : RunState :=
  { r.afterOutcome turn outcome with steps := r.steps + 1 }

section

variable (r : RunState) (turn : Turn StepOutcome) (o : StepOutcome) (cancelled : Bool)

@[simp] theorem simulator_afterOutcome : (r.afterOutcome turn o).simulator = turn.simulator := rfl

@[simp] theorem steps_afterOutcome : (r.afterOutcome turn o).steps = r.steps := rfl

@[simp] theorem simulator_afterExecuted : (r.afterExecuted turn o).simulator = turn.simulator := rfl

@[simp] theorem steps_afterExecuted : (r.afterExecuted turn o).steps = r.steps + 1 := rfl

@[simp] theorem cancelAfter?_afterExecuted :
    (r.afterExecuted turn o).cancelAfter? = r.cancelAfter?.map (· - 1) := rfl

@[simp] theorem machine_fail (e : SimulatorError) :
    (r.fail e).simulator.machine = r.simulator.machine := rfl

@[simp] theorem machine_finish : (r.finish cancelled).simulator.machine = r.simulator.machine := rfl

end

/-- **The five ways a step of a run can go**: a listener fails, nothing is carried out, the machine
halts, the clock refuses the pause, or the run goes on. -/
theorem attempt_cases (conduct : Nat → Conduct) (pause : Delay) (r : RunState)
    {turn : Turn StepOutcome} (hturn : r.simulator.stepWith (conduct r.steps) = turn) :
    (∃ e, turn.answer = .error e ∧
      r.attempt conduct pause = .inl ((r.afterStep turn).fail e)) ∨
    (∃ o, turn.answer = .ok o ∧ o.isExecuted = false ∧
      r.attempt conduct pause = .inl ((r.afterOutcome turn o).finish false)) ∨
    (∃ o, turn.answer = .ok o ∧ o.isExecuted = true ∧ turn.simulator.machine.isHalted = true ∧
      r.attempt conduct pause = .inl ((r.afterExecuted turn o).finish false)) ∨
    (∃ o e, turn.answer = .ok o ∧ o.isExecuted = true ∧ turn.simulator.machine.isHalted = false ∧
      pause.refusal? = some e ∧
      r.attempt conduct pause = .inl ((r.afterExecuted turn o).fail (.pause e))) ∨
    (∃ o, turn.answer = .ok o ∧ o.isExecuted = true ∧ turn.simulator.machine.isHalted = false ∧
      pause.refusal? = none ∧ r.attempt conduct pause = .inr (r.afterExecuted turn o)) := by
  cases ha : turn.answer with
  | error e => exact .inl ⟨e, rfl, by simp only [attempt, hturn, ha]⟩
  | ok o =>
      cases ho : o.isExecuted with
      | false =>
          refine .inr (.inl ⟨o, rfl, ho, ?_⟩)
          simp [attempt, hturn, ha, ho, afterOutcome]
      | true =>
          cases hh : turn.simulator.machine.isHalted with
          | true =>
              refine .inr (.inr (.inl ⟨o, rfl, ho, rfl, ?_⟩))
              simp [attempt, hturn, ha, ho, hh, afterStep, afterExecuted, afterOutcome]
          | false =>
              cases hp : pause.refusal? with
              | some e =>
                  refine .inr (.inr (.inr (.inl ⟨o, e, rfl, ho, rfl, rfl, ?_⟩)))
                  simp [attempt, hturn, ha, ho, hh, hp, afterStep, afterExecuted, afterOutcome]
              | none =>
                  refine .inr (.inr (.inr (.inr ⟨o, rfl, ho, rfl, rfl, ?_⟩)))
                  simp [attempt, hturn, ha, ho, hh, hp, afterStep, afterExecuted, afterOutcome]

/-- A step of a run leaves its machine and its journal, whether the run goes on or not. -/
theorem attempt_leaves (conduct : Nat → Conduct) (pause : Delay) (r : RunState) :
    let turn := r.simulator.stepWith (conduct r.steps)
    (r.attempt conduct pause).elim (·.simulator.machine) (·.simulator.machine) =
      turn.simulator.machine ∧
    (r.attempt conduct pause).elim (·.journal) (·.journal.toList) =
      r.journal.toList ++ turn.journal := by
  intro turn
  have hjournal : (r.afterStep turn).journal.toList = r.journal.toList ++ turn.journal := by
    simp [afterStep]
  obtain ⟨e, -, hat⟩ | ⟨o, -, -, hat⟩ | ⟨o, -, -, -, hat⟩ | ⟨o, e, -, -, -, -, hat⟩ |
      ⟨o, -, -, -, -, hat⟩ := attempt_cases conduct pause r rfl <;>
    rw [hat]
  · exact ⟨rfl, hjournal⟩
  · exact ⟨rfl, hjournal⟩
  · exact ⟨rfl, hjournal⟩
  · exact ⟨rfl, hjournal⟩
  · exact ⟨rfl, hjournal⟩

/-! ### The loop without rounds -/

/-- **A run ends.** `Ends conduct maxSteps? pause r attempts t`: from the state `r` the run comes
to an end with the turn `t`, and `attempts` are the simulators at its step attempts, in order. -/
inductive Ends (conduct : Nat → Conduct) (maxSteps? : Option Int) (pause : Delay) :
    RunState → List Simulator → Turn RunResult → Prop
  /-- The run ends before its next step. -/
  | ending {r : RunState} {t : Turn RunResult} :
      r.ending? maxSteps? = some t → Ends conduct maxSteps? pause r [] t
  /-- The run ends with its next step. -/
  | last {r : RunState} {t : Turn RunResult} :
      r.ending? maxSteps? = none → r.attempt conduct pause = .inl t →
      Ends conduct maxSteps? pause r [r.simulator] t
  /-- The run goes on after its next step. -/
  | next {r r' : RunState} {attempts : List Simulator} {t : Turn RunResult} :
      r.ending? maxSteps? = none → r.attempt conduct pause = .inr r' →
      Ends conduct maxSteps? pause r' attempts t →
      Ends conduct maxSteps? pause r (r.simulator :: attempts) t

section

variable {conduct : Nat → Conduct} {maxSteps? : Option Int} {pause : Delay}
variable {r : RunState} {attempts : List Simulator} {t : Turn RunResult}

/-- How a run ends, and its step attempts, are determined. -/
theorem Ends.unique {attempts' : List Simulator} {t' : Turn RunResult}
    (h : Ends conduct maxSteps? pause r attempts t)
    (h' : Ends conduct maxSteps? pause r attempts' t') : attempts = attempts' ∧ t = t' := by
  induction h generalizing attempts' with
  | ending he =>
      cases h' with
      | ending he' => exact ⟨rfl, Option.some.inj (he.symm.trans he')⟩
      | last he' _ => cases he.symm.trans he'
      | next he' _ _ => cases he.symm.trans he'
  | last he ha =>
      cases h' with
      | ending he' => cases he.symm.trans he'
      | last _ ha' => exact ⟨rfl, Sum.inl.inj (ha.symm.trans ha')⟩
      | next _ ha' _ => cases ha.symm.trans ha'
  | next he ha _ ih =>
      cases h' with
      | ending he' => cases he.symm.trans he'
      | last _ ha' => cases ha.symm.trans ha'
      | next _ ha' hrest' =>
          cases ha.symm.trans ha'
          obtain ⟨rfl, rfl⟩ := ih hrest'
          exact ⟨rfl, rfl⟩

/-- A run that ends before its next step was cancelled or has come to its limit. -/
theorem ending?_cases (h : r.ending? maxSteps? = some t) :
    (r.isCancelled = true ∧ t = r.finish true) ∨
    (r.isCancelled = false ∧ r.isAtLimit maxSteps? = true ∧
      t = finish { r with journal := r.journal.push (.noted (.limitReached r.steps)) } false) := by
  rw [ending?] at h
  split at h
  · next hc => exact .inl ⟨hc, (Option.some.inj h).symm⟩
  · next hc =>
      split at h
      · next hl => exact .inr ⟨by simpa using hc, hl, (Option.some.inj h).symm⟩
      · cases h

/-- A run makes its next step exactly if it is not cancelled and not at its limit. -/
theorem ending?_eq_none_iff :
    r.ending? maxSteps? = none ↔ r.isCancelled = false ∧ r.isAtLimit maxSteps? = false := by
  cases hc : r.isCancelled <;> cases hl : r.isAtLimit maxSteps? <;> simp [ending?, hc, hl]

/-- A limited run that is not at its end has made fewer steps than its limit. -/
theorem steps_lt_of_ending?_eq_none {limit : Nat} (h : r.ending? (some limit) = none) :
    r.steps < limit := by
  obtain ⟨-, hlimit⟩ := ending?_eq_none_iff.mp h
  have hlt : ¬((limit : Int) ≤ r.steps) := by simpa [isAtLimit] using hlimit
  omega

/-- A run that goes on after a step has a pause that the clock takes. -/
theorem refusal?_of_attempt_eq_inr {r' : RunState} (h : r.attempt conduct pause = .inr r') :
    pause.refusal? = none := by
  obtain ⟨e, -, hat⟩ | ⟨o, -, -, hat⟩ | ⟨o, -, -, -, hat⟩ | ⟨o, e, -, -, -, -, hat⟩ |
      ⟨o, -, -, -, htaken, hat⟩ := attempt_cases conduct pause r rfl <;>
    cases hat.symm.trans h
  exact htaken

/-- A run that goes on after a step has carried an instruction out, and is not at its end. -/
theorem exists_of_attempt_eq_inr {r' : RunState} (h : r.attempt conduct pause = .inr r') :
    ∃ o, (r.simulator.stepWith (conduct r.steps)).answer = .ok o ∧ o.isExecuted = true ∧
      r' = r.afterExecuted (r.simulator.stepWith (conduct r.steps)) o := by
  obtain ⟨e, -, hat⟩ | ⟨o, -, -, hat⟩ | ⟨o, -, -, -, hat⟩ | ⟨o, e, -, -, -, -, hat⟩ |
      ⟨o, ha, ho, -, -, hat⟩ := attempt_cases conduct pause r rfl <;>
    cases hat.symm.trans h
  exact ⟨o, ha, ho, rfl⟩

/-- No end of a run before its next step is the giving up of a run. -/
theorem answer_ending? (h : r.ending? maxSteps? = some t) : t.answer ≠ .error .endless := by
  obtain ⟨-, rfl⟩ | ⟨-, -, rfl⟩ := ending?_cases h <;> simp [finish]

/-- No end of a run with a step is the giving up of a run. -/
theorem answer_attempt (h : r.attempt conduct pause = .inl t) : t.answer ≠ .error .endless := by
  have hlisteners := answer_stepWith (conduct r.steps) r.simulator
  obtain ⟨e, ha, hat⟩ | ⟨o, -, -, hat⟩ | ⟨o, -, -, -, hat⟩ | ⟨o, e, -, -, -, -, hat⟩ |
      ⟨o, -, -, -, -, hat⟩ := attempt_cases conduct pause r rfl <;>
    cases hat.symm.trans h
  · obtain hok | herr := hlisteners
    · cases ha.symm.trans hok
    · cases ha.symm.trans herr
      simp [fail]
  · simp [finish]
  · simp [finish]
  · simp [fail]

/-- A run that ends is not given up. -/
theorem Ends.answer_ne_endless (h : Ends conduct maxSteps? pause r attempts t) :
    t.answer ≠ .error .endless := by
  induction h with
  | ending he => exact answer_ending? he
  | last _ ha => exact answer_attempt ha
  | next _ _ _ ih => exact ih

/-- A run that ends does so within any number of rounds greater than that of its attempts. -/
theorem Ends.go_eq (h : Ends conduct maxSteps? pause r attempts t) {rounds : Nat}
    (hrounds : attempts.length < rounds) : go conduct maxSteps? pause rounds r = t := by
  obtain ⟨rounds, rfl⟩ : ∃ k, rounds = k + 1 := ⟨rounds - 1, by omega⟩
  induction h generalizing rounds with
  | ending he => rw [go, he]
  | last he ha => rw [go, he, ha]
  | next he ha _ ih =>
      rw [List.length_cons] at hrounds
      obtain ⟨rounds, rfl⟩ : ∃ k, rounds = k + 1 := ⟨rounds - 1, by omega⟩
      rw [go, he, ha]
      exact ih rounds (by omega)

/-- A run that is not given up ends. -/
theorem exists_ends_of_go {rounds : Nat} (h : go conduct maxSteps? pause rounds r = t)
    (hne : t.answer ≠ .error .endless) : ∃ attempts, Ends conduct maxSteps? pause r attempts t := by
  induction rounds generalizing r with
  | zero =>
      subst h
      exact absurd rfl hne
  | succ rounds ih =>
      rw [go] at h
      cases he : r.ending? maxSteps? with
      | some t' =>
          rw [he] at h
          subst h
          exact ⟨[], .ending he⟩
      | none =>
          rw [he] at h
          cases ha : r.attempt conduct pause with
          | inl t' =>
              rw [ha] at h
              subst h
              exact ⟨[r.simulator], .last he ha⟩
          | inr r' =>
              rw [ha] at h
              obtain ⟨attempts, hrest⟩ := ih h
              exact ⟨r.simulator :: attempts, .next he ha hrest⟩

/-- **The loop with and without rounds**: a run ends exactly if it ends in some number of rounds
without being given up. -/
theorem exists_ends_iff :
    (∃ attempts, Ends conduct maxSteps? pause r attempts t) ↔
      t.answer ≠ .error .endless ∧ ∃ rounds, go conduct maxSteps? pause rounds r = t := by
  constructor
  · rintro ⟨attempts, h⟩
    exact ⟨h.answer_ne_endless, attempts.length + 1, h.go_eq (Nat.lt_succ_self _)⟩
  · rintro ⟨hne, rounds, h⟩
    exact exists_ends_of_go h hne

/-- **A run within bounds ends**: the steps to its limit, or the answers its token has left, are at
least as many as its step attempts. -/
theorem exists_ends_of_bounded {bound : Nat}
    (h : (∃ m, maxSteps? = some m ∧ m.toNat ≤ r.steps + bound) ∨
      ∃ c, r.cancelAfter? = some c ∧ c ≤ bound) :
    ∃ attempts t, Ends conduct maxSteps? pause r attempts t ∧ attempts.length ≤ bound := by
  induction bound generalizing r with
  | zero =>
      have hending : r.ending? maxSteps? ≠ none := by
        rw [Ne, ending?_eq_none_iff]
        rintro ⟨hc, hl⟩
        obtain ⟨m, rfl, hm⟩ | ⟨c, hc', hzero⟩ := h
        · simp only [isAtLimit, decide_eq_false_iff_not] at hl
          omega
        · obtain rfl : c = 0 := by omega
          simp [isCancelled, hc'] at hc
      obtain ⟨t, ht⟩ := Option.ne_none_iff_exists'.mp hending
      exact ⟨[], t, .ending ht, Nat.le_refl 0⟩
  | succ bound ih =>
      cases he : r.ending? maxSteps? with
      | some t => exact ⟨[], t, .ending he, Nat.zero_le _⟩
      | none =>
          cases ha : r.attempt conduct pause with
          | inl t => exact ⟨[r.simulator], t, .last he ha, Nat.succ_le_succ (Nat.zero_le _)⟩
          | inr r' =>
              obtain ⟨o, -, -, rfl⟩ := exists_of_attempt_eq_inr ha
              obtain ⟨attempts, t, hends, hlength⟩ := ih (r := r.afterExecuted _ o) (by
                obtain ⟨m, hm, hle⟩ | ⟨c, hc, hle⟩ := h
                · exact .inl ⟨m, hm, by rw [steps_afterExecuted]; omega⟩
                · exact .inr ⟨c - 1, by simp [hc], by omega⟩)
              exact ⟨r.simulator :: attempts, t, .next he ha hends, Nat.succ_le_succ hlength⟩

end

end RunState

/-- A run that begins and ends gives its turn in any number of rounds greater than that of its
attempts. -/
theorem runWith_eq_of_ends {conduct : Nat → Conduct} {s : Simulator} {options : RunOptions}
    {pause : Delay} {attempts : List Simulator} {t : Turn RunResult} {rounds : Nat}
    (hpause : s.runPause options = .ok pause)
    (h : RunState.Ends conduct options.maxSteps? pause (.start s options) attempts t)
    (hrounds : attempts.length < rounds) : s.runWith conduct rounds options = t := by
  rw [runWith, hpause]
  exact h.go_eq hrounds

/-- **A bounded run ends within its rounds**: with a limit or a token a run is never given up. -/
theorem exists_ends_of_rounds (conduct : Nat → Conduct) (s : Simulator) (options : RunOptions)
    (hbounded : options.maxSteps?.isSome = true ∨ options.cancelAfter?.isSome = true)
    {pause : Delay} (hpause : s.runPause options = .ok pause) :
    ∃ attempts, RunState.Ends conduct options.maxSteps? pause (.start s options) attempts
      (s.runWith conduct options.rounds options) := by
  obtain ⟨attempts, t, hends, hlength⟩ : ∃ attempts t,
      RunState.Ends conduct options.maxSteps? pause (.start s options) attempts t ∧
        attempts.length ≤ options.rounds - 1 := by
    apply RunState.exists_ends_of_bounded
    obtain ⟨maxSteps?, cancelAfter?, pause?⟩ := options
    cases maxSteps? with
    | none =>
        cases cancelAfter? with
        | none => simp at hbounded
        | some c => exact .inr ⟨c, rfl, Nat.le_refl c⟩
    | some m =>
        cases cancelAfter? with
        | none => exact .inl ⟨m, rfl, by simp [RunOptions.rounds, RunState.start]⟩
        | some c =>
            simp only [RunOptions.rounds, RunState.start]
            rcases Nat.le_total m.toNat c with hle | hle
            · exact .inl ⟨m, rfl, by omega⟩
            · exact .inr ⟨c, rfl, by omega⟩
  have hpositive : 0 < options.rounds := by
    rw [RunOptions.rounds]
    split
    · exact Nat.succ_pos _
    · exact Nat.succ_pos _
    · exact Nat.succ_pos _
    · exact Nat.succ_pos _
  rw [runWith_eq_of_ends hpause hends (by omega)]
  exact ⟨attempts, hends⟩

end Monocycle.Simulator
