import Monocycle.Proofs.Machine.Stretch
import Monocycle.Proofs.Simulator.Segments

/-!
# Why a run stops

A run that no listener stops is ended by one of three bounds: its token has used up its patience,
its step limit is reached, or the machine has gone as far as it goes (`Machine.stretch`). The run
makes as many steps as the least of the three allows. Which of them ended it is a matter of the
order in which they are looked at: before every step the token, then the limit; and after a step
that was carried out, whether it halted the machine. So a token that runs out together with the
limit cancels the run, and one that runs out with a step that halts the machine does not.

`Account` says all of this, with `⊤` for a bound that is absent. It is proved from the end of the
run on: one step more makes each of the three bounds greater by one, and so the number of steps.

## Main definitions

* `Simulator.Unstopped`: no listener stops or resets the simulator in the course of a run.
* `RunOptions.patience`, `RunOptions.limit`, `Account`: the account of a run.
* `ComesToPause`: a run goes on behind its first step.

## Main results

* `unstopped_of_quietOn`: a run is unstopped if its listeners only change the subscriptions.
* `RunState.Ends.account`, `RunState.Ends.account_start`: the account of what is left of a run, and
  of a whole one.
* `RunState.Ends.breaks_off`: a pause that the clock refuses breaks a run off.
* `account_of_run`: **when and why a run stops.**
-/

namespace Monocycle

namespace Simulator

/-! ### Runs that no listener stops -/

/-- A run is **unstopped** if no listener stops or resets the simulator at any of its step
attempts. -/
def Unstopped (s : Simulator) (conduct : Nat → Conduct) (options : RunOptions) : Prop :=
  ∀ pause attempts t,
    RunState.Ends conduct options.maxSteps? pause (.start s options) attempts t →
    ∀ i a, attempts[i]? = some a → ¬(conduct i).StopsAt a

end Simulator

/-- The listeners of a class are **quiet**: all they do at an event is to change the subscriptions,
and they bring in none but listeners of their class. -/
def Conduct.QuietOn (conduct : Conduct) (P : Listener → Prop) : Prop :=
  ∀ position l event, P l → ∀ a ∈ conduct position l event,
    (∃ other, P other ∧ a = .subscribe other) ∨ ∃ other, a = .unsubscribe other

namespace Simulator

variable {P : Listener → Prop}

/-- Changes of the subscriptions bring in no listener that was not named. -/
theorem listeners_actAll {actions : List Action}
    (h : ∀ a ∈ actions, (∃ l, P l ∧ a = .subscribe l) ∨ ∃ l, a = .unsubscribe l) {s : Simulator}
    (hs : ∀ l ∈ s.listeners, P l) : ∀ l ∈ (actAll actions s).simulator.listeners, P l := by
  induction actions generalizing s with
  | nil => exact hs
  | cons a rest ih =>
      have hrest := fun a ha => h a (List.mem_cons_of_mem _ ha)
      obtain ⟨l, hl, rfl⟩ | ⟨l, rfl⟩ := h a List.mem_cons_self
      · refine ih hrest (s := s.subscribe l) fun l' hl' => ?_
        obtain hold | hnew := List.mem_append.mp hl'
        · exact hs l' hold
        · exact List.mem_singleton.mp hnew ▸ hl
      · rw [actAll, act, unsubscribe]
        split
        · exact ih hrest fun l' hl' => hs l' (List.mem_of_mem_erase hl')
        · exact hs

theorem listeners_notify {conduct : Conduct} (h : conduct.QuietOn P) (event : StepEvent)
    (position : Nat) {ls : List Listener} (hls : ∀ l ∈ ls, P l) {s : Simulator}
    (hs : ∀ l ∈ s.listeners, P l) :
    ∀ l ∈ (notify conduct event position ls s).simulator.listeners, P l := by
  induction ls generalizing position s with
  | nil => exact hs
  | cons l rest ih =>
      have hdeliver := listeners_actAll (h position l event (hls l List.mem_cons_self)) hs
      rw [notify, Turn.andThen]
      split
      · exact hdeliver
      · exact ih _ (fun l' hl' => hls l' (List.mem_cons_of_mem _ hl')) hdeliver

/-- Quiet listeners do not stop a step. -/
theorem not_stopsAt_of_quietOn {conduct : Conduct} (h : conduct.QuietOn P) {s : Simulator}
    (hs : ∀ l ∈ s.listeners, P l) : ¬conduct.StopsAt s := by
  rintro ⟨position, l, hl, hmem⟩
  have hP : P l := hs l (List.mem_of_getElem? hl)
  rcases hmem with hmem | hmem
  · obtain ⟨_, -, heq⟩ | ⟨_, heq⟩ := h position l _ hP _ hmem
    · cases heq
    · cases heq
  · obtain ⟨_, -, heq⟩ | ⟨_, heq⟩ := h position l _ hP _ hmem
    · cases heq
    · cases heq

/-- **A run with quiet listeners is unstopped**, since only quiet ones come to it in its course. -/
theorem unstopped_of_quietOn {s : Simulator} {conduct : Nat → Conduct}
    (h : ∀ round, (conduct round).QuietOn P) (hs : ∀ l ∈ s.listeners, P l) (options : RunOptions) :
    s.Unstopped conduct options := by
  intro pause attempts t hends i a ha
  refine not_stopsAt_of_quietOn (h i) ?_
  have hall : ∀ {r : RunState}, RunState.Ends conduct options.maxSteps? pause r attempts t →
      (∀ l ∈ r.simulator.listeners, P l) → ∀ a ∈ attempts, ∀ l ∈ a.listeners, P l := by
    intro r hr hlisteners
    clear hends ha
    induction hr with
    | ending _ => simp
    | last _ _ => simpa using hlisteners
    | @next r r' attempts t _ hattempt _ ih =>
        obtain ⟨o, -, -, rfl⟩ := RunState.exists_of_attempt_eq_inr hattempt
        refine List.forall_mem_cons.mpr ⟨hlisteners, ih ?_⟩
        exact listeners_notify (h r.steps) _ 0 hlisteners hlisteners
  exact hall hends hs a (List.mem_of_getElem? ha)

/-! ### The account of a run -/

/-- How often a token answers that a run may go on; without a token there is no end to it. -/
def patienceOf (cancelAfter? : Option Nat) : ℕ∞ :=
  cancelAfter?.elim ⊤ fun n => (n : ℕ∞)

/-- How many steps a limit leaves after some steps; a negative limit leaves none, and without a
limit there is no end to them. -/
def roomOf (maxSteps? : Option Int) (steps : Nat) : ℕ∞ :=
  maxSteps?.elim ⊤ fun m => ((m.toNat - steps : ℕ) : ℕ∞)

/-- How often the token of a run answers that the run may go on. -/
def RunOptions.patience (options : RunOptions) : ℕ∞ :=
  patienceOf options.cancelAfter?

/-- The step limit of a run. -/
def RunOptions.limit (options : RunOptions) : ℕ∞ :=
  roomOf options.maxSteps? 0

/-- **Account** of a run that began with the machine `start` and left the machine `final`. -/
structure Account (patience limit : ℕ∞) (start : Machine) (result : RunResult) (final : Machine) :
    Prop where
  /-- The least of the three bounds tells the number of steps. -/
  steps : (result.steps : ℕ∞) = min patience (min limit start.stretch)
  /-- There is no outcome exactly if no step was attempted. -/
  last : result.last? = none ↔ min patience limit = 0
  /-- The run was cancelled exactly if the token ran out no later than the limit, and either before
  the machine had gone as far as it goes, or just then and no step had halted the machine. -/
  cancelled : result.cancelled = true ↔ patience ≤ limit ∧ (patience < start.stretch ∨
    ∃ k : ℕ, patience = k ∧ start.stretch = k ∧
      (k = 0 ∨ (Machine.next^[k] start).isHalted = false))
  /-- A run that was not cancelled has another reason to stop. -/
  ended : result.cancelled = false → (result.steps : ℕ∞) = limit ∨ final.isHalted = true ∨
    ∃ o, result.last? = some o ∧ o.isExecuted = false
  /-- The machine is halted if there was nothing left to carry out. -/
  nothing_left : result.last? = some .halted → final.isHalted = true
  halted : result.halted = final.isHalted

/-- A run **comes to a pause** if it makes a step and goes on behind it. -/
structure ComesToPause (patience limit : ℕ∞) (start : Machine) : Prop where
  patience : patience ≠ 0
  limit : limit ≠ 0
  executed : start.outcome.isExecuted = true
  goes : start.next.isHalted = false

section

variable {cancelAfter? : Option Nat} {maxSteps? : Option Int} {steps : Nat}

/-- A token that has not run out has an answer more than afterwards. -/
theorem patienceOf_succ (h : cancelAfter? ≠ some 0) :
    patienceOf cancelAfter? = patienceOf (cancelAfter?.map (· - 1)) + 1 := by
  cases cancelAfter? with
  | none => rfl
  | some n =>
      obtain ⟨n, rfl⟩ := Nat.exists_eq_succ_of_ne_zero fun hn => h (congrArg some hn)
      rfl

/-- A limit that is not reached has room for a step more than afterwards. -/
theorem roomOf_succ {r : RunState} (h : r.isAtLimit maxSteps? = false) :
    roomOf maxSteps? r.steps = roomOf maxSteps? (r.steps + 1) + 1 := by
  cases maxSteps? with
  | none => rfl
  | some m =>
      have hlt : ¬m ≤ r.steps := by simpa [RunState.isAtLimit] using h
      have hsucc : m.toNat - r.steps = m.toNat - (r.steps + 1) + 1 := by omega
      simp only [roomOf, Option.elim_some, hsucc, Nat.cast_add, Nat.cast_one]

/-- A limit that is reached has no room left. -/
theorem roomOf_eq_zero {r : RunState} (h : r.isAtLimit maxSteps? = true) :
    roomOf maxSteps? r.steps = 0 := by
  cases maxSteps? with
  | none => cases h
  | some m =>
      have hle : m ≤ r.steps := by simpa [RunState.isAtLimit] using h
      have hzero : m.toNat - r.steps = 0 := by omega
      simp only [roomOf, Option.elim_some, hzero, Nat.cast_zero]

end

/-! ### The ways a run ends -/

section

variable {patience limit : ℕ∞} {start final : Machine}

/-- A run that is cancelled before its first step. -/
theorem account_of_cancelled (limit : ℕ∞) (m : Machine) :
    Account 0 limit m ⟨0, none, m.isHalted, true⟩ m where
  steps := by simp
  last := by simp
  cancelled := by
    refine iff_of_true rfl ⟨zero_le, ?_⟩
    by_cases hstretch : m.stretch = 0
    · exact .inr ⟨0, rfl, hstretch, .inl rfl⟩
    · exact .inl (pos_of_ne_zero hstretch)
  ended h := Bool.noConfusion h
  nothing_left h := by cases h
  halted := rfl

/-- A run whose limit leaves no step, and whose token has not run out. -/
theorem account_of_limit (m : Machine) :
    Account (patience + 1) 0 m ⟨0, none, m.isHalted, false⟩ m where
  steps := by simp
  last := by simp
  cancelled := iff_of_false Bool.false_ne_true fun ⟨hle, _⟩ => by simp at hle
  ended _ := .inl rfl
  nothing_left h := by cases h
  halted := rfl

/-- A run whose first step carries nothing out. -/
theorem account_of_not_isExecuted (hexecuted : start.outcome.isExecuted = false) :
    Account (patience + 1) (limit + 1) start
      ⟨0, some start.outcome, start.next.isHalted, false⟩ start.next where
  steps := by simp [Machine.stretch_of_not_isExecuted hexecuted]
  last := by simp
  cancelled := by
    refine iff_of_false Bool.false_ne_true ?_
    rw [Machine.stretch_of_not_isExecuted hexecuted]
    rintro ⟨-, hlt | ⟨k, hk, hzero, -⟩⟩
    · simp at hlt
    · simp [← hzero] at hk
  ended _ := .inr (.inr ⟨_, rfl, hexecuted⟩)
  nothing_left h := by
    have hout := Machine.outcome_eq_halted_iff.mp (Option.some.inj h)
    rw [Machine.next_of_not_isExecuted hexecuted, hout]
    rfl
  halted := rfl

/-- A run whose first step halts the machine. -/
theorem account_of_isHalted (hexecuted : start.outcome.isExecuted = true)
    (hhalted : start.next.isHalted = true) :
    Account (patience + 1) (limit + 1) start
      ⟨1, some start.outcome, start.next.isHalted, false⟩ start.next where
  steps := by
    rw [Machine.stretch_of_isHalted hexecuted hhalted, min_eq_right (a := limit + 1) (by simp),
      min_eq_right (by simp), Nat.cast_one]
  last := by simp
  cancelled := by
    refine iff_of_false Bool.false_ne_true ?_
    rw [Machine.stretch_of_isHalted hexecuted hhalted]
    rintro ⟨-, hlt | ⟨k, -, hone, hk⟩⟩
    · simp at hlt
    · obtain rfl : k = 1 := by exact_mod_cast hone.symm
      rw [or_iff_right Nat.one_ne_zero, Function.iterate_one, hhalted] at hk
      cases hk
  ended _ := .inr (.inl hhalted)
  nothing_left h := by
    rw [Option.some.inj h] at hexecuted
    cases hexecuted
  halted := rfl

/-- **A step in front of a run** that it does not end. -/
theorem Account.cons {rest : RunResult} (h : Account patience limit start.next rest final)
    (hexecuted : start.outcome.isExecuted = true) (hgoes : start.next.isHalted = false) :
    Account (patience + 1) (limit + 1) start
      ⟨rest.steps + 1, rest.last?.or (some start.outcome), rest.halted, rest.cancelled⟩ final where
  steps := by
    rw [Machine.stretch_of_goes_on hexecuted hgoes, min_add_add_right, min_add_add_right,
      ← h.steps, Nat.cast_add, Nat.cast_one]
  last := by simp
  cancelled := by
    rw [h.cancelled, Machine.stretch_of_goes_on hexecuted hgoes,
      ENat.add_le_add_iff_right ENat.one_ne_top, ENat.add_lt_add_iff_right ENat.one_ne_top]
    refine and_congr_right fun _ => or_congr_right ?_
    constructor
    · rintro ⟨k, hpatience, hstretch, hk⟩
      refine ⟨k + 1, by rw [hpatience]; rfl, by rw [hstretch]; rfl, .inr ?_⟩
      rw [Function.iterate_succ_apply]
      obtain rfl | hk := hk
      · exact hgoes
      · exact hk
    · rintro ⟨k, hpatience, hstretch, hk⟩
      cases k with
      | zero => simp at hpatience
      | succ k =>
          refine ⟨k, ?_, ?_, .inr ?_⟩
          · exact WithTop.add_right_cancel ENat.one_ne_top hpatience
          · exact WithTop.add_right_cancel ENat.one_ne_top hstretch
          · simpa [Function.iterate_succ_apply] using hk
  ended hcancelled := by
    obtain hlimit | hhalted | ⟨o, ho, hstuck⟩ := h.ended hcancelled
    · exact .inl (by rw [← hlimit]; rfl)
    · exact .inr (.inl hhalted)
    · exact .inr (.inr ⟨o, by rw [ho]; rfl, hstuck⟩)
  nothing_left hlast := by
    cases hrest : rest.last? with
    | none =>
        rw [hrest, Option.none_or, Option.some.injEq] at hlast
        rw [hlast] at hexecuted
        cases hexecuted
    | some o =>
        rw [hrest, Option.some_or] at hlast
        exact h.nothing_left (hrest.trans hlast)
  halted := h.halted

end

/-! ### Runs -/

/-- A step that answers, answers the outcome of the machine. -/
theorem outcome_of_answer_stepWith {conduct : Conduct} {s : Simulator} {o : StepOutcome}
    (h : (s.stepWith conduct).answer = .ok o) : s.machine.outcome = o := by
  obtain hok | herr := answer_stepWith conduct s
  · exact Except.ok.inj (hok.symm.trans h)
  · cases herr.symm.trans h

namespace RunState

/-- The result of a run under way, if `rest` is the result of what is left of it. -/
def total (r : RunState) (rest : RunResult) : RunResult :=
  ⟨r.steps + rest.steps, rest.last?.or r.last?, rest.halted, rest.cancelled⟩

variable {conduct : Nat → Conduct} {maxSteps? : Option Int} {pause : Delay}
variable {r : RunState} {attempts : List Simulator} {t : Turn RunResult}

/-- What is left of a run after a step is what was left before it, less the step. -/
theorem total_afterExecuted (r : RunState) (turn : Turn StepOutcome) (o : StepOutcome)
    (rest : RunResult) :
    (r.afterExecuted turn o).total rest =
      r.total ⟨rest.steps + 1, rest.last?.or (some o), rest.halted, rest.cancelled⟩ := by
  have hsteps : r.steps + 1 + rest.steps = r.steps + (rest.steps + 1) := by omega
  simp only [total, steps_afterExecuted, hsteps, Option.or_assoc]
  rfl

/-- **The next step of a run** that no listener stops: a listener fails, the run ends with it, the
clock refuses the pause behind it, or it goes on. -/
theorem attempt_cases_of_not_stopsAt (pause : Delay)
    (hstops : ¬(conduct r.steps).StopsAt r.simulator) :
    let m := r.simulator.machine
    (∃ t, r.attempt conduct pause = .inl t ∧ t.answer = .error .notSubscribed) ∨
    (∃ t, r.attempt conduct pause = .inl t ∧ m.outcome.isExecuted = false ∧
      t.simulator.machine = m.next ∧
      t.answer = .ok (r.total ⟨0, some m.outcome, m.next.isHalted, false⟩)) ∨
    (∃ t, r.attempt conduct pause = .inl t ∧ m.outcome.isExecuted = true ∧
      m.next.isHalted = true ∧ t.simulator.machine = m.next ∧
      t.answer = .ok (r.total ⟨1, some m.outcome, m.next.isHalted, false⟩)) ∨
    (∃ t e, r.attempt conduct pause = .inl t ∧ m.outcome.isExecuted = true ∧
      m.next.isHalted = false ∧ pause.refusal? = some e ∧ t.simulator.machine = m.next ∧
      t.answer = .error (.pause e)) ∨
    (m.outcome.isExecuted = true ∧ m.next.isHalted = false ∧
      r.attempt conduct pause =
        .inr (r.afterExecuted (r.simulator.stepWith (conduct r.steps)) m.outcome)) := by
  intro m
  obtain ⟨hnext, -⟩ := stepWith_of_not_stopsAt hstops
  obtain ⟨e, herr, hat⟩ | ⟨o, hok, hexecuted, hat⟩ | ⟨o, hok, hexecuted, hhalted, hat⟩ |
      ⟨o, e, hok, hexecuted, hgoes, hrefused, hat⟩ | ⟨o, hok, hexecuted, hgoes, -, hat⟩ :=
    attempt_cases conduct pause r rfl
  · refine .inl ⟨_, hat, ?_⟩
    obtain hok | herr' := answer_stepWith (conduct r.steps) r.simulator
    · cases herr.symm.trans hok
    · exact congrArg Except.error (Except.error.inj (herr.symm.trans herr'))
  · obtain rfl := outcome_of_answer_stepWith hok
    refine .inr (.inl ⟨_, hat, hexecuted, ?_, ?_⟩)
    · rw [machine_finish, simulator_afterOutcome, hnext]
    · rw [finish, simulator_afterOutcome, hnext]
      rfl
  · obtain rfl := outcome_of_answer_stepWith hok
    refine .inr (.inr (.inl ⟨_, hat, hexecuted, hnext ▸ hhalted, ?_, ?_⟩))
    · rw [machine_finish, simulator_afterExecuted, hnext]
    · rw [finish, simulator_afterExecuted, hnext]
      rfl
  · obtain rfl := outcome_of_answer_stepWith hok
    refine .inr (.inr (.inr (.inl ⟨_, e, hat, hexecuted, hnext ▸ hgoes, hrefused, ?_, rfl⟩)))
    rw [machine_fail, simulator_afterExecuted, hnext]
  · obtain rfl := outcome_of_answer_stepWith hok
    exact .inr (.inr (.inr (.inr ⟨hexecuted, hnext ▸ hgoes, hat⟩)))

/-- A run that is on is cancelled by its token alone. -/
theorem isCancelled_iff_of_running (hrunning : r.simulator.running = true) :
    r.isCancelled = true ↔ r.cancelAfter? = some 0 := by
  simp [isCancelled, hrunning]

/-- A run that is on and makes its next step has a token that has not run out, and is not at its
limit. -/
theorem token_of_ending?_eq_none (h : r.ending? maxSteps? = none)
    (hrunning : r.simulator.running = true) :
    r.cancelAfter? ≠ some 0 ∧ r.isAtLimit maxSteps? = false := by
  obtain ⟨hcancelled, hlimit⟩ := ending?_eq_none_iff.mp h
  exact ⟨mt (isCancelled_iff_of_running hrunning).mpr (Bool.eq_false_iff.mp hcancelled), hlimit⟩

/-- A run that is on and comes to a pause does not end before its next step. -/
theorem ending?_of_comesToPause (hrunning : r.simulator.running = true)
    (h : ComesToPause (patienceOf r.cancelAfter?) (roomOf maxSteps? r.steps) r.simulator.machine) :
    r.ending? maxSteps? = none := by
  refine ending?_eq_none_iff.mpr ⟨Bool.eq_false_iff.mpr fun hcancelled => h.patience ?_,
    Bool.eq_false_iff.mpr fun hlimit => h.limit (roomOf_eq_zero hlimit)⟩
  rw [(isCancelled_iff_of_running hrunning).mp hcancelled]
  rfl

/-- A run that makes its next step, carries an instruction out with it and does not halt comes to a
pause. -/
theorem comesToPause_of_ending?_eq_none (h : r.ending? maxSteps? = none)
    (hrunning : r.simulator.running = true)
    (hexecuted : r.simulator.machine.outcome.isExecuted = true)
    (hgoes : r.simulator.machine.next.isHalted = false) :
    ComesToPause (patienceOf r.cancelAfter?) (roomOf maxSteps? r.steps) r.simulator.machine := by
  obtain ⟨htoken, hlimit⟩ := token_of_ending?_eq_none h hrunning
  rw [patienceOf_succ htoken, roomOf_succ hlimit]
  exact ⟨by simp, by simp, hexecuted, hgoes⟩

/-- **What is left of a run** has its account, unless a listener fails, if the clock takes its pause
or it does not come to one. -/
theorem Ends.account (h : Ends conduct maxSteps? pause r attempts t)
    (hunstopped : ∀ i a, attempts[i]? = some a → ¬(conduct (r.steps + i)).StopsAt a)
    (hpause : pause.refusal? = none ∨ ¬ComesToPause (patienceOf r.cancelAfter?)
      (roomOf maxSteps? r.steps) r.simulator.machine)
    (hrunning : r.simulator.running = true) :
    t.answer = .error .notSubscribed ∨ ∃ rest, t.answer = .ok (r.total rest) ∧
      Account (patienceOf r.cancelAfter?) (roomOf maxSteps? r.steps) r.simulator.machine rest
        t.simulator.machine := by
  induction h with
  | @ending r t he =>
      right
      obtain ⟨hcancelled, rfl⟩ | ⟨hcancelled, hlimit, rfl⟩ := ending?_cases he
      · rw [(isCancelled_iff_of_running hrunning).mp hcancelled]
        exact ⟨⟨0, none, _, true⟩, rfl, account_of_cancelled _ _⟩
      · have htoken : r.cancelAfter? ≠ some 0 :=
          mt (isCancelled_iff_of_running hrunning).mpr (Bool.eq_false_iff.mp hcancelled)
        rw [patienceOf_succ htoken, roomOf_eq_zero hlimit]
        exact ⟨⟨0, none, _, false⟩, rfl, account_of_limit _⟩
  | @last r t he ha =>
      obtain ⟨htoken, hlimit⟩ := token_of_ending?_eq_none he hrunning
      obtain ⟨t', hat, herr⟩ | ⟨t', hat, hexecuted, hmachine, hanswer⟩ |
          ⟨t', hat, hexecuted, hhalted, hmachine, hanswer⟩ |
          ⟨t', e, hat, hexecuted, hgoes, hrefused, -⟩ | ⟨-, -, hat⟩ :=
        attempt_cases_of_not_stopsAt pause (hunstopped 0 _ rfl)
      · cases hat.symm.trans ha
        exact .inl herr
      · cases hat.symm.trans ha
        refine .inr ⟨_, hanswer, ?_⟩
        rw [patienceOf_succ htoken, roomOf_succ hlimit, hmachine]
        exact account_of_not_isExecuted hexecuted
      · cases hat.symm.trans ha
        refine .inr ⟨_, hanswer, ?_⟩
        rw [patienceOf_succ htoken, roomOf_succ hlimit, hmachine]
        exact account_of_isHalted hexecuted hhalted
      · obtain htaken | hnot := hpause
        · cases htaken.symm.trans hrefused
        · exact absurd (comesToPause_of_ending?_eq_none he hrunning hexecuted hgoes) hnot
      · cases hat.symm.trans ha
  | @next r r' attempts t he ha hrest ih =>
      have htaken := refusal?_of_attempt_eq_inr ha
      obtain ⟨htoken, hlimit⟩ := token_of_ending?_eq_none he hrunning
      obtain ⟨hnext, hon⟩ := stepWith_of_not_stopsAt (hunstopped 0 _ rfl)
      rw [Nat.add_zero] at hnext hon
      obtain ⟨t', hat, -⟩ | ⟨t', hat, -⟩ | ⟨t', hat, -⟩ | ⟨t', e, hat, -⟩ |
          ⟨hexecuted, hgoes, hat⟩ := attempt_cases_of_not_stopsAt pause (hunstopped 0 _ rfl) <;>
        cases hat.symm.trans ha
      have hlater : ∀ i a, attempts[i]? = some a → ¬(conduct (r.steps + 1 + i)).StopsAt a := by
        intro i a hi
        rw [Nat.add_assoc, Nat.add_comm 1 i]
        exact hunstopped (i + 1) a hi
      rw [simulator_afterExecuted, hnext, cancelAfter?_afterExecuted, steps_afterExecuted] at ih
      obtain herr | ⟨rest, hanswer, haccount⟩ :=
        ih hlater (.inl htaken) ((hon hexecuted).trans hrunning)
      · exact .inl herr
      · rw [patienceOf_succ htoken, roomOf_succ hlimit]
        refine .inr ⟨_, hanswer.trans (congrArg Except.ok (total_afterExecuted r _ _ rest)), ?_⟩
        exact haccount.cons hexecuted hgoes

/-- **A run breaks off at its first pause** if the clock refuses it, unless a listener fails: one step
is made by then. -/
theorem Ends.breaks_off (h : Ends conduct maxSteps? pause r attempts t)
    (hunstopped : ∀ i a, attempts[i]? = some a → ¬(conduct (r.steps + i)).StopsAt a)
    (hrunning : r.simulator.running = true) {e : DelayError} (hrefused : pause.refusal? = some e)
    (hcomes : ComesToPause (patienceOf r.cancelAfter?) (roomOf maxSteps? r.steps)
      r.simulator.machine) :
    t.answer = .error .notSubscribed ∨
      t.answer = .error (.pause e) ∧ t.simulator.machine = r.simulator.machine.next := by
  cases h with
  | ending he => cases (ending?_of_comesToPause hrunning hcomes).symm.trans he
  | last he ha =>
      obtain ⟨t', hat, herr⟩ | ⟨t', -, hstuck, -⟩ | ⟨t', -, -, hhalted, -⟩ |
          ⟨t', e', hat, -, -, hrefused', hmachine, hanswer⟩ | ⟨-, -, hat⟩ :=
        attempt_cases_of_not_stopsAt pause (hunstopped 0 _ rfl)
      · cases hat.symm.trans ha
        exact .inl herr
      · cases hstuck.symm.trans hcomes.executed
      · cases hhalted.symm.trans hcomes.goes
      · cases hat.symm.trans ha
        cases hrefused.symm.trans hrefused'
        exact .inr ⟨hanswer, hmachine⟩
      · cases hat.symm.trans ha
  | next _ ha _ => cases (refusal?_of_attempt_eq_inr ha).symm.trans hrefused

/-- **A run is off** when it has come to its end. -/
theorem Ends.not_running (h : Ends conduct maxSteps? pause r attempts t) :
    t.simulator.running = false := by
  induction h with
  | ending he =>
      obtain ⟨-, rfl⟩ | ⟨-, -, rfl⟩ := ending?_cases he
      · rfl
      · rfl
  | @last r t _ ha =>
      obtain ⟨e, -, hat⟩ | ⟨o, -, -, hat⟩ | ⟨o, -, -, -, hat⟩ | ⟨o, e, -, -, -, -, hat⟩ |
          ⟨o, -, -, -, -, hat⟩ := attempt_cases conduct pause r rfl <;>
        cases hat.symm.trans ha
      · rfl
      · rfl
      · rfl
      · rfl
  | next _ _ _ ih => exact ih

/-- **A run has an answer** if its listeners take no subscription away that is not there. -/
theorem Ends.answer_of_steps_answer (h : Ends conduct maxSteps? pause r attempts t)
    (hanswers : ∀ round s, (stepWith (conduct round) s).answer = .ok s.machine.outcome) :
    t.answer ≠ .error .notSubscribed := by
  induction h with
  | ending he =>
      obtain ⟨-, rfl⟩ | ⟨-, -, rfl⟩ := ending?_cases he
      · exact nofun
      · exact nofun
  | @last r t _ ha =>
      obtain ⟨e, herr, -⟩ | ⟨o, -, -, hat⟩ | ⟨o, -, -, -, hat⟩ | ⟨o, e, -, -, -, -, hat⟩ |
          ⟨o, -, -, -, -, hat⟩ := attempt_cases conduct pause r rfl
      · cases herr.symm.trans (hanswers r.steps r.simulator)
      · cases hat.symm.trans ha
        exact nofun
      · cases hat.symm.trans ha
        exact nofun
      · cases hat.symm.trans ha
        exact nofun
      · cases hat.symm.trans ha
  | next _ _ _ ih => exact ih

end RunState

/-- The step attempts of an unstopped run, counted from its beginning. -/
theorem Unstopped.not_stopsAt {s : Simulator} {conduct : Nat → Conduct} {options : RunOptions}
    {pause : Delay} {attempts : List Simulator} {t : Turn RunResult}
    (h : s.Unstopped conduct options)
    (hends : RunState.Ends conduct options.maxSteps? pause (.start s options) attempts t) :
    ∀ i a, attempts[i]? = some a →
      ¬(conduct ((RunState.start s options).steps + i)).StopsAt a := by
  intro i a ha
  rw [show (RunState.start s options).steps + i = i from Nat.zero_add i]
  exact h pause attempts t hends i a ha

/-- **A whole run** has its account, if the clock takes its pause or it does not come to one. -/
theorem RunState.Ends.account_start {s : Simulator} {conduct : Nat → Conduct}
    {options : RunOptions} {pause : Delay} {attempts : List Simulator} {t : Turn RunResult}
    (h : RunState.Ends conduct options.maxSteps? pause (.start s options) attempts t)
    (hunstopped : s.Unstopped conduct options)
    (hpause : pause.refusal? = none ∨
      ¬ComesToPause options.patience options.limit s.machine) :
    t.answer = .error .notSubscribed ∨ ∃ result, t.answer = .ok result ∧
      Account options.patience options.limit s.machine result t.simulator.machine := by
  obtain herr | ⟨rest, hanswer, haccount⟩ := h.account (hunstopped.not_stopsAt h) hpause rfl
  · exact .inl herr
  · exact .inr ⟨rest, hanswer.trans (by simp [RunState.total, RunState.start]), haccount⟩

end Simulator

end Monocycle
