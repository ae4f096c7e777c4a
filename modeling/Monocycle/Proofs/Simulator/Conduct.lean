import Monocycle.Proofs.Simulator.Run

/-!
# Listeners that keep to themselves

Most listeners do little: they take notes, stop or reset the simulator, or take their own
subscription away. A conduct of that kind is `Conduct.SelfContained`, and `Conduct.Mild` if no
listener resets. Self-contained listeners never fail, so that a step with them always answers, and
with mild ones it is the step of the machine.

That they never fail rests on the count of subscriptions. An event is delivered to the
subscriptions there were when the machine was done, and while it goes round every listener has at
least as many subscriptions left as deliveries to come: a delivery takes one away at most.

A listener that stops or resets the simulator at some delivery of a step (`Conduct.StopsAt`) takes
the run off for good, since no listener can take it on again.

## Main results

* `actAll_of_own`: what actions that concern a listener alone come to.
* `answer_stepWith_of_selfContained`: with self-contained listeners a step answers its outcome.
* `machine_stepWith_of_not_resets`: without resets a step is the step of the machine.
* `stepWith_of_not_stopsAt`: a step that nobody stops is that of the machine, and a run goes on
  through it.
* `not_running_of_stopsAt`: a run that a listener stops or resets is off.
* `RunState.Ends.exists_answer`: a run with self-contained listeners has an answer.
-/

namespace Monocycle

namespace Conduct

/-- **Self-contained** conduct: all a listener does at an event is to stop or reset the simulator,
and to take away one subscription of its own at most. -/
def SelfContained (conduct : Conduct) : Prop :=
  ∀ position l event,
    (∀ a ∈ conduct position l event, a = .stop ∨ a = .reset ∨ a = .unsubscribe l) ∧
    (conduct position l event).count (.unsubscribe l) ≤ 1

/-- **Mild** conduct: all a listener does at an event is to stop the run, and to take away one
subscription of its own at most. -/
def Mild (conduct : Conduct) : Prop :=
  ∀ position l event, (∀ a ∈ conduct position l event, a = .stop ∨ a = .unsubscribe l) ∧
    (conduct position l event).count (.unsubscribe l) ≤ 1

/-- Some listener stops the run at some delivery. -/
def Stops (conduct : Conduct) : Prop :=
  ∃ position l event, Action.stop ∈ conduct position l event

/-- Some listener stops or resets the simulator at a delivery of the step that a simulator is about
to make. -/
def StopsAt (conduct : Conduct) (s : Simulator) : Prop :=
  ∃ position l, s.listeners[position]? = some l ∧
    (Action.stop ∈ conduct position l (Simulator.eventOf s.machine s.machine.step) ∨
      Action.reset ∈ conduct position l (Simulator.eventOf s.machine s.machine.step))

/-- Mild listeners are self-contained. -/
theorem Mild.selfContained {conduct : Conduct} (h : conduct.Mild) : conduct.SelfContained :=
  fun position l event => ⟨fun a ha => ((h position l event).1 a ha).imp_right .inr,
    (h position l event).2⟩

/-- Mild listeners do not reset. -/
theorem Mild.not_resets {conduct : Conduct} (h : conduct.Mild) : ¬conduct.Resets := by
  rintro ⟨position, l, event, hmem⟩
  obtain hstop | hunsubscribe := (h position l event).1 _ hmem
  · cases hstop
  · cases hunsubscribe

end Conduct

/-- Listeners that react as they say of themselves are self-contained. -/
theorem Listener.selfContained_conduct : Listener.conduct.SelfContained := by
  intro position l event
  simp only [conduct]
  split
  · cases l.reaction <;> simp [Reaction.actions]
  · simp

/-- A turn that goes on and has an answer had one before, and ends where what follows ends. -/
theorem Turn.exists_of_andThen_eq_ok {α β : Type} {t : Turn α}
    {next : Simulator → α → Turn β} {b : β} (h : (t.andThen next).answer = .ok b) :
    ∃ a, t.answer = .ok a ∧ (next t.simulator a).answer = .ok b ∧
      (t.andThen next).simulator = (next t.simulator a).simulator := by
  cases ha : t.answer with
  | error e => simp [andThen, ha] at h
  | ok a => exact ⟨a, rfl, by simpa [andThen, ha] using h, by simp [andThen, ha]⟩

namespace Simulator

/-! ### Self-contained listeners -/

/-- The actions of a listener that concern nobody else succeed while it has subscriptions left, and
take away none but its own. -/
theorem actAll_of_own {l : Listener} {actions : List Action}
    (h : ∀ a ∈ actions, a = .stop ∨ a = .reset ∨ a = .unsubscribe l) {s : Simulator}
    (hcount : actions.count (.unsubscribe l) ≤ s.listeners.count l) :
    (actAll actions s).answer = .ok () ∧ ∀ l',
      (actAll actions s).simulator.listeners.count l' =
        s.listeners.count l' - if l = l' then actions.count (.unsubscribe l) else 0 := by
  induction actions generalizing s with
  | nil => exact ⟨rfl, fun l' => by simp [actAll]⟩
  | cons a rest ih =>
      have hrest : ∀ a ∈ rest, a = .stop ∨ a = .reset ∨ a = .unsubscribe l :=
        fun a ha => h a (List.mem_cons_of_mem _ ha)
      obtain rfl | rfl | rfl := h a List.mem_cons_self
      · have hskip : (Action.stop :: rest).count (.unsubscribe l) =
            rest.count (.unsubscribe l) := by
          simp
        rw [hskip] at hcount ⊢
        exact ih (s := s.stop) hrest hcount
      · have hskip : (Action.reset :: rest).count (.unsubscribe l) =
            rest.count (.unsubscribe l) := by
          simp
        rw [hskip] at hcount ⊢
        exact ih (s := s.reset.simulator) hrest hcount
      · rw [List.count_cons_self] at hcount ⊢
        have hmem : l ∈ s.listeners := List.count_pos_iff.mp (by omega)
        have hact : s.act (.unsubscribe l) = ⟨{ s with listeners := s.listeners.erase l },
            .ok (), []⟩ := by
          rw [act, unsubscribe, if_pos hmem]
        have hone : (s.listeners.erase l).count l = s.listeners.count l - 1 := by
          rw [List.count_erase_self]
        obtain ⟨hanswer, hleft⟩ := ih (s := { s with listeners := s.listeners.erase l }) hrest
          (by simp only [hone]; omega)
        rw [actAll, hact]
        refine ⟨hanswer, fun l' => ?_⟩
        have hl' := hleft l'
        by_cases heq : l = l'
        · subst heq
          simp only [hone, if_true] at hl'
          rw [if_pos rfl]
          exact hl'.trans (by omega)
        · simp only [List.count_erase_of_ne (Ne.symm heq), if_neg heq] at hl'
          rw [if_neg heq]
          exact hl'

/-- One delivery to a self-contained listener succeeds while the listener has a subscription left,
and every listener keeps as many as there are deliveries to come. -/
theorem deliver_of_selfContained {conduct : Conduct} (h : conduct.SelfContained)
    (event : StepEvent) (position : Nat) {l : Listener} {rest : List Listener} {s : Simulator}
    (hls : ∀ l', (l :: rest).count l' ≤ s.listeners.count l') :
    let t := s.deliver l event (conduct position l event)
    t.answer = .ok () ∧ (∀ l', rest.count l' ≤ t.simulator.listeners.count l') ∧
      ∀ l', t.simulator.listeners.count l' = s.listeners.count l' -
        if l = l' then (conduct position l event).count (.unsubscribe l) else 0 := by
  intro t
  obtain ⟨hown, honce⟩ := h position l event
  have hhead := hls l
  rw [List.count_cons_self] at hhead
  obtain ⟨hanswer, hleft⟩ := actAll_of_own hown (s := s) (by omega)
  refine ⟨hanswer, fun l' => ?_, hleft⟩
  have hl' := hls l'
  rw [List.count_cons] at hl'
  refine Nat.le_trans ?_ (Nat.le_of_eq (hleft l').symm)
  by_cases heq : l = l'
  · simp only [heq, beq_self_eq_true, if_true] at hl' honce ⊢
    omega
  · simp only [beq_iff_eq, heq, if_false] at hl' ⊢
    omega

/-- **Self-contained listeners do not fail** while each has as many subscriptions left as deliveries
to come. -/
theorem answer_notify_of_selfContained {conduct : Conduct} (h : conduct.SelfContained)
    (event : StepEvent) (position : Nat) {ls : List Listener} {s : Simulator}
    (hls : ∀ l, ls.count l ≤ s.listeners.count l) :
    (notify conduct event position ls s).answer = .ok () := by
  induction ls generalizing position s with
  | nil => rfl
  | cons l rest ih =>
      obtain ⟨hanswer, hrest, -⟩ := deliver_of_selfContained h event position hls
      rw [notify, answer_andThen_of_ok hanswer]
      exact ih (position + 1) hrest

/-- **With self-contained listeners a step answers its outcome.** -/
theorem answer_stepWith_of_selfContained {conduct : Conduct} (h : conduct.SelfContained)
    (s : Simulator) : (s.stepWith conduct).answer = .ok s.machine.outcome := by
  have hnotify := answer_notify_of_selfContained h (eventOf s.machine s.machine.step) 0
    (fun l => Nat.le_refl (s.stepped.listeners.count l))
  simp only [stepWith, outcome_eventOf, hnotify]
  rfl

/-- With mild listeners a step answers its outcome. -/
theorem answer_stepWith_of_mild {conduct : Conduct} (h : conduct.Mild) (s : Simulator) :
    (s.stepWith conduct).answer = .ok s.machine.outcome :=
  answer_stepWith_of_selfContained h.selfContained s

/-- **Without resets a step is the step of the machine.** -/
theorem machine_stepWith_of_not_resets {conduct : Conduct} (h : ¬conduct.Resets) (s : Simulator) :
    (s.stepWith conduct).simulator.machine = s.machine.next := by
  obtain hm | ⟨-, hrestarts⟩ := (heard_stepWith conduct s).machine
  · exact hm
  · exact absurd (resets_of_restarts_stepWith hrestarts) h

/-! ### Runs that nobody stops -/

/-- Actions without a stop or a reset among them leave the machine alone and a run on. -/
theorem actAll_of_not_stops {actions : List Action} (hstop : Action.stop ∉ actions)
    (hreset : Action.reset ∉ actions) (s : Simulator) :
    (actAll actions s).simulator.machine = s.machine ∧
      (actAll actions s).simulator.running = s.running := by
  induction actions generalizing s with
  | nil => exact ⟨rfl, rfl⟩
  | cons a rest ih =>
      have hrest := ih (fun hmem => hstop (List.mem_cons_of_mem _ hmem))
        (fun hmem => hreset (List.mem_cons_of_mem _ hmem))
      cases a with
      | stop => exact absurd List.mem_cons_self hstop
      | reset => exact absurd List.mem_cons_self hreset
      | subscribe l => exact hrest (s.subscribe l)
      | unsubscribe l =>
          rw [actAll, act, unsubscribe]
          split
          · exact hrest _
          · exact ⟨rfl, rfl⟩

theorem notify_of_not_stops {conduct : Conduct} {event : StepEvent} {position : Nat}
    {ls : List Listener} (h : ∀ i l, ls[i]? = some l →
      Action.stop ∉ conduct (position + i) l event ∧
        Action.reset ∉ conduct (position + i) l event) (s : Simulator) :
    (notify conduct event position ls s).simulator.machine = s.machine ∧
      (notify conduct event position ls s).simulator.running = s.running := by
  induction ls generalizing position s with
  | nil => exact ⟨rfl, rfl⟩
  | cons l rest ih =>
      obtain ⟨hstop, hreset⟩ := h 0 l rfl
      obtain ⟨hmachine, hrunning⟩ := actAll_of_not_stops hstop hreset s
      have hrest : ∀ i l, rest[i]? = some l →
          Action.stop ∉ conduct (position + 1 + i) l event ∧
            Action.reset ∉ conduct (position + 1 + i) l event := by
        intro i l hl
        rw [Nat.add_assoc, Nat.add_comm 1 i]
        exact h (i + 1) l hl
      rw [notify, Turn.andThen]
      split
      · exact ⟨hmachine, hrunning⟩
      · obtain ⟨hmachine', hrunning'⟩ := ih hrest _
        exact ⟨hmachine'.trans hmachine, hrunning'.trans hrunning⟩

/-- **A step that nobody stops** is the step of the machine, and a run goes on through it if it is
carried out. -/
theorem stepWith_of_not_stopsAt {conduct : Conduct} {s : Simulator} (h : ¬conduct.StopsAt s) :
    (s.stepWith conduct).simulator.machine = s.machine.next ∧
      (s.machine.outcome.isExecuted = true →
        (s.stepWith conduct).simulator.running = s.running) := by
  have hquiet : ∀ i l, s.stepped.listeners[i]? = some l →
      Action.stop ∉ conduct (0 + i) l (eventOf s.machine s.machine.step) ∧
        Action.reset ∉ conduct (0 + i) l (eventOf s.machine s.machine.step) := by
    intro i l hl
    rw [Nat.zero_add]
    exact ⟨fun hmem => h ⟨i, l, hl, .inl hmem⟩, fun hmem => h ⟨i, l, hl, .inr hmem⟩⟩
  obtain ⟨hmachine, hrunning⟩ := notify_of_not_stops hquiet s.stepped
  refine ⟨hmachine, fun hexecuted => hrunning.trans ?_⟩
  simp only [stepped]
  split
  · rfl
  · next e he =>
      rw [Machine.outcome, he] at hexecuted
      cases hexecuted

/-- **A run that nobody stops goes on** through a step that is carried out. -/
theorem running_stepWith_of_not_stops {conduct : Conduct} (h : conduct.Mild)
    (hstops : ¬conduct.Stops) {s : Simulator} (hexecuted : s.machine.outcome.isExecuted = true) :
    (s.stepWith conduct).simulator.running = s.running := by
  refine (stepWith_of_not_stopsAt ?_).2 hexecuted
  rintro ⟨position, l, -, hmem | hmem⟩
  · exact hstops ⟨position, l, _, hmem⟩
  · exact h.not_resets ⟨position, l, _, hmem⟩

/-! ### Runs that are stopped -/

/-- A run is off after actions that went through and had a stop or a reset among them. -/
theorem not_running_actAll {actions : List Action} {s : Simulator}
    (hmem : Action.stop ∈ actions ∨ Action.reset ∈ actions)
    (hok : (actAll actions s).answer = .ok ()) : (actAll actions s).simulator.running = false := by
  induction actions generalizing s with
  | nil => simp at hmem
  | cons a rest ih =>
      obtain ⟨_, -, hrest, hsim⟩ := Turn.exists_of_andThen_eq_ok hok
      rw [actAll, hsim]
      by_cases hlater : Action.stop ∈ rest ∨ Action.reset ∈ rest
      · exact ih hlater hrest
      · have hnow : (s.act a).simulator.running = false := by
          simp only [List.mem_cons] at hmem
          have ha : a = .stop ∨ a = .reset := by
            rcases hmem with (rfl | hm) | (rfl | hm)
            · exact .inl rfl
            · exact absurd (.inl hm) hlater
            · exact .inr rfl
            · exact absurd (.inr hm) hlater
          obtain rfl | rfl := ha <;> rfl
        by_contra hr
        have hback := (heard_actAll rest (s.act a).simulator).running (by simpa using hr)
        rw [hnow] at hback
        exact Bool.noConfusion hback

theorem not_running_notify {conduct : Conduct} {event : StepEvent} {position : Nat}
    {ls : List Listener} {s : Simulator}
    (hstops : ∃ i l, ls[i]? = some l ∧ (Action.stop ∈ conduct (position + i) l event ∨
      Action.reset ∈ conduct (position + i) l event))
    (hok : (notify conduct event position ls s).answer = .ok ()) :
    (notify conduct event position ls s).simulator.running = false := by
  induction ls generalizing position s with
  | nil => simp at hstops
  | cons head rest ih =>
      obtain ⟨_, hdeliver, hrest, hsim⟩ := Turn.exists_of_andThen_eq_ok hok
      rw [notify, hsim]
      obtain ⟨i, l, hl, hmem⟩ := hstops
      cases i with
      | zero =>
          cases Option.some.inj hl
          have hnow := not_running_actAll hmem hdeliver
          by_contra hr
          have hback := (heard_notify conduct event (position + 1) rest _).running
            (by simpa using hr)
          exact Bool.noConfusion (hnow.symm.trans hback)
      | succ i =>
          refine ih ⟨i, l, by simpa using hl, ?_⟩ hrest
          rwa [Nat.add_assoc, Nat.add_comm 1 i]

/-- **A run that a listener stops or resets is off** after the step. -/
theorem not_running_of_stopsAt {conduct : Conduct} {s : Simulator} (h : conduct.StopsAt s)
    {o : StepOutcome} (hok : (s.stepWith conduct).answer = .ok o) :
    (s.stepWith conduct).simulator.running = false := by
  have hnotify : (notify conduct (eventOf s.machine s.machine.step) 0 s.stepped.listeners
      s.stepped).answer = .ok () := by
    obtain hanswer | hanswer := answers_notify conduct (eventOf s.machine s.machine.step) 0
      s.stepped.listeners s.stepped
    · exact hanswer
    · simp only [stepWith, hanswer] at hok
      cases hok
  obtain ⟨position, l, hl, hmem⟩ := h
  exact not_running_notify ⟨position, l, hl, by rwa [Nat.zero_add]⟩ hnotify

/-! ### Runs that answer -/

namespace RunState

variable {conduct : Nat → Conduct} {maxSteps? : Option Int} {pause : Delay}

/-- **The four ways a step of a run can go with self-contained listeners**: nothing is carried out,
the machine halts, the clock refuses the pause, or the run goes on. -/
theorem attempt_cases_of_selfContained (hself : ∀ round, (conduct round).SelfContained)
    (pause : Delay) (r : RunState) {turn : Turn StepOutcome} {o : StepOutcome}
    (hturn : r.simulator.stepWith (conduct r.steps) = turn)
    (ho : r.simulator.machine.outcome = o) :
    (o.isExecuted = false ∧
      r.attempt conduct pause = .inl ((r.afterOutcome turn o).finish false)) ∨
    (o.isExecuted = true ∧ turn.simulator.machine.isHalted = true ∧
      r.attempt conduct pause = .inl ((r.afterExecuted turn o).finish false)) ∨
    (∃ e, o.isExecuted = true ∧ pause.refusal? = some e ∧
      r.attempt conduct pause = .inl ((r.afterExecuted turn o).fail (.pause e))) ∨
    (o.isExecuted = true ∧ r.attempt conduct pause = .inr (r.afterExecuted turn o)) := by
  have hanswer : turn.answer = .ok o := by
    rw [← hturn, ← ho]
    exact answer_stepWith_of_selfContained (hself r.steps) _
  obtain ⟨e, herr, -⟩ | ⟨o', hok, ho', hat⟩ | ⟨o', hok, ho', hhalted, hat⟩ |
      ⟨o', e, hok, ho', -, hrefused, hat⟩ | ⟨o', hok, ho', -, -, hat⟩ :=
    attempt_cases conduct pause r hturn
  · cases hanswer.symm.trans herr
  · cases hanswer.symm.trans hok
    exact .inl ⟨ho', hat⟩
  · cases hanswer.symm.trans hok
    exact .inr (.inl ⟨ho', hhalted, hat⟩)
  · cases hanswer.symm.trans hok
    exact .inr (.inr (.inl ⟨e, ho', hrefused, hat⟩))
  · cases hanswer.symm.trans hok
    exact .inr (.inr (.inr ⟨ho', hat⟩))

/-- **A run with self-contained listeners has an answer** when it comes to its end, if the clock
takes its pause. -/
theorem Ends.exists_answer {r : RunState} {attempts : List Simulator} {t : Turn RunResult}
    (h : Ends conduct maxSteps? pause r attempts t)
    (hself : ∀ round, (conduct round).SelfContained) (hpause : pause.refusal? = none) :
    ∃ result, t.answer = .ok result := by
  induction h with
  | ending he =>
      obtain ⟨-, rfl⟩ | ⟨-, -, rfl⟩ := ending?_cases he
      · exact ⟨_, rfl⟩
      · exact ⟨_, rfl⟩
  | @last r t _ ha =>
      obtain ⟨-, hat⟩ | ⟨-, -, hat⟩ | ⟨e, -, hrefused, -⟩ | ⟨-, hat⟩ :=
        attempt_cases_of_selfContained hself pause r rfl rfl
      · cases hat.symm.trans ha
        exact ⟨_, rfl⟩
      · cases hat.symm.trans ha
        exact ⟨_, rfl⟩
      · cases hpause.symm.trans hrefused
      · cases hat.symm.trans ha
  | next _ _ _ ih => exact ih

end RunState

/-- A step at which the listeners react as they say of themselves answers its outcome. -/
theorem answer_step (s : Simulator) : s.step.answer = .ok s.machine.outcome :=
  answer_stepWith_of_selfContained Listener.selfContained_conduct s

/-- **A run with a limit has an answer** if the clock takes its pause. -/
theorem exists_answer_run {s : Simulator} (limit : Int) {pause? : Option Delay} {pause : Delay}
    (hown : s.runPause ⟨some limit, none, pause?⟩ = .ok pause)
    (hpause : pause.refusal? = none) :
    ∃ result, (s.run ⟨some limit, none, pause?⟩).answer = .ok result := by
  obtain ⟨attempts, hends⟩ := exists_ends_of_rounds (fun _ => Listener.conduct) s
    ⟨some limit, none, pause?⟩ (.inl rfl) hown
  exact hends.exists_answer (fun _ => Listener.selfContained_conduct) hpause

end Simulator

end Monocycle
