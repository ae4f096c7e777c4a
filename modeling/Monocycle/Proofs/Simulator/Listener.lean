import Monocycle.Proofs.Machine.Step
import Monocycle.Simulator

/-!
# What listeners leave behind

A listener may stop the simulator, reset it and change the subscriptions, but it cannot touch the
machine in any other way. `Heard s t` collects what is left of a simulator `s` in a turn `t` in
which nothing happened but actions of listeners, under any conduct: labels and settings are those
of before, a run that was off stays off, and the machine is the one of before or starts over. A
reset is noted in the journal, `Turn.Restarts`, so that the journal of a turn tells whether the
machine was reset in its course.

A step is the step of the machine with such a turn behind it.

## Main results

* `heard_notify`: what delivering an event leaves behind, whatever the listeners do.
* `Simulator.heard_stepWith`: a step of the simulator is one of the machine, and then listeners.
* `Simulator.answer_stepWith`: a step answers the outcome of the machine's step unless a listener
  takes away a subscription that is not there.
-/

namespace Monocycle

namespace Turn

/-- A turn **restarts** the machine if a reset is noted in its journal. -/
def Restarts {α : Type} (t : Turn α) : Prop :=
  .noted .restarted ∈ t.journal

/-- A turn that goes on restarts the machine if its first part does or what follows does. -/
theorem restarts_andThen_iff {α β : Type} {t : Turn α} {next : Simulator → α → Turn β} :
    (t.andThen next).Restarts ↔
      t.Restarts ∨ ∃ a, t.answer = .ok a ∧ (next t.simulator a).Restarts := by
  cases ha : t.answer with
  | error e => simp [Restarts, andThen, ha]
  | ok a => simp [Restarts, andThen, ha]

end Turn

/-- Resetting a second time changes nothing. -/
@[simp] theorem Machine.reset_reset (m : Machine) : m.reset.reset = m.reset := rfl

/-- What is **left after listeners were heard**: the turn `t` comes from the simulator `s` by
actions of listeners alone. -/
structure Heard {α : Type} (s : Simulator) (t : Turn α) : Prop where
  labels : t.simulator.labels = s.labels
  settings : t.simulator.settings = s.settings
  /-- Listeners end runs but begin none. -/
  running : t.simulator.running = true → s.running = true
  /-- Listeners reset the machine or leave it alone. -/
  machine : t.simulator.machine = s.machine ∨
    t.simulator.machine = s.machine.reset ∧ t.Restarts

namespace Heard

/-- A turn in which nothing happens. -/
theorem refl {α : Type} (s : Simulator) (answer : Except SimulatorError α)
    (journal : List JournalEntry) : Heard s ⟨s, answer, journal⟩ :=
  ⟨rfl, rfl, id, .inl rfl⟩

/-- Actions of listeners one after the other. -/
theorem andThen {α β : Type} {s : Simulator} {t : Turn α} {next : Simulator → α → Turn β}
    (h : Heard s t) (hnext : ∀ a, t.answer = .ok a → Heard t.simulator (next t.simulator a)) :
    Heard s (t.andThen next) := by
  cases ha : t.answer with
  | error e =>
      have ht : t.andThen next = ⟨t.simulator, .error e, t.journal⟩ := by
        rw [Turn.andThen, ha]
      rw [ht]
      exact ⟨h.labels, h.settings, h.running, h.machine⟩
  | ok a =>
      have hlater := hnext a ha
      have hsim : (t.andThen next).simulator = (next t.simulator a).simulator := by
        rw [Turn.andThen, ha]
      refine ⟨?_, ?_, ?_, ?_⟩
      · rw [hsim, hlater.labels, h.labels]
      · rw [hsim, hlater.settings, h.settings]
      · rw [hsim]
        exact fun hr => h.running (hlater.running hr)
      · rw [hsim]
        obtain hm | ⟨hm, hre⟩ := hlater.machine
        · obtain hm' | ⟨hm', hre'⟩ := h.machine
          · exact .inl (hm.trans hm')
          · exact .inr ⟨hm.trans hm', Turn.restarts_andThen_iff.mpr (.inl hre')⟩
        · refine .inr ⟨?_, Turn.restarts_andThen_iff.mpr (.inr ⟨a, ha, hre⟩)⟩
          obtain hm' | ⟨hm', -⟩ := h.machine
          · rw [hm, hm']
          · rw [hm, hm', Machine.reset_reset]

end Heard

namespace Simulator

/-! ### Actions and deliveries -/

theorem heard_unsubscribe (s : Simulator) (l : Listener) : Heard s (s.unsubscribe l) := by
  rw [unsubscribe]
  split
  · exact ⟨rfl, rfl, id, .inl rfl⟩
  · exact .refl s _ _

theorem heard_act (s : Simulator) (a : Action) : Heard s (s.act a) := by
  cases a with
  | stop => exact ⟨rfl, rfl, by simp [act, stop], .inl rfl⟩
  | reset =>
      exact ⟨rfl, rfl, by simp [act, reset], .inr ⟨rfl, by simp [Turn.Restarts, act, reset]⟩⟩
  | subscribe l => exact ⟨rfl, rfl, id, .inl rfl⟩
  | unsubscribe l => exact heard_unsubscribe s l

theorem heard_actAll (actions : List Action) (s : Simulator) : Heard s (actAll actions s) := by
  induction actions generalizing s with
  | nil => exact .refl s _ _
  | cons a rest ih => exact (heard_act s a).andThen fun _ _ => ih _

theorem heard_deliver (s : Simulator) (l : Listener) (event : StepEvent) (actions : List Action) :
    Heard s (s.deliver l event actions) := by
  have h := heard_actAll actions s
  exact ⟨h.labels, h.settings, h.running,
    h.machine.imp_right fun ⟨hm, hr⟩ => ⟨hm, List.mem_cons_of_mem _ hr⟩⟩

/-- **What delivering an event leaves behind**, whatever the listeners do. -/
theorem heard_notify (conduct : Conduct) (event : StepEvent) (position : Nat)
    (ls : List Listener) (s : Simulator) : Heard s (notify conduct event position ls s) := by
  induction ls generalizing position s with
  | nil => exact .refl s _ _
  | cons l rest ih => exact (heard_deliver s l event _).andThen fun _ _ => ih _ _

/-! ### Resets of listeners -/

end Simulator

/-- Some listener **resets** the simulator at some delivery. -/
def Conduct.Resets (conduct : Conduct) : Prop :=
  ∃ position l event, Action.reset ∈ conduct position l event

namespace Simulator

theorem reset_mem_of_restarts_actAll {actions : List Action} {s : Simulator}
    (h : (actAll actions s).Restarts) : Action.reset ∈ actions := by
  induction actions generalizing s with
  | nil => simp [Turn.Restarts, actAll] at h
  | cons a rest ih =>
      obtain ha | ⟨-, -, hrest⟩ := Turn.restarts_andThen_iff.mp h
      · cases a with
        | reset => exact List.mem_cons_self
        | stop => simp [Turn.Restarts, act] at ha
        | subscribe l => simp [Turn.Restarts, act] at ha
        | unsubscribe l =>
            simp only [Turn.Restarts, act, unsubscribe] at ha
            split at ha <;> simp at ha
      · exact List.mem_cons_of_mem _ (ih hrest)

/-- Only a listener that resets restarts the machine while an event is delivered. -/
theorem resets_of_restarts_notify {conduct : Conduct} {event : StepEvent} {position : Nat}
    {ls : List Listener} {s : Simulator} (h : (notify conduct event position ls s).Restarts) :
    conduct.Resets := by
  induction ls generalizing position s with
  | nil => simp [Turn.Restarts, notify] at h
  | cons l rest ih =>
      obtain hl | ⟨-, -, hrest⟩ := Turn.restarts_andThen_iff.mp h
      · have hactions : (actAll (conduct position l event) s).Restarts := by
          simpa [Turn.Restarts, deliver] using hl
        exact ⟨position, l, event, reset_mem_of_restarts_actAll hactions⟩
      · exact ih hrest

/-! ### Errors of listeners -/

/-- The only thing that can go wrong with listeners is that one takes away a subscription that is
not there. -/
def Answers (t : Turn Unit) : Prop :=
  t.answer = .ok () ∨ t.answer = .error .notSubscribed

theorem Answers.andThen {t : Turn Unit} {next : Simulator → Unit → Turn Unit} (h : Answers t)
    (hnext : Answers (next t.simulator ())) : Answers (t.andThen next) := by
  obtain h | h := h
  · rw [Answers, Turn.andThen, h]
    exact hnext
  · refine .inr ?_
    rw [Turn.andThen, h]

theorem answers_act (s : Simulator) (a : Action) : Answers (s.act a) := by
  cases a with
  | stop => exact .inl rfl
  | reset => exact .inl rfl
  | subscribe l => exact .inl rfl
  | unsubscribe l =>
      simp only [act, unsubscribe, Answers]
      split
      · exact .inl rfl
      · exact .inr rfl

theorem answers_actAll (actions : List Action) (s : Simulator) : Answers (actAll actions s) := by
  induction actions generalizing s with
  | nil => exact .inl rfl
  | cons a rest ih => exact (answers_act s a).andThen (ih _)

theorem answers_notify (conduct : Conduct) (event : StepEvent) (position : Nat)
    (ls : List Listener) (s : Simulator) : Answers (notify conduct event position ls s) := by
  induction ls generalizing position s with
  | nil => exact .inl rfl
  | cons l rest ih => exact Answers.andThen (answers_actAll _ s) (ih _ _)

/-- A turn that goes on after an answer has the answer of what follows. -/
theorem answer_andThen_of_ok {α β : Type} {t : Turn α} {next : Simulator → α → Turn β} {a : α}
    (ha : t.answer = .ok a) : (t.andThen next).answer = (next t.simulator a).answer := by
  rw [Turn.andThen, ha]

end Simulator

/-- Some listener takes a subscription away at some delivery. -/
def Conduct.Unsubscribes (conduct : Conduct) : Prop :=
  ∃ position l event other, Action.unsubscribe other ∈ conduct position l event

namespace Simulator

theorem answer_actAll_of_notMem {actions : List Action} (h : ∀ l, Action.unsubscribe l ∉ actions)
    (s : Simulator) : (actAll actions s).answer = .ok () := by
  induction actions generalizing s with
  | nil => rfl
  | cons a rest ih =>
      have hact : (s.act a).answer = .ok () := by
        cases a with
        | stop => rfl
        | reset => rfl
        | subscribe l => rfl
        | unsubscribe l => exact absurd List.mem_cons_self (h l)
      rw [actAll, answer_andThen_of_ok hact]
      exact ih (fun l hl => h l (List.mem_cons_of_mem _ hl)) _

/-- Listeners that take no subscription away do not fail. -/
theorem answer_notify_of_not_unsubscribes {conduct : Conduct} (h : ¬conduct.Unsubscribes)
    (event : StepEvent) (position : Nat) (ls : List Listener) (s : Simulator) :
    (notify conduct event position ls s).answer = .ok () := by
  induction ls generalizing position s with
  | nil => rfl
  | cons l rest ih =>
      have hdeliver : (s.deliver l event (conduct position l event)).answer = .ok () :=
        answer_actAll_of_notMem (fun other hmem => h ⟨position, l, event, other, hmem⟩) s
      rw [notify, answer_andThen_of_ok hdeliver]
      exact ih _ _

/-! ### Steps -/

/-- The event of a step attempt tells its outcome. -/
theorem outcome_eventOf (m : Machine) : (eventOf m m.step).outcome = m.outcome := by
  obtain ⟨-, hs⟩ | ⟨-, -, hs⟩ | ⟨i, e, -, -, hs⟩ | ⟨i, effect, -, -, hs⟩ := m.step_cases <;>
    simp [eventOf, Machine.outcome, hs]

@[simp] theorem machine_stepped (s : Simulator) : s.stepped.machine = s.machine.next := rfl

@[simp] theorem listeners_stepped (s : Simulator) : s.stepped.listeners = s.listeners := rfl

/-- **A step** is a step of the machine with listeners behind it. -/
theorem heard_stepWith (conduct : Conduct) (s : Simulator) :
    Heard s.stepped (s.stepWith conduct) := by
  have h := heard_notify conduct (eventOf s.machine s.machine.step) 0 s.stepped.listeners s.stepped
  exact ⟨h.labels, h.settings, h.running,
    h.machine.imp_right fun ⟨hm, hr⟩ => ⟨hm, List.mem_append_right _ hr⟩⟩

/-- No remark on a step is that of a reset. -/
theorem restarted_notMem_stepRemarks (m : Machine) : Remark.restarted ∉ stepRemarks m := by
  simp only [stepRemarks, Machine.stepRemarks, List.mem_append, not_or]
  constructor
  · split
    · split
      · simp
      · simp only [List.mem_cons, List.mem_append, reduceCtorEq, false_or, not_or]
        constructor <;> split <;> simp
    · split <;> simp
  · split <;> simp

/-- Only a listener that resets restarts the machine in the course of a step. -/
theorem resets_of_restarts_stepWith {conduct : Conduct} {s : Simulator}
    (h : (s.stepWith conduct).Restarts) : conduct.Resets := by
  obtain hremark | hheard := List.mem_append.mp h
  · obtain ⟨remark, hmem, heq⟩ := List.mem_map.mp hremark
    cases heq
    exact absurd hmem (restarted_notMem_stepRemarks _)
  · exact resets_of_restarts_notify hheard

/-- A step answers the outcome of the machine's step unless a listener takes away a subscription
that is not there. -/
theorem answer_stepWith (conduct : Conduct) (s : Simulator) :
    (s.stepWith conduct).answer = .ok s.machine.outcome ∨
      (s.stepWith conduct).answer = .error .notSubscribed := by
  simp only [stepWith, outcome_eventOf]
  obtain h | h := answers_notify conduct (eventOf s.machine s.machine.step) 0 s.stepped.listeners
    s.stepped
  · exact .inl (by rw [h]; rfl)
  · exact .inr (by rw [h]; rfl)

/-- With listeners that take no subscription away, a step answers its outcome. -/
theorem answer_stepWith_of_not_unsubscribes {conduct : Conduct} (h : ¬conduct.Unsubscribes)
    (s : Simulator) : (s.stepWith conduct).answer = .ok s.machine.outcome := by
  simp only [stepWith, outcome_eventOf, answer_notify_of_not_unsubscribes h]
  rfl

end Simulator

end Monocycle
