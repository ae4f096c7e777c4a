import Mathlib.Data.List.Count
import Monocycle.Proofs.Simulator.Replay

/-!
# What listeners are told

Every step attempt has one event, and the event goes to every listener that is subscribed when the
machine is done with it: once for each subscription, in the order of the subscriptions. That is a
statement about a list that the listeners may change while they are being served. It holds because
the list is taken once, before the first delivery, and because listeners that look after
themselves never fail, so that nobody further down goes without the event.

The journal of a turn tells of the deliveries. `Simulator.attempts` lists the step attempts of a
history of operations, those within runs included, each with the conduct of the listeners at it;
`Simulator.replies` are the turns of the operations with their answers.

## Main definitions

* `Simulator.event`, `Simulator.dueDeliveries`: the event of the next step attempt, and who is to
  hear of it.
* `StepAttempt`, `Simulator.attempts`: the step attempts of a history.
* `Reply`, `Simulator.replies`: the answers to the operations of a history.

## Main results

* `deliveries_notify`: a delivery that goes through reaches the whole list.
* `StepAttempt.heardByAll`: what a step attempt with self-contained listeners comes to.
* `RunState.deliveries_go`: the deliveries of a run are those of its step attempts.
* `deliveries_replies`: **the deliveries of a history are those of its step attempts.**
-/

namespace Monocycle

/-- The delivery that an entry of a journal tells of, if it tells of one. -/
def JournalEntry.delivery? : JournalEntry → Option (Listener × StepEvent)
  | .noted _ => none
  | .delivered l event => some (l, event)

namespace Turn

variable {α β : Type}

theorem deliveries_eq (t : Turn α) :
    t.deliveries = t.journal.filterMap JournalEntry.delivery? := rfl

/-- A turn that goes on after an answer delivers what its two parts deliver. -/
theorem deliveries_andThen_of_ok {t : Turn α} {next : Simulator → α → Turn β} {a : α}
    (ha : t.answer = .ok a) :
    (t.andThen next).deliveries = t.deliveries ++ (next t.simulator a).deliveries := by
  simp [deliveries_eq, andThen, ha]

/-- A turn that ends with an error delivers nothing more. -/
theorem deliveries_andThen_of_error {t : Turn α} {next : Simulator → α → Turn β}
    {e : SimulatorError} (he : t.answer = .error e) : (t.andThen next).deliveries = t.deliveries := by
  simp [deliveries_eq, andThen, he]

end Turn

namespace Simulator

/-! ### One step attempt -/

/-- The **event** of the step attempt that a simulator is about to make. -/
def event (s : Simulator) : StepEvent :=
  eventOf s.machine s.machine.step

/-- The **deliveries due** at a step attempt: its event goes to every listener, once for each
subscription that the listener has when the machine is done, in the order of the subscriptions. -/
def dueDeliveries (s : Simulator) : List (Listener × StepEvent) :=
  s.stepped.listeners.map fun l => (l, s.event)

/-- A listener is due the event once for each of its subscriptions. -/
theorem count_dueDeliveries (s : Simulator) (l : Listener) :
    s.dueDeliveries.count (l, s.event) = s.stepped.listeners.count l :=
  List.count_map_of_injective s.stepped.listeners (fun l => (l, s.event))
    (fun _ _ h => congrArg Prod.fst h) l

/-- No action of a listener delivers anything. -/
theorem deliveries_actAll (actions : List Action) (s : Simulator) :
    (actAll actions s).deliveries = [] := by
  induction actions generalizing s with
  | nil => rfl
  | cons a rest ih =>
      have hact : (s.act a).deliveries = [] := by
        cases a with
        | stop => rfl
        | reset => rfl
        | subscribe l => rfl
        | unsubscribe l =>
            simp only [act, unsubscribe]
            split <;> rfl
      cases ha : (s.act a).answer with
      | error e =>
          rw [actAll, Turn.deliveries_andThen_of_error ha]
          exact hact
      | ok u => rw [actAll, Turn.deliveries_andThen_of_ok ha, hact, ih, List.nil_append]

/-- Delivering an event to one listener is one delivery, whatever the listener does at it. -/
theorem deliveries_deliver (s : Simulator) (l : Listener) (event : StepEvent)
    (actions : List Action) : (s.deliver l event actions).deliveries = [(l, event)] :=
  congrArg ((l, event) :: ·) (deliveries_actAll actions s)

/-- **A delivery that goes through reaches the whole list**, whatever the listeners do to the
subscriptions in the meantime. -/
theorem deliveries_notify {conduct : Conduct} {event : StepEvent} {position : Nat}
    {ls : List Listener} {s : Simulator}
    (h : (notify conduct event position ls s).answer = .ok ()) :
    (notify conduct event position ls s).deliveries = ls.map fun l => (l, event) := by
  induction ls generalizing position s with
  | nil => rfl
  | cons l rest ih =>
      obtain ⟨_, hdeliver, hrest, -⟩ := Turn.exists_of_andThen_eq_ok h
      rw [notify, Turn.deliveries_andThen_of_ok hdeliver, deliveries_deliver, ih hrest]
      rfl

/-- A delivery reaches the list from its front on, and ends early if a listener fails: whoever hears
of anything hears of this event, and in the order of the list. -/
theorem deliveries_notify_isPrefix (conduct : Conduct) (event : StepEvent) (position : Nat)
    (ls : List Listener) (s : Simulator) :
    (notify conduct event position ls s).deliveries <+: ls.map fun l => (l, event) := by
  induction ls generalizing position s with
  | nil => exact List.nil_prefix
  | cons l rest ih =>
      have hone := deliveries_deliver s l event (conduct position l event)
      cases hdeliver : (s.deliver l event (conduct position l event)).answer with
      | error e =>
          rw [notify, Turn.deliveries_andThen_of_error hdeliver, hone]
          exact ⟨_, rfl⟩
      | ok u =>
          rw [notify, Turn.deliveries_andThen_of_ok hdeliver, hone]
          exact (List.prefix_cons_inj _).mpr (ih _ _)

/-- A listener that withdraws at each of its deliveries has as many subscriptions less as there were
deliveries to it. -/
theorem count_notify_of_withdraws {conduct : Conduct} (h : conduct.SelfContained)
    {event : StepEvent} {l : Listener}
    (hl : ∀ position, Action.unsubscribe l ∈ conduct position l event) (position : Nat)
    {ls : List Listener} {s : Simulator} (hls : ∀ l', ls.count l' ≤ s.listeners.count l') :
    (notify conduct event position ls s).simulator.listeners.count l =
      s.listeners.count l - ls.count l := by
  induction ls generalizing position s with
  | nil => rfl
  | cons head rest ih =>
      obtain ⟨hanswer, hrest, hleft⟩ := deliver_of_selfContained h event position hls
      have hsim : (notify conduct event position (head :: rest) s).simulator =
          (notify conduct event (position + 1) rest
            (s.deliver head event (conduct position head event)).simulator).simulator := by
        rw [notify, Turn.andThen, hanswer]
      rw [hsim, ih (position + 1) hrest, hleft l, List.count_cons]
      by_cases heq : head = l
      · subst heq
        have honce : (conduct position head event).count (.unsubscribe head) = 1 :=
          Nat.le_antisymm (h position head event).2 (List.count_pos_iff.mpr (hl position))
        simp only [if_true, honce, beq_self_eq_true]
        omega
      · simp only [heq, if_false, beq_iff_eq]
        omega

/-- The remarks on a step deliver nothing. -/
theorem deliveries_stepWith (conduct : Conduct) (s : Simulator) :
    (s.stepWith conduct).deliveries =
      (notify conduct s.event 0 s.stepped.listeners s.stepped).deliveries := by
  have hremarks : ((stepRemarks s.machine).map JournalEntry.noted).filterMap
      JournalEntry.delivery? = [] := by
    simp [List.filterMap_map, Function.comp_def, JournalEntry.delivery?]
  rw [Turn.deliveries_eq, Turn.deliveries_eq, stepWith, List.filterMap_append, hremarks]
  rfl

end Simulator

/-- A **step attempt** in a history: the simulator that makes it, and the conduct of the listeners
while its event goes round. -/
structure StepAttempt where
  simulator : Simulator
  conduct : Conduct

namespace StepAttempt

/-- The turn of a step attempt. -/
def turn (a : StepAttempt) : Turn StepOutcome :=
  a.simulator.stepWith a.conduct

/-- A step attempt is **heard by all**. -/
structure HeardByAll (a : StepAttempt) : Prop where
  /-- No listener fails, and the answer is the outcome that the event tells of. -/
  answer : a.turn.answer = .ok a.simulator.event.outcome
  /-- The event reaches every listener, once for each subscription and in order. -/
  deliveries : a.turn.deliveries = a.simulator.dueDeliveries
  /-- A listener that withdraws at each of its deliveries hears of the event once for each of its
  subscriptions, and then has none left. -/
  withdrawn : ∀ l, (∀ position, Action.unsubscribe l ∈ a.conduct position l a.simulator.event) →
    a.turn.deliveries.count (l, a.simulator.event) = a.simulator.stepped.listeners.count l ∧
      l ∉ a.turn.simulator.listeners

/-- **With self-contained listeners a step attempt is heard by all.** -/
theorem heardByAll {a : StepAttempt} (h : a.conduct.SelfContained) : a.HeardByAll := by
  have hcounts : ∀ l, a.simulator.stepped.listeners.count l ≤
      a.simulator.stepped.listeners.count l := fun l => Nat.le_refl _
  have hanswer := Simulator.answer_notify_of_selfContained h a.simulator.event 0 hcounts
  have hdeliveries : a.turn.deliveries = a.simulator.dueDeliveries :=
    (Simulator.deliveries_stepWith a.conduct a.simulator).trans
      (Simulator.deliveries_notify hanswer)
  refine ⟨?_, hdeliveries, fun l hl => ⟨?_, ?_⟩⟩
  · rw [Simulator.event, Simulator.outcome_eventOf]
    exact Simulator.answer_stepWith_of_selfContained h a.simulator
  · rw [hdeliveries, Simulator.count_dueDeliveries]
  · rw [← List.count_eq_zero]
    exact (Simulator.count_notify_of_withdraws h hl 0 hcounts).trans (Nat.sub_self _)

end StepAttempt

namespace Simulator

/-! ### The step attempts of a run -/

namespace RunState

variable {conduct : Nat → Conduct} {maxSteps? : Option Int} {pause : Delay}

/-- The states of a run at its **step attempts**, in so many rounds. -/
def attempts (conduct : Nat → Conduct) (maxSteps? : Option Int) (pause : Delay) :
    (rounds : Nat) → RunState → List RunState
  | 0, _ => []
  | rounds + 1, r =>
    match r.ending? maxSteps? with
    | some _ => []
    | none =>
      r :: match r.attempt conduct pause with
        | .inl _ => []
        | .inr r => attempts conduct maxSteps? pause rounds r

/-- What was delivered in a run so far. -/
def delivered (r : RunState) : List (Listener × StepEvent) :=
  r.journal.toList.filterMap JournalEntry.delivery?

/-- A step of a run adds its deliveries to those of the run, whether the run goes on or not. -/
theorem deliveries_attempt (conduct : Nat → Conduct) (pause : Delay) (r : RunState) :
    (r.attempt conduct pause).elim Turn.deliveries delivered =
      r.delivered ++ (r.simulator.stepWith (conduct r.steps)).deliveries := by
  have hjournal := (attempt_leaves conduct pause r).2
  cases ha : r.attempt conduct pause with
  | inl t =>
      simp only [ha, Sum.elim_inl] at hjournal ⊢
      rw [Turn.deliveries_eq, hjournal, List.filterMap_append]
      rfl
  | inr r' =>
      simp only [ha, Sum.elim_inr] at hjournal ⊢
      rw [delivered, hjournal, List.filterMap_append]
      rfl

/-- An end of a run before its next step delivers nothing more. -/
theorem deliveries_ending? {r : RunState} {t : Turn RunResult}
    (h : r.ending? maxSteps? = some t) : t.deliveries = r.delivered := by
  obtain ⟨-, rfl⟩ | ⟨-, -, rfl⟩ := ending?_cases h
  · rfl
  · simp [finish, Turn.deliveries_eq, delivered, JournalEntry.delivery?]

/-- **The deliveries of a run** are those of its step attempts. -/
theorem deliveries_go (h : ∀ round, (conduct round).SelfContained) (rounds : Nat) (r : RunState) :
    (go conduct maxSteps? pause rounds r).deliveries = r.delivered ++
      (attempts conduct maxSteps? pause rounds r).flatMap fun a => a.simulator.dueDeliveries := by
  induction rounds generalizing r with
  | zero => exact (List.append_nil _).symm
  | succ rounds ih =>
      rw [go, attempts]
      cases he : r.ending? maxSteps? with
      | some t => exact (deliveries_ending? he).trans (List.append_nil _).symm
      | none =>
          have hdue : (r.simulator.stepWith (conduct r.steps)).deliveries =
              r.simulator.dueDeliveries :=
            (StepAttempt.heardByAll (a := ⟨r.simulator, conduct r.steps⟩) (h r.steps)).deliveries
          have hstep := deliveries_attempt conduct pause r
          rw [hdue] at hstep
          cases ha : r.attempt conduct pause with
          | inl t => simpa [ha] using hstep
          | inr r' =>
              have hr' : r'.delivered = r.delivered ++ r.simulator.dueDeliveries := by
                simpa [ha] using hstep
              simp [ih r', hr']

/-- No listener that looks after itself makes a run fail. -/
theorem answer_go_ne_notSubscribed (h : ∀ round, (conduct round).SelfContained) (rounds : Nat)
    (r : RunState) : (go conduct maxSteps? pause rounds r).answer ≠ .error .notSubscribed := by
  induction rounds generalizing r with
  | zero => simp [go, fail]
  | succ rounds ih =>
      rw [go]
      cases he : r.ending? maxSteps? with
      | some t =>
          obtain ⟨-, rfl⟩ | ⟨-, -, rfl⟩ := ending?_cases he
          · simp [finish]
          · simp [finish]
      | none =>
          have hanswer := answer_stepWith_of_selfContained (h r.steps) r.simulator
          obtain ⟨e, herr, -⟩ | ⟨o, -, -, hat⟩ | ⟨o, -, -, -, hat⟩ | ⟨o, e, -, -, -, -, hat⟩ |
              ⟨o, -, -, -, -, hat⟩ := attempt_cases conduct pause r rfl
          · cases hanswer.symm.trans herr
          · simp [hat, finish]
          · simp [hat, finish]
          · simp [hat, fail]
          · simpa only [hat] using ih _

end RunState

/-- The states of a run, as an operation, at its step attempts. -/
def runAttempts (s : Simulator) (conduct : Nat → Conduct) (rounds : Nat) (options : RunOptions) :
    List RunState :=
  match s.runPause options with
  | .error _ => []
  | .ok pause => RunState.attempts conduct options.maxSteps? pause rounds (.start s options)

/-- The deliveries of a run as an operation. -/
theorem deliveries_runWith {conduct : Nat → Conduct} (h : ∀ round, (conduct round).SelfContained)
    (rounds : Nat) (s : Simulator) (options : RunOptions) :
    (s.runWith conduct rounds options).deliveries =
      (s.runAttempts conduct rounds options).flatMap fun a => a.simulator.dueDeliveries := by
  rw [runWith, runAttempts]
  cases s.runPause options with
  | error e => rfl
  | ok pause => exact RunState.deliveries_go h rounds (.start s options)

/-! ### The step attempts of a history -/

/-- The step attempts of an operation. -/
def attemptsOf (s : Simulator) : Operation → List StepAttempt
  | .step conduct => [⟨s, conduct⟩]
  | .run conduct rounds options =>
    (s.runAttempts conduct rounds options).map fun r => ⟨r.simulator, conduct r.steps⟩
  | .load _ | .reset | .stop | .subscribe _ | .unsubscribe _ => []

/-- The **step attempts** of a history, in order. -/
def attempts : Simulator → List Operation → List StepAttempt
  | _, [] => []
  | s, op :: ops => s.attemptsOf op ++ attempts (s.perform op).simulator ops

/-- An operation with **self-contained** listeners, if they have a part in it at all. -/
def Operation.SelfContained : Operation → Prop
  | .step conduct => conduct.SelfContained
  | .run conduct _ _ => ∀ round, (conduct round).SelfContained
  | .load _ | .reset | .stop | .subscribe _ | .unsubscribe _ => True

/-- What the answer to an operation tells. -/
inductive Reply where
  | done
  | loaded (result : LoadResult)
  | stepped (outcome : StepOutcome)
  | ran (result : RunResult)

/-- The turn of an operation with its answer. -/
def reply (s : Simulator) : Operation → Turn Reply
  | .load source => let t := s.load source; ⟨t.simulator, t.answer.map .loaded, t.journal⟩
  | .step conduct => let t := s.stepWith conduct; ⟨t.simulator, t.answer.map .stepped, t.journal⟩
  | .run conduct rounds options =>
    let t := s.runWith conduct rounds options
    ⟨t.simulator, t.answer.map .ran, t.journal⟩
  | op => let t := s.perform op; ⟨t.simulator, t.answer.map fun _ => .done, t.journal⟩

/-- The **replies** to a history of operations, one turn for each. -/
def replies : Simulator → List Operation → List (Turn Reply)
  | _, [] => []
  | s, op :: ops => s.reply op :: replies (s.perform op).simulator ops

theorem simulator_reply (s : Simulator) (op : Operation) :
    (s.reply op).simulator = (s.perform op).simulator := by
  cases op <;> rfl

/-- The deliveries of an operation are those of its step attempts. -/
theorem deliveries_reply {op : Operation} (h : op.SelfContained) (s : Simulator) :
    (s.reply op).deliveries =
      (s.attemptsOf op).flatMap fun a => a.simulator.dueDeliveries := by
  cases op with
  | load source =>
      have hremarks : ((assemblyRemarks source).map JournalEntry.noted).filterMap
          JournalEntry.delivery? = [] := by
        simp [List.filterMap_map, Function.comp_def, JournalEntry.delivery?]
      simp only [Turn.deliveries_eq, reply, load]
      split <;> simp [hremarks, attemptsOf, JournalEntry.delivery?]
  | step conduct =>
      have hheard : (s.stepWith conduct).deliveries = s.dueDeliveries :=
        (StepAttempt.heardByAll (a := ⟨s, conduct⟩) h).deliveries
      rw [attemptsOf, List.flatMap_singleton]
      exact hheard
  | run conduct rounds options =>
      rw [attemptsOf, List.flatMap_map]
      exact deliveries_runWith h rounds s options
  | reset => rfl
  | stop => rfl
  | subscribe l => rfl
  | unsubscribe l =>
      simp only [Turn.deliveries_eq, reply, perform, unsubscribe]
      split <;> rfl

/-- An operation **drives** the program if it is a step or a run. -/
def Operation.Drives : Operation → Prop
  | .step _ | .run _ _ _ => True
  | .load _ | .reset | .stop | .subscribe _ | .unsubscribe _ => False

/-- No listener that looks after itself makes a step or a run fail. -/
theorem answer_reply_ne_notSubscribed {op : Operation} (h : op.SelfContained) (hdrives : op.Drives)
    (s : Simulator) : (s.reply op).answer ≠ .error .notSubscribed := by
  cases op with
  | step conduct => simp [reply, answer_stepWith_of_selfContained h, Except.map]
  | run conduct rounds options =>
      have hne : (s.runWith conduct rounds options).answer ≠ .error .notSubscribed := by
        rw [runWith]
        cases s.runPause options with
        | error e => simp
        | ok pause => exact RunState.answer_go_ne_notSubscribed h rounds _
      intro heq
      cases ha : (s.runWith conduct rounds options).answer with
      | error e =>
          simp only [reply, ha, Except.map, Except.error.injEq] at heq
          exact hne (heq ▸ ha)
      | ok result => simp [reply, ha, Except.map] at heq
  | load _ | reset | stop | subscribe _ | unsubscribe _ => exact hdrives.elim

/-- **The deliveries of a history** are those of its step attempts. -/
theorem deliveries_replies {ops : List Operation} (h : ∀ op ∈ ops, op.SelfContained)
    (s : Simulator) :
    (s.replies ops).flatMap Turn.deliveries =
      (s.attempts ops).flatMap fun a => a.simulator.dueDeliveries := by
  induction ops generalizing s with
  | nil => rfl
  | cons op ops ih =>
      obtain ⟨hop, hops⟩ := List.forall_mem_cons.mp h
      rw [replies, attempts, List.flatMap_cons, List.flatMap_append, deliveries_reply hop,
        ih hops]

/-- The step attempts of a history with self-contained listeners are heard by all. -/
theorem heardByAll_of_mem_attempts {ops : List Operation} (h : ∀ op ∈ ops, op.SelfContained)
    {s : Simulator} {a : StepAttempt} (ha : a ∈ s.attempts ops) : a.HeardByAll := by
  induction ops generalizing s with
  | nil => cases ha
  | cons op ops ih =>
      obtain ⟨hop, hops⟩ := List.forall_mem_cons.mp h
      obtain hnow | hlater := List.mem_append.mp ha
      · refine StepAttempt.heardByAll ?_
        cases op with
        | step conduct =>
            obtain rfl := List.mem_singleton.mp hnow
            exact hop
        | run conduct rounds options =>
            obtain ⟨r, -, rfl⟩ := List.mem_map.mp hnow
            exact hop r.steps
        | load _ | reset | stop | subscribe _ | unsubscribe _ => cases hnow
      · exact ih hops hlater

end Simulator

end Monocycle
