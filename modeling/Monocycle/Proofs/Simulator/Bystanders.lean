import Monocycle.Proofs.Simulator.Deliveries

/-!
# Bystanders

A bystander is a listener that takes notes, or takes its own subscription away, and does nothing
else. Whether bystanders are there makes no difference to anybody but themselves. To say so, a
predicate `extra` tells which listeners are meant, and `Simulator.without` takes their
subscriptions away. Every operation commutes with it: the turn of the simulator without the extras
is the turn with them, from whose journal the deliveries to the extras are left out. That is one
equation for the answer, the state afterwards, the remarks, and the deliveries to everybody else.

The listeners that stay may do as they please in both runs, but each has to do the same in both.
What a conduct lets a listener do depends on how many deliveries came before, and these are fewer
without the extras, so `Conduct.AgreesBut` counts them separately.

## Main definitions

* `Simulator.without`, `Turn.without`: a simulator and a turn without some listeners.
* `Conduct.Bystanders`, `Conduct.AgreesBut`: what is asked of the extras, and of the others.
* `Alongside`: a history of operations, and the same history without the extras.

## Main results

* `stepWith_without`, `runWith_without`: steps and runs take no notice of bystanders.
* `replies_without`: nor does a history.
* `delivered_to_all_and_undisturbed`: **who hears of a step, and who is disturbed by it.**
-/

namespace Monocycle

variable (extra : Listener → Bool)

/-- Whether an entry of a journal is a delivery to one of some listeners. -/
def JournalEntry.isFor : JournalEntry → Bool
  | .noted _ => false
  | .delivered l _ => extra l

/-- A simulator **without** the subscriptions of some listeners. -/
def Simulator.without (s : Simulator) : Simulator :=
  { s with listeners := s.listeners.filter fun l => !extra l }

/-- A turn without the subscriptions of some listeners, and without the deliveries to them. -/
def Turn.without {α : Type} (t : Turn α) : Turn α :=
  ⟨t.simulator.without extra, t.answer, t.journal.filter fun entry => !entry.isFor extra⟩

/-- A run without the subscriptions of some listeners, and without the deliveries to them. -/
def Simulator.RunState.without (r : RunState) : RunState :=
  { r with
    simulator := r.simulator.without extra
    journal := (r.journal.toList.filter fun entry => !entry.isFor extra).toArray }

/-- Whether an action changes the subscriptions of one of some listeners. -/
def Action.concerns : Action → Bool
  | .subscribe l | .unsubscribe l => extra l
  | .stop | .reset => false

variable {extra}

@[simp] theorem JournalEntry.isFor_noted (r : Remark) : (noted r).isFor extra = false := rfl

@[simp] theorem JournalEntry.isFor_delivered (l : Listener) (event : StepEvent) :
    (delivered l event).isFor extra = extra l := rfl

/-- Remarks are no deliveries. -/
theorem filter_isFor_map_noted (remarks : List Remark) :
    (remarks.map JournalEntry.noted).filter (fun entry => !entry.isFor extra) =
      remarks.map .noted := by
  refine List.filter_eq_self.mpr fun entry hentry => ?_
  obtain ⟨r, -, rfl⟩ := List.mem_map.mp hentry
  rfl

/-- A turn that goes on commutes with leaving listeners out if its two parts do. -/
theorem Turn.andThen_without {α β : Type} {t : Turn α} {next plain : Simulator → α → Turn β}
    (hnext : ∀ a, t.answer = .ok a →
      plain (t.simulator.without extra) a = (next t.simulator a).without extra) :
    (t.without extra).andThen plain = (t.andThen next).without extra := by
  cases ha : t.answer with
  | error e => simp [andThen, without, ha]
  | ok a => simp [andThen, without, ha, hnext a ha]

/-! ### What is asked of the listeners -/

namespace Conduct

variable (extra)

/-- The extras are **bystanders**: all that they do is to take one subscription of their own away.
The others look after themselves. -/
structure Bystanders (conduct : Conduct) : Prop where
  selfContained : conduct.SelfContained
  quiet : ∀ position l event, extra l = true →
    ∀ a ∈ conduct position l event, a = .unsubscribe l

/-- Two conducts agree at the delivery of an event to a list of listeners, the extras left aside.
Under the first conduct the event goes to the whole list, after `i` deliveries; under the second it
goes only to those who are no extras, after `j` deliveries. -/
def AgreesFrom (event : StepEvent) (full plain : Conduct) : (i j : Nat) → List Listener → Prop
  | _, _, [] => True
  | i, j, l :: rest =>
    if extra l then AgreesFrom event full plain (i + 1) j rest
    else full i l event = plain j l event ∧ AgreesFrom event full plain (i + 1) (j + 1) rest

/-- Two conducts **agree but for the extras** at the step attempt that a simulator is about to make:
every other listener does the same under both. -/
def AgreesBut (s : Simulator) (full plain : Conduct) : Prop :=
  AgreesFrom extra s.event full plain 0 0 s.stepped.listeners

variable {extra}

/-- A conduct agrees with itself if it does not depend on the number of deliveries before. -/
theorem agreesBut_self {conduct : Conduct}
    (h : ∀ i j l event, conduct i l event = conduct j l event) (s : Simulator) :
    AgreesBut extra s conduct conduct := by
  have hfrom : ∀ (ls : List Listener) (i j : Nat),
      AgreesFrom extra s.event conduct conduct i j ls := by
    intro ls
    induction ls with
    | nil => exact fun _ _ => trivial
    | cons l rest ih =>
        intro i j
        rw [AgreesFrom]
        split
        · exact ih _ _
        · exact ⟨h i j l _, ih _ _⟩
  exact hfrom _ 0 0

end Conduct

namespace Simulator

/-! ### Actions and deliveries -/

/-- An action that does not concern the extras takes no notice of them. -/
theorem act_without {a : Action} (ha : a.concerns extra = false) (s : Simulator) :
    (s.without extra).act a = (s.act a).without extra := by
  cases a with
  | stop => rfl
  | reset => rfl
  | subscribe l =>
      have hl : extra l = false := ha
      simp [act, subscribe, without, Turn.without, hl]
  | unsubscribe l =>
      have hl : extra l = false := ha
      have hmem : l ∈ (s.without extra).listeners ↔ l ∈ s.listeners := by
        simp [without, hl]
      by_cases h : l ∈ s.listeners
      · simp only [act, unsubscribe, hmem, h, if_true]
        simp only [without, Turn.without, List.erase_filter, List.filter_nil]
      · simp only [act, unsubscribe, hmem, h, if_false]
        rfl

theorem actAll_without {actions : List Action} (h : ∀ a ∈ actions, a.concerns extra = false)
    (s : Simulator) : actAll actions (s.without extra) = (actAll actions s).without extra := by
  induction actions generalizing s with
  | nil => rfl
  | cons a rest ih =>
      obtain ⟨ha, hrest⟩ := List.forall_mem_cons.mp h
      rw [actAll, act_without ha, actAll]
      exact Turn.andThen_without fun _ _ => ih hrest _

/-- A bystander that takes its subscription away leaves no trace but in its own subscriptions. -/
theorem without_unsubscribe {l : Listener} (hl : extra l = true) (s : Simulator) :
    (s.unsubscribe l).simulator.without extra = s.without extra ∧
      (s.unsubscribe l).journal = [] := by
  rw [unsubscribe]
  split
  · have hnot : l ∉ s.listeners.filter fun l => !extra l := by
      simp [hl]
    refine ⟨?_, rfl⟩
    simp only [without, ← List.erase_filter, List.erase_of_not_mem hnot]
  · exact ⟨rfl, rfl⟩

/-- The actions of a bystander leave no trace but in its own subscriptions. -/
theorem without_actAll_of_quiet {l : Listener} (hl : extra l = true) {actions : List Action}
    (h : ∀ a ∈ actions, a = .unsubscribe l) (s : Simulator) :
    (actAll actions s).simulator.without extra = s.without extra ∧
      (actAll actions s).journal = [] := by
  induction actions generalizing s with
  | nil => exact ⟨rfl, rfl⟩
  | cons a rest ih =>
      obtain ⟨rfl, hrest⟩ := List.forall_mem_cons.mp h
      have hact : (s.act (.unsubscribe l)).simulator.without extra = s.without extra ∧
          (s.act (.unsubscribe l)).journal = [] := without_unsubscribe hl s
      obtain ⟨hsim, hjournal⟩ := ih hrest (s.act (.unsubscribe l)).simulator
      rw [actAll, Turn.andThen]
      split
      · exact hact
      · refine ⟨hsim.trans hact.1, ?_⟩
        rw [hact.2]
        exact hjournal

/-- **Delivering an event** takes no notice of bystanders. -/
theorem notify_without {full plain : Conduct} (h : full.Bystanders extra) {event : StepEvent}
    (i j : Nat) {ls : List Listener} {s : Simulator}
    (hls : ∀ l, ls.count l ≤ s.listeners.count l)
    (hagree : Conduct.AgreesFrom extra event full plain i j ls) :
    notify plain event j (ls.filter fun l => !extra l) (s.without extra) =
      (notify full event i ls s).without extra := by
  induction ls generalizing i j s with
  | nil => rfl
  | cons l rest ih =>
      obtain ⟨hanswer, hrest, -⟩ := deliver_of_selfContained h.selfContained event i hls
      rw [Conduct.AgreesFrom] at hagree
      cases hl : extra l with
      | true =>
          rw [if_pos hl] at hagree
          obtain ⟨hsim, hjournal⟩ := without_actAll_of_quiet hl (h.quiet i l event hl) s
          -- the delivery to the bystander is all that its turn leaves in the journal
          have hdeliver : (s.deliver l event (full i l event)).simulator.without extra =
              s.without extra ∧
              (s.deliver l event (full i l event)).journal.filter
                (fun entry => !entry.isFor extra) = [] := by
            refine ⟨hsim, ?_⟩
            simp [deliver, hjournal, hl]
          have hdrop : (l :: rest).filter (fun l => !extra l) =
              rest.filter fun l => !extra l := by
            simp [hl]
          rw [hdrop, ← hdeliver.1, ih (i + 1) j hrest hagree, notify]
          simp [Turn.andThen, hanswer, Turn.without, hdeliver.2]
      | false =>
          rw [if_neg (by simp [hl])] at hagree
          obtain ⟨hsame, hlater⟩ := hagree
          have hconcerns : ∀ a ∈ full i l event, a.concerns extra = false := by
            intro a ha
            obtain rfl | rfl | rfl := (h.selfContained i l event).1 a ha
            · rfl
            · rfl
            · exact hl
          have hdeliver : (s.without extra).deliver l event (plain j l event) =
              (s.deliver l event (full i l event)).without extra := by
            rw [← hsame, deliver, deliver, actAll_without hconcerns]
            simp [Turn.without, hl]
          have hkeep : (l :: rest).filter (fun l => !extra l) =
              l :: rest.filter fun l => !extra l := by
            simp [hl]
          rw [hkeep, notify, hdeliver, notify]
          exact Turn.andThen_without fun _ _ => ih (i + 1) (j + 1) hrest hlater

/-- **A step takes no notice of bystanders.** -/
theorem stepWith_without {full plain : Conduct} (h : full.Bystanders extra) {s : Simulator}
    (hagree : Conduct.AgreesBut extra s full plain) :
    (s.without extra).stepWith plain = (s.stepWith full).without extra := by
  have hheard := notify_without h 0 0 (fun l => Nat.le_refl (s.stepped.listeners.count l)) hagree
  have hstepped : (s.without extra).stepped = s.stepped.without extra := rfl
  have hlisteners : (s.stepped.without extra).listeners =
      s.stepped.listeners.filter fun l => !extra l := rfl
  have hmachine : (s.without extra).machine = s.machine := rfl
  simp only [stepWith, hstepped, hlisteners, hmachine]
  rw [← Simulator.event, hheard]
  simp [Turn.without, filter_isFor_map_noted]

/-! ### Runs -/

namespace RunState

variable {full plain : Nat → Conduct} {maxSteps? : Option Int} {pause : Delay}

theorem ending?_without (r : RunState) :
    (r.without extra).ending? maxSteps? = (r.ending? maxSteps?).map (·.without extra) := by
  have hcancelled : (r.without extra).isCancelled = r.isCancelled := rfl
  have hlimit : (r.without extra).isAtLimit maxSteps? = r.isAtLimit maxSteps? := rfl
  simp only [ending?, hcancelled, hlimit]
  split
  · rfl
  · split
    · simp [finish, Turn.without, without]
      exact ⟨rfl, rfl⟩
    · rfl

theorem attempt_without (h : ∀ round, (full round).Bystanders extra) {r : RunState}
    (hagree : Conduct.AgreesBut extra r.simulator (full r.steps) (plain r.steps)) :
    (r.without extra).attempt plain pause =
      (r.attempt full pause).map (·.without extra) (·.without extra) := by
  let turn := r.simulator.stepWith (full r.steps)
  have hturn : (r.without extra).simulator.stepWith (plain (r.without extra).steps) =
      turn.without extra := stepWith_without (h r.steps) hagree
  have hafter : (r.without extra).afterStep (turn.without extra) =
      (r.afterStep turn).without extra := by
    simp [afterStep, without, Turn.without]
  have hanswer : (turn.without extra).answer = turn.answer := rfl
  have hmachine : ((r.afterStep turn).without extra).simulator.machine =
      (r.afterStep turn).simulator.machine := rfl
  simp only [attempt, hturn, hafter, hanswer, hmachine]
  cases turn.answer with
  | error e => rfl
  | ok o =>
      dsimp only
      split
      · rfl
      · split
        · rfl
        · split
          · rfl
          · rfl

theorem go_without (h : ∀ round, (full round).Bystanders extra) (rounds : Nat) {r : RunState}
    (hagree : ∀ a ∈ attempts full maxSteps? pause rounds r,
      Conduct.AgreesBut extra a.simulator (full a.steps) (plain a.steps)) :
    go plain maxSteps? pause rounds (r.without extra) =
      (go full maxSteps? pause rounds r).without extra := by
  induction rounds generalizing r with
  | zero => rfl
  | succ rounds ih =>
      rw [go, go, ending?_without]
      rw [attempts] at hagree
      cases he : r.ending? maxSteps? with
      | some t => rfl
      | none =>
          rw [he] at hagree
          obtain ⟨hnow, hlater⟩ := List.forall_mem_cons.mp hagree
          rw [attempt_without h hnow]
          cases ha : r.attempt full pause with
          | inl t => rfl
          | inr r' =>
              rw [ha] at hlater
              exact ih hlater

end RunState

/-- **A run takes no notice of bystanders.** -/
theorem runWith_without {full plain : Nat → Conduct} (h : ∀ round, (full round).Bystanders extra)
    (rounds : Nat) {s : Simulator} (options : RunOptions)
    (hagree : ∀ a ∈ s.runAttempts full rounds options,
      Conduct.AgreesBut extra a.simulator (full a.steps) (plain a.steps)) :
    (s.without extra).runWith plain rounds options =
      (s.runWith full rounds options).without extra := by
  have hpause : (s.without extra).runPause options = s.runPause options := rfl
  rw [runWith, runWith, hpause]
  rw [runAttempts] at hagree
  cases he : s.runPause options with
  | error e => rfl
  | ok pause =>
      rw [he] at hagree
      exact RunState.go_without h rounds hagree

theorem load_without (s : Simulator) (source : Text) :
    (s.without extra).load source = (s.load source).without extra := by
  rw [load, load]
  split
  · simp only [Turn.without, List.filter_append, filter_isFor_map_noted]
    rfl
  · simp only [Turn.without, List.filter_append, filter_isFor_map_noted]
    rfl
  · simp only [Turn.without, filter_isFor_map_noted]

/-! ### Histories side by side -/

variable (extra)

/-- Whether an operation changes the subscriptions of one of the extras. -/
def Operation.concerns : Operation → Bool
  | .subscribe l | .unsubscribe l => extra l
  | .load _ | .step _ | .run _ _ _ | .reset | .stop => false

/-- Two operations are **the same but for the extras**, the first of them as an operation on the
given simulator. In steps and runs the extras are bystanders, and the conducts agree but for them at
every step attempt. -/
def Operation.SameBut (s : Simulator) : (full plain : Operation) → Prop
  | .step full, op => ∃ plain, op = .step plain ∧ full.Bystanders extra ∧
      Conduct.AgreesBut extra s full plain
  | .run full rounds options, op => ∃ plain, op = .run plain rounds options ∧
      (∀ round, (full round).Bystanders extra) ∧
      ∀ a ∈ s.runAttempts full rounds options,
        Conduct.AgreesBut extra a.simulator (full a.steps) (plain a.steps)
  | full, plain => plain = full

/-- **Side by side**: a history of operations on a simulator, and the same history without the
extras. The second has an operation for each of the first that does not concern the extras. -/
def Alongside : Simulator → (full plain : List Operation) → Prop
  | _, [], plain => plain = []
  | s, op :: full, plain =>
    if op.concerns extra then Alongside (s.perform op).simulator full plain
    else ∃ op' plain', plain = op' :: plain' ∧ op.SameBut extra s op' ∧
      Alongside (s.perform op).simulator full plain'

/-- The replies to a history as they are without the extras, those to operations that concern the
extras left out. -/
def repliesWithout : Simulator → List Operation → List (Turn Reply)
  | _, [] => []
  | s, op :: ops =>
    let later := repliesWithout (s.perform op).simulator ops
    if op.concerns extra then later else (s.reply op).without extra :: later

variable {extra}

/-- An operation on the subscriptions of the extras leaves no trace without them. -/
theorem without_perform_of_concerns {op : Operation} (h : op.concerns extra = true)
    (s : Simulator) : (s.perform op).simulator.without extra = s.without extra := by
  cases op with
  | subscribe l =>
      have hl : extra l = true := h
      simp [perform, subscribe, without, hl]
  | unsubscribe l => exact (without_unsubscribe h s).1
  | load _ | step _ | run _ _ _ | reset | stop => cases h

/-- **The reply to an operation** takes no notice of bystanders. -/
theorem reply_without {s : Simulator} {op op' : Operation} (hop : op.concerns extra = false)
    (h : op.SameBut extra s op') :
    (s.without extra).reply op' = (s.reply op).without extra := by
  cases op with
  | load source =>
      cases h
      rw [reply, load_without]
      rfl
  | step full =>
      obtain ⟨plain, rfl, hbystanders, hagree⟩ := h
      rw [reply, stepWith_without hbystanders hagree]
      rfl
  | run full rounds options =>
      obtain ⟨plain, rfl, hbystanders, hagree⟩ := h
      rw [reply, runWith_without hbystanders rounds options hagree]
      rfl
  | reset =>
      cases h
      rfl
  | stop =>
      cases h
      rfl
  | subscribe l =>
      cases h
      have hact := act_without (a := .subscribe l) hop s
      exact congrArg (fun t : Turn Unit => (⟨t.simulator, t.answer.map fun _ => .done, t.journal⟩ :
        Turn Reply)) hact
  | unsubscribe l =>
      cases h
      have hact := act_without (a := .unsubscribe l) hop s
      exact congrArg (fun t : Turn Unit => (⟨t.simulator, t.answer.map fun _ => .done, t.journal⟩ :
        Turn Reply)) hact

/-- **A history takes no notice of bystanders**: all its answers, its states, its remarks and the
deliveries to everybody else are those without them. -/
theorem replies_without {s : Simulator} {full plain : List Operation}
    (h : Alongside extra s full plain) :
    (s.without extra).replies plain = s.repliesWithout extra full := by
  induction full generalizing s plain with
  | nil =>
      obtain rfl : plain = [] := h
      rfl
  | cons op full ih =>
      rw [Alongside] at h
      rw [repliesWithout]
      cases hop : op.concerns extra with
      | true =>
          rw [if_pos hop] at h
          rw [if_pos rfl, ← without_perform_of_concerns hop s]
          exact ih h
      | false =>
          rw [if_neg (by simp [hop])] at h
          obtain ⟨op', plain', rfl, hsame, hrest⟩ := h
          have hreply := reply_without hop hsame
          have hnext : ((s.without extra).perform op').simulator =
              (s.perform op).simulator.without extra := by
            rw [← simulator_reply, hreply, ← simulator_reply]
            rfl
          rw [replies, hreply, hnext, ih hrest, if_neg Bool.false_ne_true]

/-! ### Who hears of a step, and who is disturbed by it -/

/-- **Who hears of a step, and who is disturbed by it.** In a history of operations all of whose
listeners look after themselves, the deliveries are those of the step attempts, in order: each
attempt has one event, which goes once for every subscription to the listeners there are when the
machine is done, whatever they do to the list meanwhile. No step and no run fails on account of a
listener, and a listener that withdraws whenever it is called hears of the event as often as it was
subscribed and is gone then. If some of the listeners are bystanders, the same history without them
has the same replies, but for the deliveries to them: the same answers, the same machine, labels and
other subscriptions after every operation, the same remarks and the same other deliveries. -/
theorem delivered_to_all_and_undisturbed (s : Simulator) :
    (∀ ops : List Operation, (∀ op ∈ ops, op.SelfContained) →
      (s.replies ops).flatMap Turn.deliveries =
        (s.attempts ops).flatMap (fun a => a.simulator.dueDeliveries) ∧
      (∀ a ∈ s.attempts ops, a.HeardByAll) ∧
      ∀ before op later, ops = before ++ op :: later → op.Drives →
        ((s.after before).reply op).answer ≠ .error .notSubscribed) ∧
    ∀ (extra : Listener → Bool) (full plain : List Operation), Alongside extra s full plain →
      (s.without extra).replies plain = s.repliesWithout extra full := by
  refine ⟨fun ops hself => ⟨deliveries_replies hself s, ?_, ?_⟩, ?_⟩
  · exact fun a ha => heardByAll_of_mem_attempts hself ha
  · rintro before op later rfl hdrives
    exact answer_reply_ne_notSubscribed (hself op (by simp)) hdrives _
  · exact fun extra full plain halongside => replies_without halongside

/-- A listener with two subscriptions, one in front of a watcher and one behind it, withdraws at the
first event. It hears of that event twice and of no other, and the watcher, which stops the run
after the second step, sees what it sees without the other. -/
theorem delivered_to_all_and_undisturbed_leaver :
    let leaver : Listener := ⟨"leaver", .unsubscribe, none⟩
    let watcher : Listener := ⟨"watcher", .stop, some 8⟩
    let source := "addi x1, x0, 5\naddi x1, x1, 1\naddi x1, x1, 1".toList
    let run := Operation.run (fun _ => Listener.conduct) 8 ⟨none, none, some 0⟩
    let full := [.subscribe leaver, .subscribe watcher, .subscribe leaver, .load source, run]
    let plain := [.subscribe watcher, .load source, run]
    ∃ s, create .builtIn (some 16) = .ok s ∧
      ((s.replies full).flatMap Turn.deliveries).map (fun d => (d.1.name, d.2.pcAfter)) =
        [("leaver", 4), ("watcher", 4), ("leaver", 4), ("watcher", 8)] ∧
      (s.without (· == leaver)).replies plain = s.repliesWithout (· == leaver) full := by
  intro leaver watcher source run full plain
  obtain ⟨s, hcreate⟩ : ∃ s, create .builtIn (some 16) = .ok s := ⟨_, rfl⟩
  obtain ⟨hheard, hundisturbed⟩ := delivered_to_all_and_undisturbed s
  have hself : ∀ op ∈ full, op.SelfContained := by
    intro op hop
    simp only [full, List.mem_cons, List.not_mem_nil, or_false] at hop
    obtain rfl | rfl | rfl | rfl | rfl := hop
    · trivial
    · trivial
    · trivial
    · trivial
    · exact fun _ => Listener.selfContained_conduct
  have hbystanders : Conduct.Bystanders (· == leaver) Listener.conduct := by
    refine ⟨Listener.selfContained_conduct, fun position l event hl a ha => ?_⟩
    obtain rfl : l = leaver := by simpa using hl
    simpa [Listener.conduct, Listener.reactsTo, Reaction.actions, leaver] using ha
  have halongside : Alongside (· == leaver) s full plain := by
    refine ⟨.subscribe watcher, _, rfl, rfl, .load source, _, rfl, rfl, run, _, rfl, ?_, rfl⟩
    exact ⟨_, rfl, fun _ => hbystanders, fun a _ =>
      Conduct.agreesBut_self (fun _ _ _ _ => rfl) a.simulator⟩
  refine ⟨s, hcreate, ?_, hundisturbed _ full plain halongside⟩
  rw [(hheard full hself).1]
  cases hcreate
  decide +kernel

end Simulator

end Monocycle
