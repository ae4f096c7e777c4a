import Monocycle.Proofs.Simulator.FailedStep
import Monocycle.Proofs.Simulator.Replay

/-!
# Viewers

A viewer shows the program counter, the registers and the memory of a simulator. It looks at all of
them once, when it begins, and from then on at one word for each event at most: the one that the
event names, in the machine of after. This module shows that such a viewer never shows anything but
what is there.

The argument has two halves. The event of a step attempt tells everything (`StepEvent.Tells`), so
that following it leads from one machine to the next, `View.follow_of_tells`. And the step attempts
of a history hang together: each starts with the machine that the one before left, and the last
leaves the machine that the history leads to. `Leads` says so, and holds of every history in which
no program is loaded and nothing starts over, whatever else the listeners do.

## Main definitions

* `View`, `View.follow`, `View.watch`: what a viewer shows, and how it follows events.
* `Leads`: step attempts that lead from one machine to another.
* `Simulator.Undisturbed`: histories without an accepted load and without a reset.

## Main results

* `View.watch_of_leads`: a viewer that watches step attempts shows the machine they lead to.
* `Simulator.leads_attempts`: the step attempts of an undisturbed history hang together.
* `Simulator.step_events_tell_everything`: **step events tell everything that changes.**
-/

namespace Monocycle

/-! ### Copying a word -/

/-- A register file with one register copied from another one. -/
def RegisterFile.copy (f : RegisterFile) (r : Register) (source : RegisterFile) : RegisterFile :=
  ⟨f.cells.setIfInBounds r.val (source.read r)⟩

/-- Where a register file differs in one register, copying it is all that is needed. -/
theorem RegisterFile.copy_eq {f g : RegisterFile} {r : Register}
    (h : ∀ r', r' ≠ r → g.read r' = f.read r') : f.copy r g = g := by
  have hcells : f.cells.setIfInBounds r.val (g.read r) = g.cells := by
    refine Vector.ext fun j hj => ?_
    rw [Vector.getElem_setIfInBounds]
    split
    · next heq => exact congrArg g.read (Fin.ext heq : r = ⟨j, hj⟩)
    · next hne => exact (h ⟨j, hj⟩ fun heq => hne (congrArg Fin.val heq).symm).symm
  rw [copy, hcells]

/-- A memory with one slot copied from another one. -/
def DataMemory.copy (m : DataMemory) (address : Int) (source : DataMemory) : DataMemory :=
  ⟨m.size, m.slots.setIfInBounds address.toNat (source.read address)⟩

/-- Where a memory differs in one slot, copying it is all that is needed. -/
theorem DataMemory.copy_eq {m m' : DataMemory} {address v : Int} (hsized : m.Sized)
    (hin : 0 ≤ address ∧ address < m.size) (hsize : m'.size = m.size)
    (hslot : m'.slots[address.toNat]? = some v)
    (hothers : ∀ j : Nat, address ≠ j → m'.slots[j]? = m.slots[j]?) : m.copy address m' = m' := by
  have hread : m'.read address = v := by
    rw [read, if_pos (inRange_iff.mpr (by rwa [hsize])), Array.getD_eq_getD_getElem?, hslot]
    rfl
  have hbound : address.toNat < m.slots.size := by
    rw [Sized] at hsized
    omega
  have hslots : m.slots.setIfInBounds address.toNat v = m'.slots := by
    refine Array.ext_getElem? fun j => ?_
    by_cases hj : address = j
    · have hindex : address.toNat = j := by omega
      rw [← hindex, Array.getElem?_setIfInBounds_self_of_lt hbound, hslot]
    · rw [Array.getElem?_setIfInBounds_ne (by omega), hothers j hj]
  rw [copy, hread, hslots, ← hsize]

/-! ### Following events -/

/-- What a **viewer** shows of a simulator. -/
structure View where
  pc : Int
  registers : RegisterFile
  memory : DataMemory

namespace View

/-- The view of a machine. -/
def of (m : Machine) : View :=
  ⟨m.pc, m.registers, m.memory⟩

/-- A viewer **follows** an event: it takes over the program counter that the event tells, and looks
up the register and the slot that the event names in the machine of after. -/
def follow (v : View) (event : StepEvent) (m : Machine) : View where
  pc := event.pcAfter
  registers :=
    match event.writtenRegister? with
    | some r => v.registers.copy r m.registers
    | none => v.registers
  memory :=
    match event.writtenAddress? with
    | some a => v.memory.copy a m.memory
    | none => v.memory

/-- A viewer **watches** some step attempts: it follows the event of each, with the machine that the
listeners find when the event reaches them. -/
def watch (v : View) (attempts : List StepAttempt) : View :=
  attempts.foldl (fun v a => v.follow a.simulator.event a.simulator.stepped.machine) v

/-- **An event that tells what happened leads from view to view.** -/
theorem follow_of_tells {event : StepEvent} {m m' : Machine} (h : event.Tells m m')
    (hsized : m.memory.Sized) : (of m).follow event m' = of m' := by
  cases hr : event.writtenRegister? with
  | some r =>
      have ha : event.writtenAddress? = none := h.alone.resolve_left (by simp [hr])
      obtain ⟨hmemory, hothers⟩ := h.register r hr
      simp only [follow, of, hr, ha, h.pcAfter, hmemory, RegisterFile.copy_eq hothers]
  | none =>
      cases ha : event.writtenAddress? with
      | some a =>
          obtain ⟨hin, hregisters, hothers, i, -, hslot⟩ := h.address a ha
          simp only [follow, of, hr, ha, h.pcAfter, hregisters,
            DataMemory.copy_eq hsized hin h.size hslot hothers]
      | none =>
          obtain ⟨hregisters, hmemory⟩ := h.nothing hr ha
          simp only [follow, of, hr, ha, h.pcAfter, hregisters, hmemory]

end View

/-- The event of a step that does not fail is the event of the machine. -/
theorem Simulator.event_of_ok {s : Simulator} {event : StepEvent}
    (h : s.machine.step.2 = .ok event) : s.event = event := by
  have hstep : s.machine.step = (s.machine.next, .ok event) := Prod.ext rfl h
  rw [Simulator.event, hstep, eventOf]

/-- The event of a step attempt tells what the attempt did, whether it failed or not. -/
theorem Simulator.tells_event {s : Simulator} (h : s.machine.HoldsWords) :
    s.event.Tells s.machine s.stepped.machine := by
  rw [machine_stepped]
  cases hstep : s.machine.step.2 with
  | ok event =>
      rw [event_of_ok hstep]
      exact h.tells_next hstep
  | error e =>
      rw [event_of_error hstep, Machine.next_of_error hstep]
      exact StepEvent.tells_of_phase s.machine s.machine.phase rfl rfl rfl rfl rfl

/-! ### Step attempts that hang together -/

/-- Step attempts **lead** from one machine to another: each starts with the machine that the step
before left. -/
inductive Leads : Machine → List StepAttempt → Machine → Prop
  | refl (m : Machine) : Leads m [] m
  | step {a : StepAttempt} {rest : List StepAttempt} {m' : Machine} :
      Leads a.simulator.machine.next rest m' → Leads a.simulator.machine (a :: rest) m'

namespace Leads

variable {m m' m'' : Machine} {as bs : List StepAttempt}

theorem append (h : Leads m as m') (h' : Leads m' bs m'') : Leads m (as ++ bs) m'' := by
  induction h with
  | refl _ => exact h'
  | step _ ih => exact .step (ih h')

/-- The attempts before one of them lead to the machine that it starts with. -/
theorem take (h : Leads m as m') {k : Nat} {a : StepAttempt} (ha : as[k]? = some a) :
    Leads m (as.take k) a.simulator.machine := by
  induction h generalizing k with
  | refl _ => cases ha
  | step _ ih =>
      cases k with
      | zero =>
          cases ha
          exact .refl _
      | succ k => exact .step (ih (by simpa using ha))

end Leads

/-- **A viewer that watches step attempts** shows the machine they lead to. -/
theorem View.watch_of_leads {m m' : Machine} {as : List StepAttempt} (hm : m.HoldsWords)
    (h : Leads m as m') : (View.of m).watch as = View.of m' := by
  induction h with
  | refl _ => rfl
  | @step a rest m' _ ih =>
      have hfollow : (View.of a.simulator.machine).follow a.simulator.event
          a.simulator.stepped.machine = View.of a.simulator.machine.next :=
        follow_of_tells (Simulator.tells_event hm) hm.memory.sized
      rw [watch, List.foldl_cons, hfollow]
      exact ih hm.next

namespace Simulator

/-- A step in which nothing starts over is the step of the machine. -/
theorem machine_stepWith_of_not_restarts {conduct : Conduct} {s : Simulator}
    (h : ¬(s.stepWith conduct).Restarts) :
    (s.stepWith conduct).simulator.machine = s.machine.next :=
  (heard_stepWith conduct s).machine.resolve_right fun ⟨_, hrestarts⟩ => h hrestarts

namespace RunState

variable {conduct : Nat → Conduct} {maxSteps? : Option Int} {pause : Delay}

/-- A reset in the course of a step of a run is in the journal of the run for good. -/
theorem restarts_go_of_stepWith (rounds : Nat) {r : RunState} (he : r.ending? maxSteps? = none)
    (h : (r.simulator.stepWith (conduct r.steps)).Restarts) :
    (go conduct maxSteps? pause (rounds + 1) r).Restarts := by
  have hjournal := (attempt_leaves conduct pause r).2
  rw [go, he]
  cases ha : r.attempt conduct pause with
  | inl t =>
      simp only [ha, Sum.elim_inl] at hjournal
      change JournalEntry.noted .restarted ∈ t.journal
      rw [hjournal]
      exact List.mem_append_right _ h
  | inr r' =>
      simp only [ha, Sum.elim_inr] at hjournal
      have hmem : JournalEntry.noted .restarted ∈ r'.journal.toList := by
        rw [hjournal]
        exact List.mem_append_right _ h
      exact go_preserves (P := fun _ journal => JournalEntry.noted .restarted ∈ journal)
        (fun _ _ _ hj => List.mem_append_left _ hj) (fun _ _ hj => hj)
        (fun _ _ _ hj => List.mem_append_left _ hj) rounds hmem

/-- **The step attempts of a run hang together** if nothing starts over in its course. -/
theorem leads_go (rounds : Nat) {r : RunState}
    (h : ¬(go conduct maxSteps? pause rounds r).Restarts) :
    Leads r.simulator.machine
      ((attempts conduct maxSteps? pause rounds r).map fun a => ⟨a.simulator, conduct a.steps⟩)
      (go conduct maxSteps? pause rounds r).simulator.machine := by
  induction rounds generalizing r with
  | zero => exact .refl _
  | succ rounds ih =>
      cases he : r.ending? maxSteps? with
      | some t =>
          rw [go, attempts, he]
          obtain ⟨-, rfl⟩ | ⟨-, -, rfl⟩ := ending?_cases he
          · exact .refl _
          · exact .refl _
      | none =>
          have hstep := machine_stepWith_of_not_restarts
            (mt (restarts_go_of_stepWith rounds he) h)
          have hmachine := (attempt_leaves conduct pause r).1
          rw [go, he] at h
          rw [go, attempts, he]
          cases ha : r.attempt conduct pause with
          | inl t =>
              simp only [ha, Sum.elim_inl] at hmachine ⊢
              rw [hmachine, hstep]
              exact .step (a := ⟨r.simulator, conduct r.steps⟩) (.refl _)
          | inr r' =>
              simp only [ha, Sum.elim_inr] at h hmachine ⊢
              refine .step (a := ⟨r.simulator, conduct r.steps⟩) ?_
              rw [← hstep, ← hmachine]
              exact ih h

end RunState

/-! ### Undisturbed histories -/

/-- A history is **undisturbed** if none of its operations is an accepted load, and none starts the
program over, be it the operation itself or a listener in its course. -/
def Undisturbed : Simulator → List Operation → Prop
  | _, [] => True
  | s, op :: ops =>
    (¬s.Loads op ∧ ¬(s.perform op).Restarts) ∧ Undisturbed (s.perform op).simulator ops

/-- Nothing disturbs a history in which nothing is loaded and nobody resets. -/
theorem undisturbed_of_not_mayReset {s : Simulator} {ops : List Operation}
    (h : ∀ op ∈ ops, (∀ source, op ≠ .load source) ∧ ¬op.MayReset) : s.Undisturbed ops := by
  induction ops generalizing s with
  | nil => trivial
  | cons op ops ih =>
      obtain ⟨⟨hload, hreset⟩, hrest⟩ := List.forall_mem_cons.mp h
      exact ⟨⟨fun ⟨source, _, hop, _⟩ => hload source hop, mt mayReset_of_restarts hreset⟩,
        ih hrest⟩

/-- The step attempts of an operation hang together if it neither loads nor starts over. -/
theorem leads_attemptsOf {s : Simulator} {op : Operation} (hloads : ¬s.Loads op)
    (hrestarts : ¬(s.perform op).Restarts) :
    Leads s.machine (s.attemptsOf op) (s.perform op).simulator.machine := by
  cases op with
  | load source =>
      obtain ⟨p, -, -, hanswer⟩ | ⟨e, -, hs, -⟩ := load_cases s source
      · exact absurd ⟨source, _, rfl, hanswer⟩ hloads
      · rw [perform, hs]
        exact .refl _
  | step conduct =>
      have hmachine : (s.perform (.step conduct)).simulator.machine = s.machine.next :=
        machine_stepWith_of_not_restarts hrestarts
      rw [hmachine]
      exact .step (a := ⟨s, conduct⟩) (.refl _)
  | run conduct rounds options =>
      have hrun : ¬(s.runWith conduct rounds options).Restarts := hrestarts
      change Leads s.machine ((s.runAttempts conduct rounds options).map _)
        (s.runWith conduct rounds options).simulator.machine
      rw [runWith] at hrun ⊢
      rw [runAttempts]
      cases hpause : s.runPause options with
      | error e => exact .refl _
      | ok pause =>
          simp only [hpause] at hrun
          exact RunState.leads_go (r := .start s options) rounds hrun
  | reset => exact absurd (List.mem_singleton_self _) hrestarts
  | stop => exact .refl _
  | subscribe l => exact .refl _
  | unsubscribe l =>
      have hmachine : (s.perform (.unsubscribe l)).simulator.machine = s.machine := by
        simp only [perform, unsubscribe]
        split <;> rfl
      rw [hmachine]
      exact .refl _

/-- **The step attempts of an undisturbed history hang together.** -/
theorem leads_attempts {s : Simulator} {ops : List Operation} (h : s.Undisturbed ops) :
    Leads s.machine (s.attempts ops) (s.after ops).machine := by
  induction ops generalizing s with
  | nil => exact .refl _
  | cons op ops ih =>
      obtain ⟨⟨hloads, hrestarts⟩, hrest⟩ := h
      exact (leads_attemptsOf hloads hrestarts).append (ih hrest)

/-- **Step events tell everything that changes.** The machine may hold any records; all that is
asked is the data invariant, which the machine after a load has. The event of a step tells what the
step did. And a viewer that begins with the machine and follows the events of any further history,
short of loading another program or starting over, shows at each step attempt the program counter,
the registers and the memory that the attempt starts with, and in the end those that the history
leads to. -/
theorem step_events_tell_everything {m : Machine} (h : m.HoldsWords) :
    (∀ event, m.step.2 = .ok event → event.Tells m m.next) ∧
    (∀ s : Simulator, s.machine = m → ∀ ops, s.Undisturbed ops →
      (∀ k a, (s.attempts ops)[k]? = some a →
        (View.of m).watch ((s.attempts ops).take k) = View.of a.simulator.machine) ∧
      (View.of m).watch (s.attempts ops) = View.of (s.after ops).machine) ∧
    ∀ (s : Simulator) (source : Text) (count : Nat),
      (s.load source).answer = .ok (.loaded count) →
      (s.load source).simulator.machine.HoldsWords := by
  refine ⟨fun event => h.tells_next, fun s hs ops hops => ?_, fun s source count hload => ?_⟩
  · subst hs
    have hleads := leads_attempts hops
    exact ⟨fun k a ha => View.watch_of_leads h (hleads.take ha), View.watch_of_leads h hleads⟩
  · obtain ⟨p, -, hs, -⟩ | ⟨e, -, -, hno⟩ := load_cases s source
    · rw [hs]
      exact Machine.holdsWords_load _ _
    · exact absurd hload (hno count)

/-- A viewer sees a word stored at an address that is no multiple of four, a load from outside the
memory into register 0, and a branch to itself, some of it in a run that is cut by its limit. -/
theorem step_events_tell_everything_selfLoop :
    let source := "addi x1, x0, 5\nsw x1, 6(x0)\nlw x0, 64(x0)\nend: beq x0, x0, end".toList
    let quiet : Conduct := fun _ _ _ => []
    let limited := Operation.run (fun _ => quiet) 8 ⟨some 2, none, some 0⟩
    let ops := [Operation.step quiet, limited, .stop, .step quiet, .step quiet]
    ∃ s, create .builtIn (some 16) = .ok s ∧
      let start := (s.load source).simulator
      let seen := (View.of start.machine).watch (start.attempts ops)
      (start.attempts ops).length = 5 ∧ seen = View.of (start.after ops).machine ∧
      seen.pc = 16 ∧ seen.memory.read 6 = 5 ∧
      ∀ event, start.machine.step.2 = .ok event → event.Tells start.machine start.machine.next := by
  intro source quiet limited ops
  obtain ⟨s, hcreate⟩ : ∃ s, create .builtIn (some 16) = .ok s := ⟨_, rfl⟩
  cases hcreate
  refine ⟨_, rfl, ?_⟩
  intro start seen
  have hwords : start.machine.HoldsWords := Machine.holdsWords_load _ _
  have hops : start.Undisturbed ops := by
    refine undisturbed_of_not_mayReset fun op hop => ⟨fun source' heq => ?_, ?_⟩
    · subst heq
      simp [ops, limited] at hop
    · simp only [ops, limited, List.mem_cons, List.not_mem_nil, or_false] at hop
      obtain rfl | rfl | rfl | rfl | rfl := hop <;>
        simp [Operation.MayReset, Conduct.Resets, quiet]
  have hshown : (start.attempts ops).length = 5 ∧ seen.pc = 16 ∧ seen.memory.read 6 = 5 := by
    decide +kernel
  obtain ⟨hlength, hpc, hword⟩ := hshown
  obtain ⟨htells, hviewer, -⟩ := step_events_tell_everything hwords
  exact ⟨hlength, (hviewer start rfl ops hops).2, hpc, hword, htells⟩

end Simulator

end Monocycle
