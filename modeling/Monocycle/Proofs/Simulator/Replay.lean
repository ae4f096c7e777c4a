import Monocycle.Proofs.Simulator.Loads
import Monocycle.Proofs.Simulator.Settings

/-!
# No residue between programs

A simulator is used for one program after another, and what one program leaves behind must not reach
the next. A load takes over nothing of what was there before but the size of the memory, the
subscriptions and the settings, and none of these is a trace of a program. So two simulators with
memories of one size that load the same source agree but for subscriptions and settings, whatever
either was used for. With equal subscriptions they then go on alike, call by call: the settings are
not looked at by a step, and by a run only for its pause. Equal pauses are to one effect, whatever
they are, and so are pauses that the clock takes.

A reset is to the same effect. However a program was driven on, and however it ended, a reset leads
back to the very state of the machine after its load.

## Main definitions

* `after`, `LoadsNothing`: the simulator after a history, and histories without an accepted load.
* `Call`, `calls`: steps and runs with their answers, one after the other.

## Main results

* `simulator_load_of_loaded`: what is left of a simulator after an accepted load.
* `reset_after_of_loadsNothing`: a reset undoes everything since the load.
* `load_leaves_no_residue`: **no residue between programs.**
-/

namespace Monocycle

/-! ### Machines that start over -/

namespace Machine

/-- A program that starts over depends on nothing but the program and the size of the memory. -/
theorem reset_congr {m m' : Machine} (hprogram : m'.program = m.program)
    (hsize : m'.memory.size = m.memory.size) : m'.reset = m.reset := by
  simp only [reset, DataMemory.cleared, hprogram, hsize]

/-- A program that is loaded depends on nothing but the size of the memory. -/
theorem load_congr {m m' : Machine} (hsize : m'.memory.size = m.memory.size)
    (is : List Instruction) : m'.load is = m.load is :=
  reset_congr rfl hsize

end Machine

namespace Simulator

/-! ### Histories -/

/-- The simulator **after a history** of operations. -/
def after (s : Simulator) (ops : List Operation) : Simulator :=
  ops.foldl (fun s op => (s.perform op).simulator) s

/-- A history **loads nothing** if none of its operations is an accepted load. -/
def LoadsNothing : Simulator → List Operation → Prop
  | _, [] => True
  | s, op :: ops => ¬s.Loads op ∧ LoadsNothing (s.perform op).simulator ops

/-- What every operation keeps, a history keeps. -/
theorem after_preserves {P : Simulator → Prop}
    (h : ∀ s op, P s → P (s.perform op).simulator) {s : Simulator} (ops : List Operation)
    (hs : P s) : P (s.after ops) := by
  induction ops generalizing s with
  | nil => exact hs
  | cons op ops ih => exact ih (h s op hs)

/-- A history keeps the size of the memory. -/
theorem memorySize_after (s : Simulator) (ops : List Operation) :
    (s.after ops).machine.memory.size = s.machine.memory.size := by
  refine after_preserves (P := fun s' => s'.machine.memory.size = s.machine.memory.size)
    (fun s' op hs' => ?_) ops rfl
  exact machine_perform (P := fun m => m.memory.size = s.machine.memory.size)
    (fun m hm => (Machine.memorySize_next m).trans hm) (fun _ hm => hm) (fun _ _ hm => hm) op hs'

/-- No operation changes the settings. -/
theorem settings_perform (s : Simulator) (op : Operation) :
    (s.perform op).simulator.settings = s.settings := by
  cases op with
  | load source =>
      obtain ⟨p, -, hs, -⟩ | ⟨e, -, hs, -⟩ := load_cases s source
      · rw [perform, hs]
      · rw [perform, hs]
  | step conduct => exact (heard_stepWith conduct s).settings
  | run conduct rounds options => exact settings_runWith rounds s options
  | reset => rfl
  | stop => rfl
  | subscribe l => rfl
  | unsubscribe l =>
      simp only [perform, unsubscribe]
      split
      · rfl
      · rfl

theorem settings_after (s : Simulator) (ops : List Operation) :
    (s.after ops).settings = s.settings :=
  after_preserves (P := fun s' => s'.settings = s.settings)
    (fun s' op hs' => (settings_perform s' op).trans hs') ops rfl

/-- A history that loads nothing keeps the program. -/
theorem program_after_of_loadsNothing {s : Simulator} {ops : List Operation}
    (h : s.LoadsNothing ops) : (s.after ops).program = s.program := by
  induction ops generalizing s with
  | nil => rfl
  | cons op ops ih =>
      obtain ⟨hop, hrest⟩ := h
      exact (ih hrest).trans (program_perform_of_not_loads hop)

/-! ### What loads and resets leave -/

/-- **What is left of a simulator after an accepted load**: its subscriptions, its settings and the
size of its memory. All else is as in any other simulator that loads the same source. -/
theorem simulator_load_of_loaded {s t : Simulator} {source : Text} {count : Nat}
    (hsize : t.machine.memory.size = s.machine.memory.size)
    (hload : (s.load source).answer = .ok (.loaded count)) :
    (t.load source).answer = .ok (.loaded count) ∧
      (t.load source).simulator =
        { (s.load source).simulator with listeners := t.listeners, settings := t.settings } := by
  obtain ⟨p, hp, hs, hanswer⟩ | ⟨e, -, -, hno⟩ := load_cases s source
  · obtain ⟨p', hp', ht, hanswer'⟩ | ⟨e, he, -, -⟩ := load_cases t source
    · cases hp.symm.trans hp'
      refine ⟨hanswer'.trans (hanswer.symm.trans hload), ?_⟩
      rw [ht, hs, Machine.load_congr hsize]
    · cases hp.symm.trans he
  · exact absurd hload (hno count)

/-- **A reset undoes everything since the load**, but for the subscriptions. -/
theorem reset_after_of_loadsNothing {s : Simulator} {source : Text} {count : Nat}
    (hload : (s.load source).answer = .ok (.loaded count)) {ops : List Operation}
    (hops : (s.load source).simulator.LoadsNothing ops) :
    ((s.load source).simulator.after ops).reset.simulator =
      { (s.load source).simulator with
        listeners := ((s.load source).simulator.after ops).listeners } := by
  obtain ⟨p, -, hs, -⟩ | ⟨e, -, -, hno⟩ := load_cases s source
  · -- the machine after a load is one that has just started over
    have hstart : (s.load source).simulator.machine.reset = (s.load source).simulator.machine := by
      rw [hs]
      rfl
    have hrunning : (s.load source).simulator.running = false := by rw [hs]
    generalize (s.load source).simulator = s' at hops hstart hrunning ⊢
    have hprogram := program_after_of_loadsNothing hops
    have hinstructions : (s'.after ops).machine.program = s'.machine.program :=
      Array.toList_inj.mp (congrArg Program.instructions hprogram)
    have hlabels : (s'.after ops).labels = s'.labels := congrArg Program.labels hprogram
    have hmachine : (s'.after ops).machine.reset = s'.machine :=
      (Machine.reset_congr hinstructions (memorySize_after s' ops)).trans hstart
    simp only [reset, hmachine, hlabels, hrunning, settings_after]
  · exact absurd hload (hno count)

/-! ### Calls that drive a program -/

/-- A **call** that drives a program on, under a conduct of the listeners: a step, or a run that is
followed for some rounds. -/
inductive Call where
  | step (conduct : Conduct)
  | run (conduct : Nat → Conduct) (rounds : Nat) (options : RunOptions)

/-- Whether the clock says the same to the pauses that a call finds at two simulators, if it is a
run. -/
def Call.PausesAlike (s s' : Simulator) : Call → Prop
  | .step _ => True
  | .run _ _ options => s'.pauseRefusal? options.pause? = s.pauseRefusal? options.pause?

/-- The turn of a call, with the outcome of a step or the result of a run. -/
def call (s : Simulator) : Call → Turn (StepOutcome ⊕ RunResult)
  | .step conduct =>
    let t := s.stepWith conduct
    ⟨t.simulator, t.answer.map .inl, t.journal⟩
  | .run conduct rounds options =>
    let t := s.runWith conduct rounds options
    ⟨t.simulator, t.answer.map .inr, t.journal⟩

/-- The turns of some **calls** one after the other. -/
def calls : Simulator → List Call → List (Turn (StepOutcome ⊕ RunResult))
  | _, [] => []
  | s, c :: rest => s.call c :: calls (s.call c).simulator rest

theorem settings_call (s : Simulator) (c : Call) : (s.call c).simulator.settings = s.settings := by
  cases c with
  | step conduct => exact (heard_stepWith conduct s).settings
  | run conduct rounds options => exact settings_runWith rounds s options

/-- What is said to a pause is a matter of the settings. -/
theorem pauseRefusal?_congr {s s' : Simulator} (h : s'.settings = s.settings)
    (pause? : Option Delay) : s'.pauseRefusal? pause? = s.pauseRefusal? pause? := by
  rw [pauseRefusal?, pauseRefusal?, runPause, runPause, h]

theorem Call.PausesAlike.congr {s s' t t' : Simulator} {c : Call} (h : c.PausesAlike s s')
    (hs : t.settings = s.settings) (hs' : t'.settings = s'.settings) : c.PausesAlike t t' := by
  cases c with
  | step conduct => trivial
  | run conduct rounds options =>
      exact (pauseRefusal?_congr hs' _).trans (Eq.trans h (pauseRefusal?_congr hs _).symm)

/-- A call does not depend on the settings. -/
theorem call_withSettings {settings : Settings} {s : Simulator} {c : Call}
    (h : c.PausesAlike s (s.withSettings settings)) :
    (s.withSettings settings).call c = (s.call c).withSettings settings := by
  cases c with
  | step conduct =>
      rw [call, stepWith_withSettings]
      rfl
  | run conduct rounds options =>
      rw [call, runWith_withSettings settings h]
      rfl

/-- **Calls do not depend on the settings.** -/
theorem calls_withSettings (settings : Settings) {s : Simulator} {cs : List Call}
    (h : ∀ c ∈ cs, c.PausesAlike s (s.withSettings settings)) :
    (s.withSettings settings).calls cs = (s.calls cs).map (·.withSettings settings) := by
  induction cs generalizing s with
  | nil => rfl
  | cons c rest ih =>
      obtain ⟨hc, hrest⟩ := List.forall_mem_cons.mp h
      rw [calls, call_withSettings hc, calls, List.map_cons]
      exact congrArg _ (ih fun other hother => (hrest other hother).congr (settings_call s c) rfl)

/-- **No residue between programs.** Two simulators have memories of one size and any histories.
If the first accepts a source, so does the second, and then machine and labels are equal. If the
subscriptions are equal too, as when there are none, any calls with pauses to which the clock says
the same come to the same turns on both, but for the settings the simulators carry: the same answers
and journals, and the same machine, labels and subscriptions after each call. And whatever the first
simulator does next, short of loading another program, a reset leads back to where it was after the
load, but for the subscriptions; with the subscriptions of then, it repeats every turn. -/
theorem load_leaves_no_residue (a b : Simulator) (before before' : List Operation)
    {source : Text} {count : Nat} (hsize : b.machine.memory.size = a.machine.memory.size)
    (hload : ((a.after before).load source).answer = .ok (.loaded count)) :
    let a' := ((a.after before).load source).simulator
    let b' := ((b.after before').load source).simulator
    ((b.after before').load source).answer = .ok (.loaded count) ∧
    b'.machine = a'.machine ∧ b'.labels = a'.labels ∧
    (b'.listeners = a'.listeners → ∀ cs, (∀ c ∈ cs, c.PausesAlike a' b') →
      b'.calls cs = (a'.calls cs).map (·.withSettings b'.settings)) ∧
    ∀ ops, a'.LoadsNothing ops →
      let again := (a'.after ops).reset.simulator
      again = { a' with listeners := again.listeners } ∧
      (again.listeners = a'.listeners → ∀ cs, again.calls cs = a'.calls cs) := by
  intro a' b'
  have hsize' : (b.after before').machine.memory.size = (a.after before).machine.memory.size := by
    rw [memorySize_after, memorySize_after, hsize]
  obtain ⟨hanswer, hload'⟩ := simulator_load_of_loaded hsize' hload
  have hb : b' = { a' with listeners := b'.listeners, settings := b'.settings } := by
    simp only [b', hload', a']
  refine ⟨hanswer, by rw [hb], by rw [hb], fun hlisteners cs halike => ?_, fun ops hops => ?_⟩
  · have hsettings : b' = a'.withSettings b'.settings := by
      rw [hlisteners] at hb
      exact hb
    rw [hsettings] at halike ⊢
    exact calls_withSettings b'.settings halike
  · intro again
    have hagain : again = { a' with listeners := again.listeners } :=
      reset_after_of_loadsNothing hload hops
    refine ⟨hagain, fun hlisteners cs => ?_⟩
    rw [hlisteners] at hagain
    rw [hagain]

/-- A simulator that has stored a word and come to a failing store loads what a fresh one loads, is
cut by a step limit, and starts over. -/
theorem load_leaves_no_residue_after_failure :
    let earlier := "addi x2, x0, 7\nsw x2, 4(x0)\nsw x2, 64(x0)".toList
    let source := "lw x1, 4(x0)\nsw x1, 0(x0)".toList
    let conduct : Nat → Conduct := fun _ => Listener.conduct
    let cs := [Call.step Listener.conduct, .run conduct 8 ⟨none, none, some 0⟩]
    let limited := Operation.run conduct 8 ⟨some 1, none, some 0⟩
    ∃ s, create .builtIn (some 16) = .ok s ∧
      let usedBefore := s.after [.load earlier, .run conduct 8 ⟨none, none, some 0⟩]
      usedBefore.machine.memory.read 4 = 7 ∧
      let used := (usedBefore.load source).simulator
      let fresh := (s.load source).simulator
      fresh.machine = used.machine ∧ fresh.labels = used.labels ∧
      fresh.calls cs = (used.calls cs).map (·.withSettings fresh.settings) ∧
      (used.after [limited]).reset.simulator.machine = used.machine := by
  intro earlier source conduct cs limited
  obtain ⟨s, hcreate⟩ : ∃ s, create .builtIn (some 16) = .ok s := ⟨_, rfl⟩
  let before : List Operation := [.load earlier, .run conduct 8 ⟨none, none, some 0⟩]
  have hload : ((s.after before).load source).answer = .ok (.loaded 2) := rfl
  obtain ⟨-, hmachine, hlabels, hcalls, hreset⟩ :=
    load_leaves_no_residue s s before [] rfl hload
  have hlisteners : (s.load source).simulator.listeners =
      ((s.after before).load source).simulator.listeners := by
    cases hcreate
    decide +kernel
  have halike : ∀ t t' : Simulator, ∀ c ∈ cs, c.PausesAlike t t' := by
    intro t t' c hc
    obtain rfl | rfl : c = .step Listener.conduct ∨ c = .run conduct 8 ⟨none, none, some 0⟩ := by
      simpa [cs] using hc
    · trivial
    · rfl
  have hops : ((s.after before).load source).simulator.LoadsNothing [limited] := by
    refine ⟨?_, trivial⟩
    rintro ⟨source', count, hop, -⟩
    exact Operation.noConfusion hop
  refine ⟨s, hcreate, ?_, hmachine, hlabels,
    hcalls hlisteners cs (halike _ _), ?_⟩
  · cases hcreate
    decide +kernel
  · rw [(hreset _ hops).1]

end Simulator

end Monocycle
