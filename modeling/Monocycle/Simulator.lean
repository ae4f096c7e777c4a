import Monocycle.Journal
import Monocycle.Settings.Basic

/-!
# The simulator

A machine together with the labels of its program, the settings, and the listeners that hear of
every step. Every operation gives the simulator afterwards, its answer, and the journal of what
was noted down and delivered on the way, oldest first.

A listener may do anything with the simulator when an event reaches it: stop it, reset it, change
the subscriptions. Its **conduct** says what it does, and steps and runs are defined for every
conduct, which may depend on the event, on the place of the delivery and on the round of the run.
`Simulator.step` and `Simulator.run` take the conduct of listeners whose reaction is data.

A run repeats steps until the machine halts, a step fails, the step limit is reached, or the run
is cancelled: by a token that is asked before every step, or because a listener stopped the
simulator. Where neither a limit nor a token bounds a run, it is given up after `roundGuard`
rounds, and that answer is kept apart from every other.

## Main definitions

* `Simulator`, `Turn`: the state, and what an operation comes to.
* `Simulator.load`, `Simulator.step`, `Simulator.run`, `Simulator.reset`, `Simulator.stop`: the
  operations on the program.
* `Listener`, `Simulator.subscribe`, `Simulator.unsubscribe`, `Simulator.notify`: listeners.
* `Action`, `Conduct`, `Simulator.stepWith`, `Simulator.runWith`: steps and runs under any conduct
  of the listeners.
-/

namespace Monocycle

/-! ### Listeners -/

/-- What a listener does with the simulator when an event reaches it. -/
inductive Reaction where
  /-- Nothing. -/
  | none
  /-- Stops the run. -/
  | stop
  /-- Starts the program over. -/
  | reset
  /-- Takes one subscription of its own away. -/
  | unsubscribe
  deriving DecidableEq, Repr

/-- **Listener** for step events. -/
structure Listener where
  name : String
  reaction : Reaction
  /-- The program counter after the step at which it reacts; without one it always does. -/
  atPc? : Option Int
  deriving DecidableEq, Repr

/-- Whether a listener reacts to an event. -/
def Listener.reactsTo (l : Listener) (event : StepEvent) : Bool :=
  match l.atPc? with
  | some pc => event.pcAfter == pc
  | none => true

/-- What a listener can do with the simulator that calls it. -/
inductive Action where
  /-- Stop the run. -/
  | stop
  /-- Start the program over. -/
  | reset
  /-- Add a subscription. -/
  | subscribe (l : Listener)
  /-- Take a subscription away. -/
  | unsubscribe (l : Listener)
  deriving DecidableEq, Repr

/-- The **conduct** of the listeners while an event is delivered: what each of them does, by the
number of deliveries of the event before it. -/
abbrev Conduct := Nat → Listener → StepEvent → List Action

/-- What a reaction of a listener comes to. -/
def Reaction.actions (l : Listener) : Reaction → List Action
  | none => []
  | stop => [.stop]
  | reset => [.reset]
  | unsubscribe => [.unsubscribe l]

/-- The conduct of listeners that react as they say of themselves. -/
def Listener.conduct : Conduct :=
  fun _ l event => if l.reactsTo event then l.reaction.actions l else []

/-! ### State and turns -/

/-- **Simulator state.** -/
structure Simulator where
  machine : Machine
  /-- The labels of the loaded program. -/
  labels : LabelTable
  /-- Whether a run is on and has not been stopped. -/
  running : Bool
  /-- The subscriptions in order; a listener may have several. -/
  listeners : List Listener
  settings : Settings

/-- Why an operation has no answer. -/
inductive SimulatorError where
  /-- A source holds a decimal numeral over the digit limit. -/
  | tooManyDigits (count : Nat)
  /-- A setting is of no use. -/
  | setting (e : SettingError)
  /-- The clock refuses the pause between two steps. -/
  | pause (e : DelayError)
  /-- A listener without a subscription was to lose one. -/
  | notSubscribed
  /-- A run without bounds was given up. -/
  | endless
  deriving DecidableEq, Repr

/-- The wording of a simulator error. -/
def SimulatorError.message : SimulatorError → String
  | tooManyDigits count =>
    let limit := Text.digitLimit
    s!"Exceeds the limit ({limit} digits) for integer string conversion: value has {count} " ++
      "digits; use sys.set_int_max_str_digits() to increase the limit"
  | setting e => e.message
  | pause e => e.message
  | notSubscribed => "list.remove(x): x not in list"
  | endless => "the run does not come to an end"

/-- An entry of the journal. -/
inductive JournalEntry where
  | noted (r : Remark)
  | delivered (listener : Listener) (event : StepEvent)
  deriving DecidableEq

/-- **Turn**: what an operation comes to. -/
structure Turn (α : Type) where
  /-- The simulator afterwards. -/
  simulator : Simulator
  answer : Except SimulatorError α
  /-- What was noted down and delivered, oldest first. -/
  journal : List JournalEntry

namespace Turn

/-- Goes on after a turn if it has an answer. -/
def andThen {α β : Type} (t : Turn α) (next : Simulator → α → Turn β) : Turn β :=
  match t.answer with
  | .error e => ⟨t.simulator, .error e, t.journal⟩
  | .ok a =>
    let later := next t.simulator a
    ⟨later.simulator, later.answer, t.journal ++ later.journal⟩

/-- The remarks in the journal of a turn. -/
def remarks {α : Type} (t : Turn α) : List Remark :=
  t.journal.filterMap fun
    | .noted r => some r
    | .delivered .. => none

/-- The deliveries in the journal of a turn. -/
def deliveries {α : Type} (t : Turn α) : List (Listener × StepEvent) :=
  t.journal.filterMap fun
    | .noted _ => none
    | .delivered l event => some (l, event)

end Turn

namespace Simulator

/-- A simulator without a program. The size of the data memory is the one given, or else that of
the settings. -/
def create (settings : Settings) (memorySize? : Option Int) : Except SettingError Simulator := do
  let size ← match memorySize? with
    | some size => pure size
    | none => settings.memorySize
  return ⟨.ofMemorySize size, [], false, [], settings⟩

/-! ### Programs -/

/-- The answer to loading a source. -/
inductive LoadResult where
  /-- The program was loaded; its number of instructions. -/
  | loaded (count : Nat)
  /-- The source has no program, and nothing has changed. -/
  | rejected (e : ParseError)
  deriving DecidableEq

/-- **Loading a source**: the program takes the place of the one before only if the whole source
can be assembled. -/
def load (s : Simulator) (source : Text) : Turn LoadResult :=
  let remarks := (assemblyRemarks source).map .noted
  match assemble source with
  | .ok program =>
    let count := program.instructions.length
    ⟨{ s with
        machine := s.machine.load program.instructions
        labels := program.labels
        running := false },
      .ok (.loaded count), remarks ++ [.noted (.loaded count)]⟩
  | .error (.parse e) => ⟨s, .ok (.rejected e), remarks ++ [.noted (.rejected e)]⟩
  | .error (.tooManyDigits count) => ⟨s, .error (.tooManyDigits count), remarks⟩

/-- The loaded program with its labels. -/
def program (s : Simulator) : Program :=
  ⟨s.machine.program.toList, s.labels⟩

/-- Stops a run at its next round. -/
def stop (s : Simulator) : Simulator :=
  { s with running := false }

/-- **Reset**: stops a run and starts the program over. -/
def reset (s : Simulator) : Turn Unit :=
  ⟨{ s with machine := s.machine.reset, running := false }, .ok (), [.noted .restarted]⟩

/-! ### Subscriptions -/

/-- Adds a subscription at the end of the list. -/
def subscribe (s : Simulator) (l : Listener) : Simulator :=
  { s with listeners := s.listeners ++ [l] }

/-- Takes away the first subscription of a listener. -/
def unsubscribe (s : Simulator) (l : Listener) : Turn Unit :=
  if l ∈ s.listeners then ⟨{ s with listeners := s.listeners.erase l }, .ok (), []⟩
  else ⟨s, .error .notSubscribed, []⟩

/-- One action of a listener. -/
def act (s : Simulator) : Action → Turn Unit
  | .stop => ⟨s.stop, .ok (), []⟩
  | .reset => s.reset
  | .subscribe l => ⟨s.subscribe l, .ok (), []⟩
  | .unsubscribe l => s.unsubscribe l

/-- Some actions of a listener in order, up to the first error. -/
def actAll : List Action → Simulator → Turn Unit
  | [], s => ⟨s, .ok (), []⟩
  | a :: rest, s => (s.act a).andThen fun s _ => actAll rest s

/-- Delivers an event to one listener, which answers with some actions. -/
def deliver (s : Simulator) (l : Listener) (event : StepEvent) (actions : List Action) :
    Turn Unit :=
  let turn := actAll actions s
  { turn with journal := .delivered l event :: turn.journal }

/-- Delivers an event to some listeners in order, up to the first error; `position` deliveries of
it came before. -/
def notify (conduct : Conduct) (event : StepEvent) : (position : Nat) → List Listener →
    Simulator → Turn Unit
  | _, [], s => ⟨s, .ok (), []⟩
  | position, l :: rest, s =>
    (s.deliver l event (conduct position l event)).andThen fun s _ =>
      notify conduct event (position + 1) rest s

/-! ### Steps -/

/-- The event of a step attempt of the machine, as listeners hear of it. -/
def eventOf (before : Machine) : Machine × Except ExecutionError StepEvent → StepEvent
  | (_, .ok event) => event
  | (after, .error e) => ⟨.failed e, before.pc, after.pc, e.instruction?, none, none⟩

/-- The remarks on a step attempt of the machine. -/
def stepRemarks (m : Machine) : List Remark :=
  m.stepRemarks ++
    match m.step.2 with
    | .ok _ => []
    | .error e => [.stepFailed m.pc e]

/-- The simulator when the machine is done with a step attempt and before any listener hears of
it. A failed step stops the run. -/
def stepped (s : Simulator) : Simulator :=
  let result := s.machine.step
  let running := match result.2 with
    | .ok _ => s.running
    | .error _ => false
  { s with machine := result.1, running := running }

/-- **One step** under a conduct of the listeners. Every listener hears of it that is subscribed
when the machine is done. -/
def stepWith (conduct : Conduct) (s : Simulator) : Turn StepOutcome :=
  let event := eventOf s.machine s.machine.step
  let heard := notify conduct event 0 s.stepped.listeners s.stepped
  ⟨heard.simulator, heard.answer.map fun _ => event.outcome,
    (stepRemarks s.machine).map .noted ++ heard.journal⟩

/-- One step, at which the listeners react as they say of themselves. -/
def step (s : Simulator) : Turn StepOutcome :=
  s.stepWith Listener.conduct

/-! ### Runs -/

/-- What bounds a run and sets its pace. -/
structure RunOptions where
  /-- The number of steps after which the run ends. -/
  maxSteps? : Option Int
  /-- How often the cancel token answers that the run may go on. -/
  cancelAfter? : Option Nat
  /-- The pause between two steps; if absent, that of the settings. -/
  pause? : Option Delay

/-- The answer to a run. -/
structure RunResult where
  /-- The number of instructions carried out. -/
  steps : Nat
  /-- The outcome of the last step attempt, if there was one. -/
  last? : Option StepOutcome
  /-- Whether the machine is at its end. -/
  halted : Bool
  /-- Whether the run was cancelled. -/
  cancelled : Bool
  deriving DecidableEq

/-- The rounds after which an unbounded run is given up. -/
def roundGuard : Nat := 10000000

/-- The number of rounds that a run with these bounds cannot exceed. -/
def RunOptions.rounds (options : RunOptions) : Nat :=
  match options.maxSteps?, options.cancelAfter? with
  | none, none => roundGuard
  | some m, none => m.toNat + 1
  | none, some n => n + 1
  | some m, some n => min m.toNat n + 1

/-- A run under way. -/
structure RunState where
  simulator : Simulator
  /-- How often the cancel token still answers that the run may go on. -/
  cancelAfter? : Option Nat
  steps : Nat
  last? : Option StepOutcome
  /-- What was noted down and delivered, oldest first. -/
  journal : Array JournalEntry

namespace RunState

/-- Ends a run with an error. -/
def fail (r : RunState) (e : SimulatorError) : Turn RunResult :=
  ⟨r.simulator.stop, .error e, r.journal.toList⟩

/-- Ends a run. -/
def finish (r : RunState) (cancelled : Bool) : Turn RunResult :=
  ⟨r.simulator.stop, .ok ⟨r.steps, r.last?, r.simulator.machine.isHalted, cancelled⟩,
    r.journal.toList⟩

/-- Whether a run has to end before its next step because it was stopped or cancelled. -/
def isCancelled (r : RunState) : Bool :=
  !r.simulator.running || r.cancelAfter? == some 0

/-- Whether a run has come to its step limit. -/
def isAtLimit (r : RunState) (maxSteps? : Option Int) : Bool :=
  match maxSteps? with
  | some m => m ≤ r.steps
  | none => false

/-- A run after the token was asked and a step was attempted. -/
def afterStep (r : RunState) (turn : Turn StepOutcome) : RunState :=
  { r with
    simulator := turn.simulator
    cancelAfter? := r.cancelAfter?.map (· - 1)
    journal := r.journal ++ turn.journal }

/-- The end of a run that comes before its next step. -/
def ending? (maxSteps? : Option Int) (r : RunState) : Option (Turn RunResult) :=
  if r.isCancelled then some (r.finish true)
  else if r.isAtLimit maxSteps? then
    some (finish { r with journal := r.journal.push (.noted (.limitReached r.steps)) } false)
  else none

/-- The next step of a run: the run ends with it, or pauses and goes on. A pause that the clock
refuses ends the run, and the step is made by then. -/
def attempt (conduct : Nat → Conduct) (pause : Delay) (r : RunState) :
    Sum (Turn RunResult) RunState :=
  let turn := r.simulator.stepWith (conduct r.steps)
  let r := r.afterStep turn
  match turn.answer with
  | .error e => .inl (r.fail e)
  | .ok outcome =>
    let r := { r with last? := some outcome }
    if !outcome.isExecuted then .inl (r.finish false)
    else
      let r := { r with steps := r.steps + 1 }
      if r.simulator.machine.isHalted then .inl (r.finish false)
      else
        match pause.refusal? with
        | some e => .inl (r.fail (.pause e))
        | none => .inr r

/-- **Rounds** of a run: each asks whether to end and attempts one step. -/
def go (conduct : Nat → Conduct) (maxSteps? : Option Int) (pause : Delay) :
    (rounds : Nat) → RunState → Turn RunResult
  | 0, r => r.fail .endless
  | rounds + 1, r =>
    match r.ending? maxSteps? with
    | some turn => turn
    | none =>
      match r.attempt conduct pause with
      | .inl turn => turn
      | .inr r => go conduct maxSteps? pause rounds r

end RunState

/-- The pause of a run: its own, or that of the settings. -/
def runPause (s : Simulator) (options : RunOptions) : Except SettingError Delay :=
  match options.pause? with
  | some pause => .ok pause
  | none => s.settings.pause

/-- **A run** under a conduct of the listeners, which is told by the number of steps the run has
made; it is given up after some rounds. A pause that the settings do not tell keeps a run from
beginning. -/
def runWith (conduct : Nat → Conduct) (rounds : Nat) (s : Simulator) (options : RunOptions) :
    Turn RunResult :=
  match s.runPause options with
  | .error e => ⟨s, .error (.setting e), []⟩
  | .ok pause =>
    RunState.go conduct options.maxSteps? pause rounds
      ⟨{ s with running := true }, options.cancelAfter?, 0, none, #[]⟩

/-- A run, at which the listeners react as they say of themselves. -/
def run (s : Simulator) (options : RunOptions) : Turn RunResult :=
  s.runWith (fun _ => Listener.conduct) options.rounds options

/-! ### Looking at the machine -/

/-- The registers in order. -/
def registers (s : Simulator) : List Int :=
  s.machine.registers.toList

/-- The memory words in a window of addresses. -/
def memoryWords (s : Simulator) (start : Int) (stop? : Option Int) : List (Int × Int) :=
  s.machine.memory.words start stop?

/-- **Memory window**: the words that are shown of the memory, as many as the settings say. -/
def memoryWindow (s : Simulator) : Except SettingError (List (Int × Int)) := do
  let stop ← s.settings.windowEnd s.machine.memory.size
  return s.memoryWords 0 (some stop)

end Simulator

end Monocycle
