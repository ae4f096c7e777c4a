import Monocycle.Proofs.CommandLine.Report
import Monocycle.Proofs.Simulator.Bystanders
import Monocycle.Proofs.Simulator.Usable

/-!
# Sessions that run a program

A session at the command line has much to do before it can run a program, and every part of it may
break off: the arguments, the files, the settings and the program. Once these are in order nothing
breaks off any more, and the session prints what a run comes to.

The command line does more than the run: it prints the trace by way of a listener. That listener is
a bystander, so the run is the same without it. It also sets a pause of its own, which makes no
difference either as long as the clock takes it.

## Main definitions

* `InOrder`: arguments, files and settings with which a session runs a program.

## Main results

* `run_watched`: the trace does not change a run.
* `session_of_inOrder`: what a session with everything in order comes to.
* `runSession_eq`: **what is printed about a run.**
-/

namespace Monocycle

open Simulator

/-! ### The trace as a listener -/

/-- The simulator that the command line runs: with the trace listening, if it is asked for. -/
def Simulator.watched (s : Simulator) (a : Arguments) : Simulator :=
  if a.trace then s.subscribe traceListener else s

namespace Simulator

variable {s : Simulator} {size words limit : Int}

theorem settings_watched (s : Simulator) (a : Arguments) :
    (s.watched a).settings = s.settings := by
  rw [watched]
  split
  · rfl
  · rfl

/-- The trace is a bystander. -/
theorem bystanders_traceListener : Listener.conduct.Bystanders (· == traceListener) := by
  refine ⟨Listener.selfContained_conduct, fun position l event hl => ?_⟩
  obtain rfl : l = traceListener := by simpa using hl
  simp [Listener.conduct, Listener.reactsTo, Reaction.actions, traceListener]

/-- A run without listeners is the run with the trace listening, without the deliveries to it. -/
theorem run_eq_without (hlisteners : s.listeners = []) (options : RunOptions) :
    s.run options = ((s.subscribe traceListener).run options).without (· == traceListener) := by
  have hwithout : (s.subscribe traceListener).without (· == traceListener) = s := by
    have hfilter : [traceListener].filter (fun l => !l == traceListener) = [] := by decide
    rw [without, subscribe, hlisteners, List.nil_append, hfilter, ← hlisteners]
  have hplain : ((s.subscribe traceListener).without (· == traceListener)).run options =
      ((s.subscribe traceListener).run options).without (· == traceListener) :=
    runWith_without (fun _ => bystanders_traceListener) options.rounds options
      fun r _ => Conduct.agreesBut_self (fun _ _ _ _ => rfl) r.simulator
  rwa [hwithout] at hplain

/-- **The trace does not change a run**: not its answer, and not where the machine ends. -/
theorem run_watched (hlisteners : s.listeners = []) (a : Arguments) (options : RunOptions) :
    ((s.watched a).run options).answer = (s.run options).answer ∧
      ((s.watched a).run options).simulator.machine = (s.run options).simulator.machine := by
  rw [watched]
  split
  · rw [run_eq_without hlisteners]
    exact ⟨rfl, rfl⟩
  · exact ⟨rfl, rfl⟩

/-- Nothing is traced in a run without listeners. -/
theorem traceLines_run (hlisteners : s.listeners = []) (options : RunOptions) :
    traceLines (s.run options) = [] := by
  rw [traceLines, List.map_eq_nil_iff, List.filter_eq_nil_iff]
  intro delivery hdelivery htrace
  rw [run_eq_without hlisteners, Turn.deliveries, List.mem_filterMap] at hdelivery
  obtain ⟨entry, hentry, hsome⟩ := hdelivery
  obtain ⟨-, hkept⟩ := List.mem_filter.mp hentry
  cases entry with
  | noted r => cases hsome
  | delivered l event =>
      cases hsome
      rw [JournalEntry.isFor_delivered, htrace] at hkept
      cases hkept

/-! ### The report on a run -/

/-- The figures of a simulator with a window. -/
theorem figures_of_shows (h : s.settings.Shows words) :
    s.figures = .ok (.of s.machine.registers none,
      .of (s.memoryWords 0 (some (words * 4))) none) := by
  rw [figures, memoryWindow_of_shows h]
  rfl

/-- Once a pause and a limit are found and the run has an answer, there is a report. -/
theorem runSession_of_answer {a : Arguments} {pause? : Option Delay} {pause : Delay}
    (hpause : (s.watched a).runPause ⟨none, none, pause?⟩ = .ok pause)
    (hlimit : (s.watched a).settings.stepLimit? = .ok (some limit)) {result : RunResult}
    (hanswer : ((s.watched a).run ⟨some (a.maxSteps?.getD limit), none, some pause⟩).answer =
      .ok result) (threshold : Int) (out err : List Text) :
    let turn := (s.watched a).run ⟨some (a.maxSteps?.getD limit), none, some pause⟩
    runSession s a pause? threshold out err = reportSession turn.simulator a result
      (out ++ traceLines turn) (err ++ logLines threshold turn.remarks) := by
  rw [watched] at hpause hlimit hanswer ⊢
  cases hgiven : a.maxSteps? with
  | some n =>
      rw [hgiven, Option.getD_some] at hanswer
      simp only [runSession, hpause, hgiven, bind, Except.bind, pure, Except.pure, hanswer,
        Option.getD_some]
  | none =>
      rw [hgiven, Option.getD_none] at hanswer
      simp only [runSession, hpause, hlimit, hgiven, bind, Except.bind, pure, Except.pure, hanswer,
        Option.getD_none]

/-- **What is printed about a run**, after the line about the load: the lines of the trace, if it is
asked for, and the report. The run that is reported is that of the simulator itself, with the pause
of the settings and without the trace. -/
theorem runSession_eq (hlisteners : s.listeners = [])
    (husable : s.settings.Usable size words limit) (a : Arguments) {pause? : Option Delay}
    (htaken : ∀ pause, pause? = some pause → pause.refusal? = none) (threshold : Int)
    (count : Nat) (err : List Text) :
    let options : RunOptions := ⟨some (a.maxSteps?.getD limit), none, none⟩
    let turn := s.run options
    let window := turn.simulator.memoryWords 0 (some (words * 4))
    let session := runSession s a pause? threshold [loadedLine count] err
    ∃ result, turn.answer = .ok result ∧
      session.out = printedLines count (traceLines ((s.watched a).run options))
        turn.simulator.machine result window ∧
      session.ending = .exit 0 ∧
      session.figures? = if a.plot then
        some (.of turn.simulator.machine.registers none, .of window none) else none := by
  intro options turn window session
  have hwatched : (s.watched a).settings.Usable size words limit := by
    rwa [settings_watched]
  obtain ⟨pause, hpause, hpace⟩ := hasPace_of_usable hwatched htaken
  -- the run that is made, with the trace and the pause of the command line
  let made := (s.watched a).run ⟨some (a.maxSteps?.getD limit), none, some pause⟩
  have hsame : made = (s.watched a).run options :=
    runWith_congr_pause (hasPace_of_usable hwatched (by simp)) ⟨pause, rfl, hpace⟩ options.rounds
  have hmade : made.answer = turn.answer ∧
      made.simulator.machine = turn.simulator.machine := by
    rw [hsame]
    exact run_watched hlisteners a _
  obtain ⟨result, hresult⟩ : ∃ result, turn.answer = .ok result := by
    obtain ⟨own, hown, htaken⟩ := husable.exists_pause
    exact exists_answer_run _ hown htaken
  have hshows : made.simulator.settings.Shows words :=
    shows_run hwatched.shows ⟨some (a.maxSteps?.getD limit), none, some pause⟩
  have hwindow : made.simulator.memoryWords 0 (some (words * 4)) = window := by
    rw [memoryWords, hmade.2]
    rfl
  have hsession : session = reportSession made.simulator a result
      ([loadedLine count] ++ traceLines made) (err ++ logLines threshold made.remarks) :=
    runSession_of_answer hpause hwatched.stepLimit? (hmade.1.trans hresult) threshold _ err
  refine ⟨result, hresult, ?_⟩
  rw [hsession, reportSession, memoryWindow_of_shows hshows, hwindow, hmade.2,
    figures_of_shows hshows, hwindow, hmade.2, ← hsame]
  refine ⟨?_, rfl, rfl⟩
  simp [printedLines]

end Simulator

/-! ### Sessions -/

/-- Arguments, files and settings are **in order**: the arguments ask for a program to be run, with
no pause that the clock refuses, and the files have a source for it and usable settings. -/
structure InOrder (files : Files) (argv : List String) (a : Arguments) (source : Text)
    (settings : Settings) (size words limit : Int) : Prop where
  arguments : Arguments.read argv = .ok a
  runs : a.serve = false
  delay : ∀ d, a.delay? = some d → 0 ≤ d ∧ d ≤ Delay.longest
  source : sourceOf files a = .ok (some source)
  configured : loadSettings files a.config? = .ok settings
  usable : settings.Usable size words limit

section

variable {files : Files} {argv : List String} {a : Arguments} {source : Text} {settings : Settings}
variable {size words limit : Int} {s : Simulator}

/-- The clock takes the pause that the arguments ask for, if they do. -/
theorem InOrder.exists_pause? (h : InOrder files argv a source settings size words limit) :
    ∃ pause?, a.pause? = .ok pause? ∧ ∀ pause, pause? = some pause → pause.refusal? = none := by
  cases hdelay : a.delay? with
  | none => exact ⟨none, by rw [Arguments.pause?, hdelay], nofun⟩
  | some ms =>
      obtain ⟨pause, hpause, htaken⟩ := (Delay.taken_ofMilliseconds?_iff ms).mpr (h.delay ms hdelay)
      refine ⟨some pause, ?_, ?_⟩
      · simp only [Arguments.pause?, hdelay, hpause, Option.elim_some]
      · rintro _ ⟨⟩
        exact htaken

/-- **With everything in order a session runs a program**: it loads the source into a fresh
simulator, with some threshold for the log and some pause that the clock takes, or none, and goes on
from there. -/
theorem session_of_inOrder (h : InOrder files argv a source settings size words limit)
    (hcreate : create settings none = .ok s) :
    ∃ pause? threshold, session files argv = programSession s a pause? threshold source ∧
      ∀ pause, pause? = some pause → pause.refusal? = none := by
  obtain ⟨n, hn⟩ := h.usable.threshold
  obtain ⟨pause?, hpause, htaken⟩ := h.exists_pause?
  have hprepare : ∃ threshold, prepare files a = .ok (some source, threshold, pause?, s) := by
    cases htrace : a.trace with
    | true =>
        refine ⟨Severity.debug.rank, ?_⟩
        simp [prepare, h.source, h.configured, h.runs, hpause, htrace, hcreate, bind, Except.bind,
          pure, Except.pure, Except.mapError]
    | false =>
        refine ⟨n, ?_⟩
        simp [prepare, h.source, h.configured, h.runs, hpause, htrace, hn, hcreate, bind,
          Except.bind, pure, Except.pure, Except.mapError]
  obtain ⟨threshold, hprepare⟩ := hprepare
  refine ⟨pause?, threshold, ?_, htaken⟩
  simp [session, h.arguments, sessionOf, hprepare, h.runs]

/-- A session whose source is rejected ends with the exit code 1 and prints nothing. -/
theorem session_of_rejected (h : InOrder files argv a source settings size words limit)
    (hcreate : create settings none = .ok s) {e : ParseError}
    (hload : (s.load source).answer = .ok (.rejected e)) :
    (session files argv).out = [] ∧ (session files argv).ending = .exit 1 := by
  obtain ⟨pause?, threshold, hsession, -⟩ := session_of_inOrder h hcreate
  rw [hsession, programSession, hload]
  exact ⟨rfl, rfl⟩

/-- **A session whose source is accepted** prints the trace of a run of the loaded simulator, if it
is asked for, and what the run comes to. -/
theorem session_of_loaded_traced (h : InOrder files argv a source settings size words limit)
    (hcreate : create settings none = .ok s) {count : Nat}
    (hload : (s.load source).answer = .ok (.loaded count)) :
    let loaded := (s.load source).simulator
    let options : RunOptions := ⟨some (a.maxSteps?.getD limit), none, none⟩
    let turn := loaded.run options
    let window := turn.simulator.memoryWords 0 (some (words * 4))
    ∃ result, turn.answer = .ok result ∧
      (session files argv).out = printedLines count (traceLines ((loaded.watched a).run options))
        turn.simulator.machine result window ∧
      (session files argv).ending = .exit 0 ∧
      (session files argv).figures? = if a.plot then
        some (.of turn.simulator.machine.registers none, .of window none) else none := by
  obtain ⟨pause?, threshold, hsession, htaken⟩ := session_of_inOrder h hcreate
  have hprogram : session files argv = runSession (s.load source).simulator a pause? threshold
      [loadedLine count] (logLines threshold (s.load source).remarks) := by
    rw [hsession, programSession, hload]
  obtain ⟨hlisteners, hsettings, -⟩ := load_of_create h.usable hcreate source
  rw [hprogram]
  exact runSession_eq hlisteners (hsettings ▸ h.usable) a htaken threshold count _

/-- **A session whose source is accepted** prints what a run of the loaded simulator comes to, and
ends with the exit code 0. -/
theorem session_of_loaded (h : InOrder files argv a source settings size words limit)
    (hcreate : create settings none = .ok s) {count : Nat}
    (hload : (s.load source).answer = .ok (.loaded count)) :
    let turn := (s.load source).simulator.run ⟨some (a.maxSteps?.getD limit), none, none⟩
    let window := turn.simulator.memoryWords 0 (some (words * 4))
    ∃ result trace, turn.answer = .ok result ∧ (∀ line ∈ trace, NoStop line) ∧
      (session files argv).out =
        printedLines count trace turn.simulator.machine result window ∧
      (session files argv).ending = .exit 0 ∧
      (session files argv).figures? = if a.plot then
        some (.of turn.simulator.machine.registers none, .of window none) else none := by
  obtain ⟨result, hresult, hsession⟩ := session_of_loaded_traced h hcreate hload
  exact ⟨result, _, hresult, fun _ => noStop_of_mem_traceLines, hsession⟩

end

end Monocycle
