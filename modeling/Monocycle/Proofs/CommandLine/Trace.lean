import Monocycle.Proofs.CommandLine.Session
import Monocycle.Proofs.Simulator.Account

/-!
# The trace of a run

With `--trace` the command line prints a line for every step attempt of the run, between the line
about the load and the report. The trace is a listener that does nothing, so what comes before and
behind its lines is what is printed without it; and since it hears of every step attempt, its lines
tell the run from the first attempt to the last.

There is a line for each instruction that was carried out, with the program counter before and after
it and the text of the instruction that stood there: `TracesPath` says that such lines hang
together. A run that ends by an attempt at which nothing was carried out has one line more, about
the end.

The induction is on the run from its end on (`RunState.Ends.traced`): the first step attempt has its
line and the rest of the run, which begins where the attempt left the machine, has its own.

## Main definitions

* `stepLine`, `closingLines`: the line of an instruction, and the line about the end.
* `TracesPath`: lines of instructions that hang together.

## Main results

* `Arguments.read_trace`: what `--trace` comes to among the arguments.
* `RunState.Ends.traced`: the lines of what is left of a run.
* `trace_adds_lines`: **the trace adds a faithful block of lines and changes nothing else.**
-/

namespace Monocycle

open Simulator

/-! ### Asking for the trace -/

namespace Arguments

/-- Arguments with the trace asked for. -/
def traced (a : Arguments) : Arguments :=
  { a with trace := true }

/-- Asking for the trace first makes no difference to a flag. -/
theorem setFlag_traced (a : Arguments) (o : OptionName) :
    a.traced.setFlag o = (a.setFlag o).map traced := by
  cases o <;> rfl

/-- Asking for the trace first makes no difference to an option with a value. -/
theorem setValue_traced (a : Arguments) (o : OptionName) (value : String) :
    a.traced.setValue o value = (a.setValue o value).map traced := by
  cases o with
  | sample =>
      rw [setValue, setValue]
      split
      · rfl
      · rfl
  | delay =>
      rw [setValue, setValue]
      cases Text.integer? value.toList with
      | none => rfl
      | some n => rfl
  | maxSteps =>
      rw [setValue, setValue]
      cases Text.integer? value.toList with
      | none => rfl
      | some n => rfl
  | help | config | trace | plot | serve => rfl

/-- Asking for the trace first makes no difference to what follows an option. -/
theorem bind_traced {x : Except ArgumentsEnd Arguments}
    {f : Arguments → Except ArgumentsEnd Arguments} (h : ∀ a, f a.traced = (f a).map traced) :
    (x.map traced >>= f) = (x >>= f).map traced := by
  cases x with
  | error e => rfl
  | ok a => exact h a

/-- An option that takes no value is read whatever is behind it. -/
theorem readFrom_flag {o : OptionName} (h : o.takesValue = false) (a : Arguments)
    (isOpen surplus : Bool) (rest : List Argument) :
    a.readFrom isOpen surplus (.option o none :: rest) =
      a.setFlag o >>= fun a => a.readFrom isOpen surplus rest := by
  rw [readFrom.eq_def]
  simp only [h, Bool.false_eq_true, if_false]

/-- Asking for the trace first makes no difference to the arguments behind. -/
theorem readFrom_traced (a : Arguments) (isOpen surplus : Bool) (roles : List Argument) :
    a.traced.readFrom isOpen surplus roles = (a.readFrom isOpen surplus roles).map traced := by
  fun_induction readFrom a isOpen surplus roles with
  | case1 => rfl
  | case2 a isOpen surplus hsurplus =>
      rw [readFrom, if_neg hsurplus]
      rfl
  | case3 a isOpen surplus o value rest ih =>
      rw [readFrom, setValue_traced]
      exact bind_traced ih
  | case4 a isOpen surplus o hvalue value rest ih =>
      rw [readFrom, if_pos hvalue, setValue_traced]
      exact bind_traced ih
  | case5 a isOpen surplus o rest hvalue hnone =>
      rw [readFrom, if_pos hvalue]
      · rfl
      · exact hnone
  | case6 a isOpen surplus o rest hvalue ih =>
      rw [readFrom_flag (Bool.eq_false_iff.mpr hvalue), setFlag_traced]
      exact bind_traced ih
  | case7 => rfl
  | case8 a isOpen surplus rest ih => exact ih
  | case9 a surplus value rest ih => exact ih
  | case10 a isOpen surplus value rest hopen ih =>
      rw [readFrom, if_neg hopen]
      exact ih
  | case11 a isOpen surplus rest hnone ih =>
      rw [readFrom]
      · exact ih
      · exact hnone
  | case12 a surplus value rest ih => exact ih
  | case13 a isOpen surplus value rest hopen ih =>
      rw [readFrom, if_neg hopen]
      exact ih
  | case14 a surplus value rest hnone ih =>
      rw [readFrom, if_pos rfl]
      · exact ih
      · exact hnone
  | case15 a isOpen surplus value rest hnone hopen ih =>
      rw [readFrom, if_neg hopen]
      · exact ih
      · exact hnone

/-- **Asking for the trace** in front of all other arguments changes nothing about them: they are
refused for the same reason, or read as they are read. -/
theorem read_trace (argv : List String) :
    read ("--trace" :: argv) = (read argv).map traced := by
  have hrole : Argument.classify? "--trace" = some (.option .trace none) := by decide +kernel
  simp only [read, Argument.classifyAll?, hrole]
  cases Argument.classifyAll? argv with
  | none => rfl
  | some roles =>
      have hread : empty.readFrom true false (.option .trace none :: roles) =
          (empty.readFrom true false roles).map traced := by
        rw [← readFrom_traced, readFrom_flag rfl]
        rfl
      simp only [Option.map_some, hread]
      refine bind_traced fun a => ?_
      rw [apply_ite (Except.map traced)]
      rfl

end Arguments

/-! ### Lines that hang together -/

/-- The line of an instruction that was carried out: the program counter before, the text of the
instruction, and the program counter after. -/
def stepLine (pc : Int) (text : Text) (pc' : Int) : Text :=
  "PC=".toList ++ Text.padEnd 4 (Text.ofInt pc) ++ ' ' :: Text.padEnd 32 text ++
    " -> PC=".toList ++ Text.ofInt pc'

/-- The **line about the end** at a program counter, if the last attempt carried nothing out. -/
def closingLines (pc : Int) : Option StepOutcome → List Text
  | some .halted => ["halted at PC=".toList ++ Text.ofInt pc]
  | some (.failed e) =>
    ["error at PC=".toList ++ Text.ofInt pc ++ ": ".toList ++ e.message.toList]
  | some (.executed _) | none => []

/-- Lines **trace a path** through a program, from one program counter to another: each is the line
of the instruction at its program counter, and goes on where the line before ended. -/
inductive TracesPath (program : List Instruction) : Int → List Text → Int → Prop
  | refl (pc : Int) : TracesPath program pc [] pc
  | step {k : Nat} {i : Instruction} {pc pc' : Int} {lines : List Text}
      (hi : program[k]? = some i) (hrest : TracesPath program pc lines pc') :
      TracesPath program (4 * k) (stepLine (4 * k) i.text pc :: lines) pc'

/-- There is one line about the end, or none. -/
theorem length_closingLines (pc : Int) (last? : Option StepOutcome) :
    (closingLines pc last?).length = if last?.any (!·.isExecuted) then 1 else 0 := by
  rw [closingLines.eq_def]
  split
  · rfl
  · rfl
  · rfl
  · rfl

/-- An instruction that was carried out before does not make a line about the end. -/
theorem closingLines_or (pc index : Int) (last? : Option StepOutcome) :
    closingLines pc (last?.or (some (.executed index))) = closingLines pc last? := by
  cases last? with
  | none => rfl
  | some o => rfl

namespace Simulator

variable {s : Simulator}

/-- **The line of a step attempt** that carried an instruction out. -/
theorem traceLine_of_isExecuted (h : s.machine.outcome.isExecuted = true) :
    ∃ k i index, s.machine.pc = 4 * (k : Nat) ∧ s.machine.program.toList[k]? = some i ∧
      s.machine.outcome = .executed index ∧
      traceLine s.event = stepLine s.machine.pc i.text s.machine.next.pc := by
  obtain ⟨i, effect, hfetch, -, hs⟩ := Machine.exists_step_of_isExecuted h
  obtain ⟨hrange, haligned, hi⟩ := Machine.fetch?_eq_some_iff.mp hfetch
  obtain ⟨hlow, -⟩ := Machine.pcInRange_iff.mp hrange
  refine ⟨(s.machine.pc / 4).toNat, i, i.index, by omega, by simpa using hi, ?_, ?_⟩
  · rw [Machine.outcome, hs]
  · simp only [event, eventOf, hs, traceLine, Machine.next]
    rfl

/-- **The line of a step attempt** that carried nothing out. -/
theorem traceLine_of_not_isExecuted (h : s.machine.outcome.isExecuted = false) :
    s.machine.next.pc = s.machine.pc ∧
      [traceLine s.event] = closingLines s.machine.pc (some s.machine.outcome) := by
  obtain ⟨-, hs⟩ | ⟨-, -, hs⟩ | ⟨i, e, -, -, hs⟩ | ⟨i, effect, -, -, hs⟩ :=
    s.machine.step_cases
  · simp [Machine.next, Machine.outcome, event, eventOf, hs, traceLine, closingLines]
  · simp [Machine.next, Machine.outcome, event, eventOf, hs, traceLine, closingLines]
  · simp [Machine.next, Machine.outcome, event, eventOf, hs, traceLine, closingLines]
  · simp [Machine.outcome, hs, StepOutcome.isExecuted] at h

/-- **A step with the trace listening** is a step of the machine, of which the trace hears. -/
theorem stepWith_of_traced (h : s.listeners = [traceListener]) :
    s.stepWith Listener.conduct = ⟨s.stepped, .ok s.machine.outcome,
      (stepRemarks s.machine).map .noted ++ [.delivered traceListener s.event]⟩ := by
  have hheard : notify Listener.conduct s.event 0 s.stepped.listeners s.stepped =
      ⟨s.stepped, .ok (), [.delivered traceListener s.event]⟩ := by
    rw [listeners_stepped, h]
    rfl
  have houtcome : s.event.outcome = s.machine.outcome := outcome_eventOf s.machine
  have hstep : s.stepWith Listener.conduct =
      ⟨(notify Listener.conduct s.event 0 s.stepped.listeners s.stepped).simulator,
        (notify Listener.conduct s.event 0 s.stepped.listeners s.stepped).answer.map
          fun _ => s.event.outcome,
        (stepRemarks s.machine).map .noted ++
          (notify Listener.conduct s.event 0 s.stepped.listeners s.stepped).journal⟩ := rfl
  rw [hstep, hheard, houtcome]
  rfl

/-! ### The trace of a run -/

/-- The lines the trace prints for some deliveries. -/
def tracedLines (deliveries : List (Listener × StepEvent)) : List Text :=
  (deliveries.filter fun d => d.1 == traceListener).map fun d => traceLine d.2

theorem traceLines_eq {α : Type} (t : Turn α) : traceLines t = tracedLines t.deliveries := rfl

/-- What is traced later has its lines behind. -/
theorem tracedLines_append (before after : List (Listener × StepEvent)) :
    tracedLines (before ++ after) = tracedLines before ++ tracedLines after := by
  rw [tracedLines, List.filter_append, List.map_append, tracedLines, tracedLines]

namespace RunState

variable {maxSteps? : Option Int} {pause : Delay} {r : RunState} {attempts : List Simulator}
variable {t : Turn RunResult}

/-- A step of a run with the trace listening adds its line. -/
theorem tracedLines_attempt (pause : Delay) (hlisteners : r.simulator.listeners = [traceListener]) :
    tracedLines ((r.attempt (fun _ => Listener.conduct) pause).elim Turn.deliveries delivered) =
      tracedLines r.delivered ++ [traceLine r.simulator.event] := by
  have hdeliveries : (r.simulator.stepWith Listener.conduct).deliveries =
      [(traceListener, r.simulator.event)] := by
    rw [deliveries_stepWith, listeners_stepped, hlisteners]
    rfl
  rw [deliveries_attempt, tracedLines_append, hdeliveries]
  rfl

/-- **The lines of what is left of a run** with the trace listening: one for each instruction that
is carried out, and the line about the end. -/
theorem Ends.traced
    (h : Ends (fun _ => Listener.conduct) maxSteps? pause r attempts t)
    (hlisteners : r.simulator.listeners = [traceListener]) (htaken : pause.refusal? = none) :
    ∃ rest lines, t.answer = .ok (r.total rest) ∧ lines.length = rest.steps ∧
      TracesPath r.simulator.machine.program.toList r.simulator.machine.pc lines
        t.simulator.machine.pc ∧
      traceLines t = tracedLines r.delivered ++ lines ++
        closingLines t.simulator.machine.pc rest.last? := by
  induction h with
  | @ending r t he =>
      have hlines := deliveries_ending? he
      obtain ⟨-, rfl⟩ | ⟨-, -, rfl⟩ := ending?_cases he
      · exact ⟨⟨0, none, _, true⟩, [], rfl, rfl, .refl _,
          by simp [traceLines_eq, hlines, closingLines]⟩
      · exact ⟨⟨0, none, _, false⟩, [], rfl, rfl, .refl _,
          by simp [traceLines_eq, hlines, closingLines]⟩
  | @last r t he ha =>
      have hlines := tracedLines_attempt pause hlisteners
      rw [ha, Sum.elim_inl, ← traceLines_eq] at hlines
      obtain ⟨e, herr, -⟩ | ⟨o, hok, hexecuted, hat⟩ | ⟨o, hok, hexecuted, -, hat⟩ |
          ⟨o, e, -, -, -, hrefused, -⟩ | ⟨o, -, -, -, -, hat⟩ :=
        attempt_cases (fun _ => Listener.conduct) pause r (stepWith_of_traced hlisteners)
      · cases herr
      · cases hok
        cases hat.symm.trans ha
        obtain ⟨hpc, hline⟩ := traceLine_of_not_isExecuted hexecuted
        refine ⟨⟨0, some r.simulator.machine.outcome, _, false⟩, [], rfl, rfl, ?_, ?_⟩
        · rw [machine_finish, simulator_afterOutcome, machine_stepped, hpc]
          exact .refl _
        · rw [hlines, hline, machine_finish, simulator_afterOutcome, machine_stepped, hpc,
            List.append_nil]
      · cases hok
        cases hat.symm.trans ha
        obtain ⟨k, i, index, hpc, hi, houtcome, hline⟩ := traceLine_of_isExecuted hexecuted
        refine ⟨⟨1, some r.simulator.machine.outcome, _, false⟩,
          [traceLine r.simulator.event], rfl, rfl, ?_, ?_⟩
        · rw [machine_finish, simulator_afterExecuted, machine_stepped, hline, hpc]
          exact .step hi (.refl _)
        · rw [hlines, houtcome, closingLines, List.append_nil]
      · cases htaken.symm.trans hrefused
      · cases hat.symm.trans ha
  | @next r r' attempts t he ha hrest ih =>
      have hlines := tracedLines_attempt pause hlisteners
      rw [ha, Sum.elim_inr] at hlines
      obtain ⟨o, hok, hexecuted, rfl⟩ := exists_of_attempt_eq_inr ha
      have hturn := stepWith_of_traced hlisteners
      rw [hturn] at hok
      cases hok
      rw [hturn] at ih hlines
      obtain ⟨rest, lines, hanswer, hlength, hpath, htrace⟩ := ih hlisteners
      obtain ⟨k, i, index, hpc, hi, houtcome, hline⟩ := traceLine_of_isExecuted hexecuted
      refine ⟨⟨rest.steps + 1, rest.last?.or (some r.simulator.machine.outcome), rest.halted,
        rest.cancelled⟩, traceLine r.simulator.event :: lines, ?_, ?_, ?_, ?_⟩
      · rw [hanswer]
        exact congrArg Except.ok (total_afterExecuted r _ _ rest)
      · rw [List.length_cons, hlength]
      · rw [simulator_afterExecuted, machine_stepped, Machine.program_next] at hpath
        rw [hline, hpc]
        exact .step hi hpath
      · rw [htrace, hlines, houtcome, closingLines_or]
        simp only [List.append_assoc, List.cons_append, List.nil_append]

end RunState

/-- **The lines of a run** with the trace listening. -/
theorem traceLines_run_subscribe (hlisteners : s.listeners = []) (limit : Int) {pause : Delay}
    (hpause : s.settings.pause = .ok pause) (htaken : pause.refusal? = none) :
    let turn := (s.subscribe traceListener).run ⟨some limit, none, none⟩
    ∃ result lines, turn.answer = .ok result ∧ lines.length = result.steps ∧
      TracesPath s.machine.program.toList s.machine.pc lines turn.simulator.machine.pc ∧
      traceLines turn = lines ++ closingLines turn.simulator.machine.pc result.last? := by
  intro turn
  obtain ⟨attempts, hends⟩ := exists_ends_of_rounds (fun _ => Listener.conduct)
    (s.subscribe traceListener) ⟨some limit, none, none⟩ (.inl rfl) hpause
  have hsubscribed : (s.subscribe traceListener).listeners = [traceListener] := by
    rw [subscribe, hlisteners, List.nil_append]
  obtain ⟨rest, lines, hanswer, hlength, hpath, htrace⟩ := hends.traced hsubscribed htaken
  have htotal : RunState.total (.start (s.subscribe traceListener) ⟨some limit, none, none⟩) rest =
      rest := by
    simp [RunState.total, RunState.start]
  rw [htotal] at hanswer
  exact ⟨rest, lines, hanswer, hlength, hpath, htrace⟩

end Simulator

/-! ### Sessions with the trace -/

section

variable {files : Files} {argv argv' : List String} {a : Arguments} {source : Text}
variable {settings : Settings} {size words default : Int}

/-- With the trace asked for everything is still in order. -/
theorem InOrder.traced (h : InOrder files argv a source settings size words default)
    (htraced : Arguments.read argv' = .ok a.traced) :
    InOrder files argv' a.traced source settings size words default where
  arguments := htraced
  runs := h.runs
  delay := h.delay
  source := h.source
  configured := h.configured
  usable := h.usable

/-- **A session and the same with the trace**, of a source that has a program: what the two print,
and what stands in the lines that the second has more. -/
theorem sessions_of_loaded (h : InOrder files argv a source settings size words default)
    (hoff : a.trace = false) (htraced : Arguments.read argv' = .ok a.traced) {p : Program}
    (hassemble : assemble source = .ok p) {s : Simulator} (hcreate : create settings none = .ok s) :
    let turn := (s.load source).simulator.run ⟨some (a.maxSteps?.getD default), none, none⟩
    let m := turn.simulator.machine
    ∃ result path, turn.answer = .ok result ∧ path.length = result.steps ∧
      TracesPath p.instructions 0 path m.pc ∧
      (session files argv).out = printedLines p.instructions.length [] m result
        (m.memory.words 0 (some (words * 4))) ∧
      (session files argv').out = printedLines p.instructions.length
        (path ++ closingLines m.pc result.last?) m result (m.memory.words 0 (some (words * 4))) ∧
      (session files argv).ending = .exit 0 ∧ (session files argv').ending = .exit 0 := by
  intro turn m
  have hload : (s.load source).answer = .ok (.loaded p.instructions.length) := by
    rw [load, hassemble]
  have hstart : (s.load source).simulator.machine.program.toList = p.instructions ∧
      (s.load source).simulator.machine.pc = 0 := by
    rw [load, hassemble]
    exact ⟨List.toList_toArray, rfl⟩
  obtain ⟨hlisteners, hsettings, -⟩ := load_of_create h.usable hcreate source
  obtain ⟨pause, hpause, htaken⟩ := h.usable.exists_pause
  rw [← hsettings] at hpause
  obtain ⟨result, path, hresult, hlength, hpath, htrace⟩ :=
    traceLines_run_subscribe hlisteners (a.maxSteps?.getD default) hpause htaken
  -- the run that the trace listens to comes to the same
  obtain ⟨hanswer, hfinal⟩ : _ ∧ _ = m := run_watched hlisteners a.traced _
  have hwatched : (s.load source).simulator.watched a.traced =
      (s.load source).simulator.subscribe traceListener := rfl
  have hplain : (s.load source).simulator.watched a = (s.load source).simulator := by
    rw [watched, hoff]
    rfl
  rw [hwatched] at hanswer hfinal
  rw [hfinal, hstart.1, hstart.2] at hpath
  rw [hfinal] at htrace
  obtain ⟨result', hresult', hout, hending, -⟩ := session_of_loaded_traced h hcreate hload
  obtain ⟨result'', hresult'', hout', hending', -⟩ :=
    session_of_loaded_traced (h.traced htraced) hcreate hload
  obtain rfl : result = result' := Except.ok.inj (hresult.symm.trans (hanswer.trans hresult'))
  obtain rfl : result = result'' := Except.ok.inj (hresult'.symm.trans hresult'')
  rw [hplain, traceLines_run hlisteners] at hout
  exact ⟨result, path, hresult', hlength, hpath, hout,
    hout'.trans (congrArg (printedLines _ · m result _) htrace), hending, hending'⟩

end

end Monocycle
