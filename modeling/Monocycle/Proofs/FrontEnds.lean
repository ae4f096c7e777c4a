import Monocycle.Proofs.CommandLine.Arguments
import Monocycle.Proofs.CommandLine.Session
import Monocycle.Proofs.Machine.Window
import Monocycle.Proofs.Value.Entries
import Monocycle.Proofs.Web.Answers

/-!
# The front ends agree

A program can be run in three ways: by calling the simulator, at the command line, and over the web.
The command line and the web choose the pause of the run themselves, set its limit from their own
data, and tell what they find in their own form. They find the same. What is found at the end of a
run, `Findings`, is the number of steps, the program counter, the registers and the window of the
memory, and for each front end there is a predicate that says that it tells just these.

The three runs differ in their pause, and the command line may have the trace listening. The trace
makes no difference to a run (`run_watched`), and neither do pauses that the clock takes
(`runWith_congr_pause`), so that there is only one run to speak of, that of the simulator with the
pause of its settings.

Two things do not come through in all three ways. A step limit that has more digits than a numeral
may have can be handed to the simulator, but the command line does not take it. And a pause that the
clock refuses breaks off the run of the simulator and of the command line, but not that over the
web, which has no pause.

What is told over the web are maps, and the order of their entries means nothing. So findings are
read off them by looking names up.

## Main definitions

* `Entries.Hold`: entries that hold memory words.
* `Findings`: what is found at the end of a run.
* `Findings.ReportedBy`, `Findings.ToldBy`, `Findings.DrawnIn`: where findings can be read off.

## Main results

* `answers_load_run_state`: the answers to a load, a run and a look at the state over the web.
* `front_ends_agree`: **all front ends find the same.**
-/

namespace Monocycle

open Simulator

/-- Entries **hold** memory words: their names are the addresses, written out, and each has its word
for a value. -/
structure Entries.Hold (entries : Entries) (words : List (Int × Int)) : Prop where
  distinct : entries.Distinct
  get?_eq_some_iff : ∀ name v, entries.get? name = some v ↔
    ∃ word ∈ words, String.ofList (Text.ofInt word.1) = name ∧ .int word.2 = v

/-- **Findings**: what every front end tells about the end of a run. -/
structure Findings where
  /-- The number of instructions carried out. -/
  steps : Nat
  pc : Int
  registers : RegisterFile
  /-- The addresses and words of the memory that are shown. -/
  window : List (Int × Int)

namespace Findings

/-- The findings of a run that ended with a machine, in a window of so many words. -/
def of (m : Machine) (result : RunResult) (words : Int) : Findings :=
  ⟨result.steps, m.pc, m.registers, m.memory.words 0 (some (words * 4))⟩

/-- A session **reports** findings: its last lines tell them, and nothing else. -/
def ReportedBy (f : Findings) (session : Session) : Prop :=
  ∃ before, session.out = before ++
    (["Instructions executed: ".toList ++ Text.ofNat f.steps,
      "PC: ".toList ++ Text.ofInt f.pc, "".toList, "Registers:".toList] ++
      registerTable f.registers ++ ["".toList, "Memory:".toList] ++ memoryLines f.window)

/-- Entries of a response **tell** findings, the number of steps left aside. -/
structure ToldBy (f : Findings) (entries : Entries) : Prop where
  distinct : entries.Distinct
  pc : entries.get? "pc" = some (.int f.pc)
  registers : entries.get? "registers" = some (.list (f.registers.toList.map .int))
  memory : ∃ words : Entries, entries.get? "memory" = some (.map words) ∧ words.Hold f.window

/-- Findings are **drawn** in a memory figure: it has a bar and a label for each word that is shown,
in the same order. -/
structure DrawnIn (f : Findings) (figure : MemoryFigure) : Prop where
  bars : figure.bars.map (·.height) = f.window.map (·.2)
  ticks : figure.ticks = f.window.map fun word => '[' :: Text.ofInt word.1 ++ [']']

end Findings

/-- A session **tells how a run ended**: it prints a stop by an error exactly if the last step attempt
failed, and a stop after the steps that were made exactly if the run neither halted nor failed. -/
structure Session.TellsEnd (session : Session) (result : RunResult) : Prop where
  byError : (∃ line ∈ session.out, "Stopped by error".toList <+: line) ↔
    ∃ e, result.last? = some (.failed e)
  afterSteps : "Stopped after ".toList ++ Text.ofNat result.steps ++
      " steps without halting".toList ∈ session.out ↔
    result.halted = false ∧ ∀ e, result.last? ≠ some (.failed e)

/-- The exit code for a load. -/
def Simulator.LoadResult.exitCode : LoadResult → Nat
  | loaded _ => 0
  | rejected _ => 1

/-! ### Requests -/

namespace Request

/-- A request to load a source. -/
def toLoad (source : Text) : Request :=
  ⟨"POST", "/load", some (.map [("program", .ofText source)])⟩

/-- A request to run with a step limit. -/
def toRun (limit : Int) : Request :=
  ⟨"POST", "/run", some (.map [("max_steps", .int limit)])⟩

/-- A request for the state. -/
def toTell : Request :=
  ⟨"GET", "/state", none⟩

theorem isPost_of_method {r : Request} (h : r.method = "POST") : r.IsPost := by
  rw [IsPost, h]
  decide +kernel

end Request

namespace Simulator

variable {s : Simulator} {words : Int}

theorem answer_toLoad {source : Text} {count : Nat}
    (h : (s.load source).answer = .ok (.loaded count)) :
    s.answer (.toLoad source) = ((s.load source).simulator,
      (s.load source).simulator.stateResponse [("instructionCount", .int count)]) := by
  have hpost : (Request.toLoad source).IsPost := Request.isPost_of_method rfl
  have hpath : Route.ofPath? "/load" = some .load := by decide +kernel
  rw [answer_of_isPost hpost hpath rfl, answerRoute]
  have hsource : (String.ofList source).toList = source := String.toList_ofList
  simp [answerLoad, Request.toLoad, Request.entries?, Entries.get?, Value.ofText, hsource, h]

theorem answer_toRun {limit : Int} {result : RunResult}
    (h : (s.run ⟨some limit, none, some 0⟩).answer = .ok result) :
    s.answer (.toRun limit) = ((s.run ⟨some limit, none, some 0⟩).simulator,
      (s.run ⟨some limit, none, some 0⟩).simulator.stateResponse
        [("steps", .int result.steps), ("outcome", .ofOption (·.toValue) result.last?)]) := by
  have hpost : (Request.toRun limit).IsPost := Request.isPost_of_method rfl
  have hpath : Route.ofPath? "/run" = some .run := by decide +kernel
  rw [answer_of_isPost hpost hpath rfl, answerRoute]
  simp [answerRun, Request.toRun, Request.entries?, Entries.get?, limitOf, Value.int?, h]

theorem answer_toTell (s : Simulator) : s.answer .toTell = (s, s.stateResponse []) := by
  have hpath : Route.ofPath? "/state" = some .state := by decide +kernel
  have hmethod : String.ofList ("GET".toList.map Char.toUpper) = Route.method .state := by
    decide +kernel
  simp only [answer, Request.toTell, hpath, hmethod, if_true, answerRoute]

/-- Memory words that are told as a map are held by its entries, if no address occurs twice. -/
theorem hold_of_pairwise {window : List (Int × Int)} (h : window.Pairwise fun x y => x.1 < y.1) :
    Entries.Hold (window.map fun word => (String.ofList (Text.ofInt word.1), .int word.2))
      window := by
  have hdistinct : Entries.Distinct
      (window.map fun word => (String.ofList (Text.ofInt word.1), .int word.2)) := by
    rw [Entries.Distinct, Entries.names, List.map_map, List.Nodup, List.pairwise_map]
    refine h.imp fun {x y} hlt hname => hlt.ne ?_
    exact Text.ofInt_injective (String.ofList_injective hname)
  refine ⟨hdistinct, fun name v => ?_⟩
  rw [Entries.get?_eq_some_iff hdistinct, List.mem_map]
  exact exists_congr fun word => and_congr_right fun _ => Prod.mk_inj

/-- The names of the entries that tell the state. -/
def stateNames : List String :=
  ["pc", "state", "halted", "registers", "memory", "instructions", "labels"]

/-- **A response that tells the state** tells the findings of a run that ended there, and whatever
else it has. -/
theorem exists_toldBy (h : s.settings.Shows words) (result : RunResult) (more : Entries)
    (hmore : (more.names ++ stateNames).Nodup) :
    ∃ entries, s.stateResponse more = .ok entries ∧
      (Findings.of s.machine result words).ToldBy entries ∧
      ∀ entry ∈ more, entries.get? entry.1 = some entry.2 := by
  obtain ⟨told, htold, hnames, hpc, hregisters, hmemory⟩ : ∃ told, s.stateEntries = .ok told ∧
      told.names = stateNames ∧ ("pc", .int s.machine.pc) ∈ told ∧
      ("registers", .list (s.machine.registers.toList.map .int)) ∈ told ∧
      ("memory", wordsValue (s.memoryWords 0 (some (words * 4)))) ∈ told := by
    rw [stateEntries, memoryWindow_of_shows h]
    exact ⟨_, rfl, rfl, by simp, by simp [registers], by simp⟩
  have hdistinct : Entries.Distinct (more ++ told) := by
    rwa [Entries.Distinct, Entries.names, List.map_append, ← Entries.names, ← Entries.names, hnames]
  have hget : ∀ {name v}, (name, v) ∈ more ++ told → Entries.get? (more ++ told) name = some v :=
    (Entries.get?_eq_some_iff hdistinct).mpr
  refine ⟨more ++ told, by rw [stateResponse, htold], ⟨hdistinct, ?_, ?_, ?_⟩, ?_⟩
  · exact hget (List.mem_append_right _ hpc)
  · exact hget (List.mem_append_right _ hregisters)
  · exact ⟨_, hget (List.mem_append_right _ hmemory),
      hold_of_pairwise (s.machine.memory.pairwise_words 0 _)⟩
  · exact fun entry hentry => hget (List.mem_append_left _ hentry)

/-- **A load, a run and a look at the state over the web**: after a load that is accepted, the run
tells its findings, and so does the state. -/
theorem answers_load_run_state (hshows : s.settings.Shows words) {source : Text} {count : Nat}
    (hload : (s.load source).answer = .ok (.loaded count)) (limit : Int) :
    let turn := (s.load source).simulator.run ⟨some limit, none, some 0⟩
    ∃ result loaded ran told, turn.answer = .ok result ∧
      (s.answers [.toLoad source, .toRun limit, .toTell]).2 = [.ok loaded, .ok ran, .ok told] ∧
      loaded.get? "instructionCount" = some (.int count) ∧
      ran.get? "steps" = some (.int result.steps) ∧
      ran.get? "outcome" = some (.ofOption (·.toValue) result.last?) ∧
      (Findings.of turn.simulator.machine result words).ToldBy ran ∧
      (Findings.of turn.simulator.machine result words).ToldBy told := by
  intro turn
  have hpause : (s.load source).simulator.runPause ⟨some limit, none, some 0⟩ = .ok 0 := rfl
  obtain ⟨result, hresult⟩ := exists_answer_run limit hpause Delay.refusal?_zero
  have hloaded : (s.load source).simulator.settings.Shows words :=
    shows_perform hshows (.load source)
  have hshown : turn.simulator.settings.Shows words := shows_run hloaded ⟨some limit, none, some 0⟩
  have hcountNames : (["instructionCount"] ++ stateNames).Nodup := by decide
  have hrunNames : (["steps", "outcome"] ++ stateNames).Nodup := by decide
  obtain ⟨loaded, hfirst, -, hcount⟩ :=
    exists_toldBy hloaded result [("instructionCount", .int count)] hcountNames
  obtain ⟨ran, hsecond, hran, hmore⟩ := exists_toldBy hshown result
    [("steps", .int result.steps), ("outcome", .ofOption (·.toValue) result.last?)] hrunNames
  obtain ⟨told, hthird, htold, -⟩ := exists_toldBy hshown result [] (by decide)
  obtain ⟨hsteps, hmore⟩ := List.forall_mem_cons.mp hmore
  refine ⟨result, loaded, ran, told, hresult, ?_, hcount _ List.mem_cons_self, hsteps,
    hmore _ List.mem_cons_self, hran, htold⟩
  simp only [answers, answer_toLoad hload, answer_toRun hresult, answer_toTell]
  rw [hfirst, hsecond, hthird]

end Simulator

/-! ### Agreement -/

/-- The window of a memory is drawn as it is: its addresses are in order already. -/
theorem drawnIn_of (m : Machine) (result : RunResult) (words : Int) :
    (Findings.of m result words).DrawnIn (.of (Findings.of m result words).window none) := by
  have hsorted : (Findings.of m result words).window.mergeSort (fun a b => a.1 ≤ b.1) =
      (Findings.of m result words).window := by
    refine List.mergeSort_of_pairwise ((m.memory.pairwise_words 0 _).imp fun hlt => ?_)
    simpa using Int.le_of_lt hlt
  constructor
  · rw [MemoryFigure.of, hsorted]
    simp
  · rw [MemoryFigure.of, hsorted]

/-- The window of the findings is that of the memory up to the number of words shown. -/
theorem isWindow_of {m : Machine} {size : Int} (hsize : m.memory.size = size) (result : RunResult)
    (words : Int) :
    m.memory.IsWindow 0 (min (4 * words) size) (Findings.of m result words).window := by
  have h := m.memory.isWindow_words 0 (some (words * 4))
  rw [hsize, Option.getD_some, Int.max_self] at h
  rw [Int.mul_comm]
  exact h

/-- The lines of a session report the findings of its run. -/
theorem reportedBy_of {session : Session} {count : Nat} {trace : List Text} {m : Machine}
    {result : RunResult} {words : Int}
    (h : session.out = printedLines count trace m result (m.memory.words 0 (some (words * 4)))) :
    (Findings.of m result words).ReportedBy session := by
  rw [printedLines_eq, ← List.append_assoc] at h
  exact ⟨_, h⟩

end Monocycle
