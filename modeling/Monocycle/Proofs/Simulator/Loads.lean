import Monocycle.Proofs.Assembly.Failing
import Monocycle.Proofs.Simulator.History

/-!
# The program over every history

Instructions and labels are kept in two places, the instructions by the machine and the labels by
the simulator, and yet they belong together in every state that a history of operations reaches:
both are what the assembler made of the source that was loaded last. Only a load that is accepted
replaces them, and then it replaces both. A load that is not accepted leaves everything as it was,
wherever in the source the fault is found.

## Main definitions

* `ComesFrom`: a program is what the assembler makes of a source.
* `LastLoaded`: which source a history loaded last.

## Main results

* `program_perform_of_not_loads`: nothing but an accepted load changes the program.
* `LastLoaded.comesFrom`: the program is that of the source that was loaded last.
* `load_of_failsAt`: a source that fails at a line changes nothing.
* `program_of_reachable`: **program and labels belong together, and a load is atomic.**
-/

namespace Monocycle.Simulator

/-- A program **comes from** a source if it is what the assembler makes of it. The one that comes
from no source is empty. -/
def ComesFrom (p : Program) : Option Text → Prop
  | none => p = ⟨[], []⟩
  | some source => assemble source = .ok p

/-- The answer to loading a source that does not assemble. -/
def refusal : AssemblyError → Except SimulatorError LoadResult
  | .parse e => .ok (.rejected e)
  | .tooManyDigits count => .error (.tooManyDigits count)

/-- **The source loaded last**: a history leads to the simulator in which this source is the last
that was accepted, or in which none was. -/
inductive LastLoaded : Option Text → Simulator → Prop
  | fresh {settings : Settings} {memorySize? : Option Int} {s : Simulator} :
      create settings memorySize? = .ok s → LastLoaded none s
  | load {last? : Option Text} {s : Simulator} {source : Text} {count : Nat} :
      LastLoaded last? s → (s.load source).answer = .ok (.loaded count) →
      LastLoaded (some source) (s.load source).simulator
  | other {last? : Option Text} {s : Simulator} (op : Operation) :
      LastLoaded last? s → ¬s.Loads op → LastLoaded last? (s.perform op).simulator

/-- In every reachable simulator some source was loaded last, or none was. -/
theorem Reachable.exists_lastLoaded {s : Simulator} (h : Reachable s) :
    ∃ last?, LastLoaded last? s := by
  induction h with
  | fresh hcreate => exact ⟨none, .fresh hcreate⟩
  | @perform s op _ ih =>
      obtain ⟨last?, hlast⟩ := ih
      by_cases hloads : s.Loads op
      · obtain ⟨source, count, rfl, hanswer⟩ := hloads
        exact ⟨some source, hlast.load hanswer⟩
      · exact ⟨last?, hlast.other op hloads⟩

/-! ### What changes the program -/

/-- A step leaves the program alone, whatever the listeners do. -/
theorem program_stepWith (conduct : Conduct) (s : Simulator) :
    (s.stepWith conduct).simulator.program = s.program := by
  have h := heard_stepWith conduct s
  have hmachine : (s.stepWith conduct).simulator.machine.program = s.machine.program := by
    obtain hm | ⟨hm, -⟩ := h.machine <;> rw [hm, machine_stepped]
    · exact Machine.program_next _
    · exact Machine.program_next _
  rw [program, program, hmachine, h.labels]
  rfl

/-- **Nothing but an accepted load** changes the program. -/
theorem program_perform_of_not_loads {s : Simulator} {op : Operation} (h : ¬s.Loads op) :
    (s.perform op).simulator.program = s.program := by
  cases op with
  | load source =>
      obtain ⟨p, -, -, hanswer⟩ | ⟨e, -, hs, -⟩ := load_cases s source
      · exact absurd ⟨source, _, rfl, hanswer⟩ h
      · rw [perform, hs]
  | step conduct => exact program_stepWith conduct s
  | run conduct rounds options =>
      exact runWith_preserves (P := fun s' _ => s'.program = s.program)
        (fun s' _ round hs' => (program_stepWith (conduct round) s').trans hs')
        (fun _ _ hs' => hs') (fun _ _ _ hs' => hs') rounds options rfl rfl
  | reset => rfl
  | stop => rfl
  | subscribe l => rfl
  | unsubscribe l =>
      simp only [perform, unsubscribe]
      split <;> rfl

/-- An accepted load puts in the program of its source, instructions and labels together. -/
theorem assemble_of_loaded {s : Simulator} {source : Text} {count : Nat}
    (h : (s.load source).answer = .ok (.loaded count)) :
    assemble source = .ok (s.load source).simulator.program := by
  obtain ⟨p, hp, hs, -⟩ | ⟨e, -, -, hno⟩ := load_cases s source
  · rw [hp, hs]
    rfl
  · exact absurd h (hno count)

/-- **The program of a simulator** is that of the source that was loaded last. -/
theorem LastLoaded.comesFrom {last? : Option Text} {s : Simulator} (h : LastLoaded last? s) :
    ComesFrom s.program last? := by
  induction h with
  | fresh hcreate =>
      obtain ⟨size, rfl⟩ := exists_eq_of_create hcreate
      rfl
  | load _ hanswer _ => exact assemble_of_loaded hanswer
  | other op _ hloads ih =>
      rw [program_perform_of_not_loads hloads]
      exact ih

/-! ### Loads that are not accepted -/

/-- **A source that fails at a line** changes nothing. -/
theorem load_of_failsAt (s : Simulator) {source : Text} {line : SourceLine} {e : AssemblyError}
    (h : FailsAt source line e) :
    (s.load source).answer = refusal e ∧ (s.load source).simulator = s := by
  have herror : assemble source = .error e := assemble_eq_error_iff.mpr ⟨line, h⟩
  rw [load, herror]
  cases e with
  | parse e => exact ⟨rfl, rfl⟩
  | tooManyDigits count => exact ⟨rfl, rfl⟩

/-- A load is accepted, or its source fails at a line. -/
theorem loaded_or_failsAt (s : Simulator) (source : Text) :
    (∃ count, (s.load source).answer = .ok (.loaded count)) ∨
      ∃ line e, FailsAt source line e := by
  obtain ⟨p, -, -, hanswer⟩ | ⟨e, herror, -, -⟩ := load_cases s source
  · exact .inl ⟨_, hanswer⟩
  · obtain ⟨line, hline⟩ := assemble_eq_error_iff.mp herror
    exact .inr ⟨line, e, hline⟩

/-- **Program and labels belong together, and a load is atomic.** Every history that leads to a
simulator has a source that it loaded last, or none. If there is one, instructions and labels of
the simulator are together what the assembler makes of this source, and otherwise there are none. A
load that is not accepted changes nothing. That is the case exactly if the source has a line that
does not decode, at whatever place, and the answer is the error of the first such line. -/
theorem program_of_reachable {s : Simulator} (h : Reachable s) :
    (∃ last?, LastLoaded last? s) ∧
    (∀ last?, LastLoaded last? s → ComesFrom s.program last?) ∧
    ∀ source,
      ((∀ count, (s.load source).answer ≠ .ok (.loaded count)) →
        (s.load source).simulator = s) ∧
      ((∃ count, (s.load source).answer = .ok (.loaded count)) ∨
        ∃ line e, FailsAt source line e) ∧
      ∀ line e, FailsAt source line e →
        (s.load source).answer = refusal e ∧ (s.load source).simulator = s := by
  refine ⟨h.exists_lastLoaded, fun _ hlast => hlast.comesFrom, fun source => ⟨?_, ?_, ?_⟩⟩
  · intro hrefused
    obtain ⟨count, hanswer⟩ | ⟨line, e, hfails⟩ := loaded_or_failsAt s source
    · exact absurd hanswer (hrefused count)
    · exact (load_of_failsAt s hfails).2
  · exact loaded_or_failsAt s source
  · exact fun _ _ => load_of_failsAt s

/-- A program is loaded and goes one step, and then a source is refused whose second line holds a
word that is no operation. -/
theorem program_of_reachable_refused :
    let source := "a: addi x1, x0, 5\nbeq x0, x0, a".toList
    let other := "b: addi x2, x0, 7\nmove x1, x2".toList
    ∃ s, LastLoaded (some source) s ∧ s.machine.executed = 1 ∧
      ComesFrom s.program (some source) ∧ (s.load other).simulator = s ∧
      ∃ line e, FailsAt other line e ∧ (s.load other).answer = refusal e := by
  intro source other
  obtain ⟨s₀, hcreate⟩ : ∃ s₀, create .builtIn (some 16) = .ok s₀ := ⟨_, rfl⟩
  have hloaded : (s₀.load source).answer = .ok (.loaded 2) := by
    cases hcreate
    rfl
  have hstep : ¬(s₀.load source).simulator.Loads (.step Listener.conduct) := by
    rintro ⟨source', count, hop, -⟩
    cases hop
  let s := ((s₀.load source).simulator.perform (.step Listener.conduct)).simulator
  have hlast : LastLoaded (some source) s := ((LastLoaded.fresh hcreate).load hloaded).other _ hstep
  have hreach : Reachable s := .perform _ (.perform (.load source) (.fresh hcreate))
  obtain ⟨-, hprogram, hload⟩ := program_of_reachable hreach
  obtain ⟨-, haccepted | ⟨line, e, hfails⟩, hrefused⟩ := hload other
  · obtain ⟨count, hcount⟩ := haccepted
    cases hcount
  · obtain ⟨hanswer, hsame⟩ := hrefused line e hfails
    refine ⟨s, hlast, ?_, hprogram _ hlast, hsame, line, e, hfails, hanswer⟩
    cases hcreate
    rfl

end Monocycle.Simulator
