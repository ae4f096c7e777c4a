import Monocycle.CommandLine.Session
import Monocycle.Proofs.Text.Numeral

/-!
# How a run ended, on paper

The report on a run has a line about its end only if it did not end by halting, and then the line
begins with `Stopped`. No other line that the command line prints does: each kind of line can be
told by its first character. So the printed lines tell exactly whether a run ended with an error, and
whether it ended in some other way without halting.

## Main results

* `mem_printedLines_iff`: no other line begins like the one about the end.
* `stopped_by_error_iff`, `stopped_after_iff`: what the line about the end tells.
-/

namespace Monocycle

open Simulator

/-! ### The first character of a line -/

/-- A line does not **begin as a stop** if its first character is not that of the lines which tell
that a run was stopped. -/
def NoStop (line : Text) : Prop :=
  line.head? ≠ some 'S'

instance (line : Text) : Decidable (NoStop line) :=
  inferInstanceAs (Decidable (¬_))

theorem noStop_loadedLine (count : Nat) : NoStop (loadedLine count) := by
  obtain ⟨c, rest, heq, hdigit⟩ := Text.exists_ofNat_eq_cons count
  rw [NoStop, loadedLine, heq]
  rintro h
  obtain rfl : c = 'S' := Option.some.inj h
  exact absurd hdigit (by decide)

theorem noStop_traceLine (event : StepEvent) : NoStop (traceLine event) := by
  rw [NoStop, traceLine]
  cases event.outcome with
  | executed index => simp
  | halted => simp
  | failed e => simp

theorem noStop_of_mem_registerTable {f : RegisterFile} {line : Text}
    (h : line ∈ registerTable f) : NoStop line := by
  obtain ⟨row, -, rfl⟩ := List.mem_map.mp h
  rw [NoStop, registerRow]
  simp [registerCell, List.finRange_succ, List.intercalate_cons_cons]

theorem noStop_of_mem_memoryLines {words : List (Int × Int)} {line : Text}
    (h : line ∈ memoryLines words) : NoStop line := by
  obtain ⟨word, -, rfl⟩ := List.mem_map.mp h
  simp [NoStop, memoryLine]

theorem noStop_of_mem_traceLines {α : Type} {t : Turn α} {line : Text} (h : line ∈ traceLines t) :
    NoStop line := by
  obtain ⟨delivery, -, rfl⟩ := List.mem_map.mp h
  exact noStop_traceLine delivery.2

/-! ### The line about the end -/

/-- **What is printed about a run** that was loaded: the lines of the trace and of the report. -/
def printedLines (count : Nat) (trace : List Text) (m : Machine) (result : RunResult)
    (window : List (Int × Int)) : List Text :=
  loadedLine count :: trace ++ reportHead m result ++ memoryLines window

/-- What stands on paper behind the line about the end. -/
def reportBody (m : Machine) (result : RunResult) (window : List (Int × Int)) : List Text :=
  ["Instructions executed: ".toList ++ Text.ofNat result.steps,
    "PC: ".toList ++ Text.ofInt m.pc, "".toList, "Registers:".toList] ++
    registerTable m.registers ++ ["".toList, "Memory:".toList] ++ memoryLines window

theorem printedLines_eq (count : Nat) (trace : List Text) (m : Machine) (result : RunResult)
    (window : List (Int × Int)) :
    printedLines count trace m result window =
      (loadedLine count :: trace ++ ["".toList, "=== Simulation Results ===".toList]) ++
        (endingLines result ++ reportBody m result window) := by
  simp [printedLines, reportHead, reportBody]

theorem noStop_of_mem_reportBody {m : Machine} {result : RunResult} {window : List (Int × Int)}
    {line : Text} (h : line ∈ reportBody m result window) : NoStop line := by
  simp only [reportBody, List.mem_append, List.mem_cons, List.not_mem_nil, or_false] at h
  obtain ((hhead | hregister) | hmemory) | hword := h
  · obtain rfl | rfl | rfl | rfl := hhead
    · simp [NoStop]
    · simp [NoStop]
    · decide
    · decide
  · exact noStop_of_mem_registerTable hregister
  · obtain rfl | rfl := hmemory
    · decide
    · decide
  · exact noStop_of_mem_memoryLines hword

/-- **A line that begins as a stop** is printed exactly if it is the line about the end. -/
theorem mem_printedLines_iff {count : Nat} {trace : List Text} {m : Machine} {result : RunResult}
    {window : List (Int × Int)} (htrace : ∀ line ∈ trace, NoStop line) {line : Text}
    (hline : ¬NoStop line) :
    line ∈ printedLines count trace m result window ↔ line ∈ endingLines result := by
  have hbefore : line ∉ loadedLine count :: trace ++
      ["".toList, "=== Simulation Results ===".toList] := by
    intro h
    simp only [List.mem_append, List.mem_cons, List.not_mem_nil, or_false] at h
    obtain (rfl | htraced) | rfl | rfl := h
    · exact hline (noStop_loadedLine count)
    · exact hline (htrace line htraced)
    · exact hline (by decide)
    · exact hline (by decide)
  have hafter : line ∉ reportBody m result window := fun h =>
    hline (noStop_of_mem_reportBody h)
  rw [printedLines_eq]
  constructor
  · intro h
    have hlater := (List.mem_append.mp h).resolve_left hbefore
    exact (List.mem_append.mp hlater).resolve_right hafter
  · exact fun h => List.mem_append_right _ (List.mem_append_left _ h)

section

variable {count : Nat} {trace : List Text} {m : Machine} {result : RunResult}
variable {window : List (Int × Int)}

/-- **A stop by an error is printed** exactly if the last step attempt of the run failed. -/
theorem stopped_by_error_iff (htrace : ∀ line ∈ trace, NoStop line) :
    (∃ line ∈ printedLines count trace m result window, "Stopped by error".toList <+: line) ↔
      ∃ e, result.last? = some (.failed e) := by
  have hstop : ∀ line, "Stopped by error".toList <+: line → ¬NoStop line := by
    rintro line ⟨rest, rfl⟩ h
    exact h rfl
  constructor
  · rintro ⟨line, hmem, hprefix⟩
    rw [mem_printedLines_iff htrace (hstop line hprefix), endingLines] at hmem
    split at hmem
    · next e hlast => exact ⟨e, hlast⟩
    · split at hmem
      · cases hmem
      · obtain rfl := List.mem_singleton.mp hmem
        exact absurd hprefix (by simp)
  · rintro ⟨e, hlast⟩
    refine ⟨"Stopped by error: ".toList ++ e.message.toList, ?_, ?_⟩
    · rw [mem_printedLines_iff htrace (by simp [NoStop]), endingLines, hlast]
      exact List.mem_singleton_self _
    · exact ⟨": ".toList ++ e.message.toList, by simp⟩

/-- **A stop without halting is printed**, with the number of steps, exactly if the run neither
ended by halting nor with an error. -/
theorem stopped_after_iff (htrace : ∀ line ∈ trace, NoStop line) :
    "Stopped after ".toList ++ Text.ofNat result.steps ++ " steps without halting".toList ∈
        printedLines count trace m result window ↔
      result.halted = false ∧ ∀ e, result.last? ≠ some (.failed e) := by
  rw [mem_printedLines_iff htrace (by simp [NoStop]), endingLines]
  split
  · next e hlast =>
      refine iff_of_false ?_ fun h => h.2 e hlast
      simp
  · next hnone =>
      have hno : ∀ e, result.last? ≠ some (.failed e) := fun e h => hnone e h
      cases hhalted : result.halted with
      | true => simp
      | false => simpa using hno

end

end Monocycle
