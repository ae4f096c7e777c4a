import Monocycle.Proofs.Assembly.Faults
import Monocycle.Proofs.Assembly.Lines
import Monocycle.Proofs.Assembly.Relocation

/-!
# Comments, blank lines and indentation

What a source says is in its lines without their comments and the blanks around them, and not in the
lines of which nothing is left. Taking all this away leaves a source with the same program, or with
the same error, except that its lines have other numbers.

The stripped source falls into the lines it was put together from: a line has no line end in it, and
to strip a line twice is to strip it once. So its source lines are those of the source under the
numbers from 1 on, and neither pass depends on numbers.

## Main definitions

* `strippedLines`, `stripped`: what is left of a source.
* `lineNumber`: where a line of the stripped source was in the source.

## Main results

* `lines_stripped`: the lines of a stripped source.
* `sourceLines_eq_map_renumber`: the source lines are those of the stripped source under their
  numbers.
* `assemble_stripped`: **comments, blank lines and indentation carry no meaning.**
-/

namespace Monocycle

open Text

/-- What is left of the lines of a source: those that are not blank but for a comment, without
comments and surrounding blanks. -/
def strippedLines (source : Text) : List Text :=
  ((lines source).map stripLine).filter (!·.isEmpty)

/-- **A source without comments, blank lines and indentation.** -/
def stripped (source : Text) : Text :=
  ['\n'].intercalate (strippedLines source)

/-- The number in a source of the line that has the number `k` in the stripped source. -/
def lineNumber (source : Text) (k : Nat) : Nat :=
  ((sourceLines source)[k - 1]?.map (·.number)).getD k

/-- A program from lines under other numbers. -/
def Program.renumber (f : Nat → Nat) (p : Program) : Program :=
  { p with instructions := p.instructions.map (·.renumber f) }

/-! ### Lines -/

/-- To strip a line twice is to strip it once. -/
theorem stripLine_stripLine (raw : Text) : stripLine (stripLine raw) = stripLine raw := by
  refine stripLine_eq_self (fun c hc => ?_) (fun c hc => head?_trim hc) fun c hc => getLast?_trim hc
  have hbefore : c ∈ raw.takeWhile (· != '#') := (trim_sublist _ _).mem hc
  exact bne_iff_ne.mp (List.mem_takeWhile_imp (p := (· != '#')) hbefore)

/-- A line of what is left of a source is not empty, has no line end and nothing to be stripped. -/
theorem of_mem_strippedLines {source line : Text} (h : line ∈ strippedLines source) :
    line ≠ [] ∧ (∀ c ∈ line, isLineEnd c = false) ∧ stripLine line = line := by
  obtain ⟨hmem, hsome⟩ := List.mem_filter.mp h
  obtain ⟨raw, hraw, rfl⟩ := List.mem_map.mp hmem
  refine ⟨by simpa using hsome, fun c hc => ?_, stripLine_stripLine raw⟩
  have hline : c ∈ raw := (List.takeWhile_sublist _).mem ((trim_sublist _ _).mem hc)
  exact not_isLineEnd_of_mem_lines hraw c hline

/-- **The lines of a stripped source** are what is left of the lines of the source. -/
theorem lines_stripped (source : Text) : lines (stripped source) = strippedLines source := by
  by_cases hnone : strippedLines source = []
  · rw [stripped, hnone]
    rfl
  · refine (lines_intercalate (fun line hline => ?_) hnone).1
    obtain ⟨hsome, hend, -⟩ := of_mem_strippedLines hline
    exact ⟨hsome, hend⟩

/-- What is left of the lines is the text of the source lines. -/
theorem map_text_sourceLines (source : Text) :
    (sourceLines source).map (·.text) = strippedLines source := by
  have hlines : ∀ (raws : List Text) (number : Nat),
      (numberedLines number raws).map (·.text) = (raws.map stripLine).filter (!·.isEmpty) := by
    intro raws
    induction raws with
    | nil => exact fun _ => rfl
    | cons raw rest ih =>
        intro number
        rw [numberedLines_cons, List.map_cons, List.filter_cons]
        split
        · next hempty => simpa [hempty] using ih (number + 1)
        · next hsome => simpa [hsome] using ih (number + 1)
  exact hlines (lines source) 1

/-- Lines with nothing to be stripped are source lines as they are. -/
theorem numberedLines_of_stripped {ts : List Text}
    (h : ∀ t ∈ ts, t ≠ [] ∧ stripLine t = t) (number : Nat) :
    numberedLines number ts = (ts.zipIdx number).map fun entry => ⟨entry.2, entry.1⟩ := by
  induction ts generalizing number with
  | nil => rfl
  | cons t rest ih =>
      obtain ⟨hsome, hstrip⟩ := h t List.mem_cons_self
      rw [numberedLines_cons, hstrip, if_neg (by simpa using hsome),
        ih fun t' ht' => h t' (List.mem_cons_of_mem _ ht')]
      rfl

/-- **The source lines** are those of the stripped source under the numbers they have in the
source. -/
theorem sourceLines_eq_map_renumber (source : Text) :
    sourceLines source =
      (sourceLines (stripped source)).map (·.renumber (lineNumber source)) := by
  have hstripped : sourceLines (stripped source) =
      ((strippedLines source).zipIdx 1).map fun entry => ⟨entry.2, entry.1⟩ := by
    rw [sourceLines_eq_numberedLines, lines_stripped]
    refine numberedLines_of_stripped (fun t ht => ?_) 1
    obtain ⟨hsome, -, hstrip⟩ := of_mem_strippedLines ht
    exact ⟨hsome, hstrip⟩
  rw [hstripped]
  refine List.ext_getElem? fun k => ?_
  rw [List.getElem?_map, List.getElem?_map, List.getElem?_zipIdx, ← map_text_sourceLines,
    List.getElem?_map]
  cases hline : (sourceLines source)[k]? with
  | none => rfl
  | some line =>
      have hnumber : lineNumber source (1 + k) = line.number := by
        rw [lineNumber, Nat.add_sub_cancel_left, hline]
        rfl
      simp only [Option.map_some, SourceLine.renumber, hnumber]

/-! ### Both passes -/

/-- Both passes over the stripped source make what they make of the source, from lines under other
numbers. -/
theorem attempt_eq_renumber (source : Text) :
    attempt source =
      ⟨(attempt (stripped source)).labels,
        (attempt (stripped source)).instructions.map (·.renumber (lineNumber source)),
        (attempt (stripped source)).error?.map (·.renumber (lineNumber source))⟩ := by
  have hlabels : labelTable (sourceLines source) = labelTable (sourceLines (stripped source)) := by
    rw [sourceLines_eq_map_renumber source, labelTable_renumber]
  have hpass : decodeLines (labelTable (sourceLines source)) 0 (sourceLines source) = _ :=
    (congrArg (decodeLines _ 0) (sourceLines_eq_map_renumber source)).trans
      (decodeLines_renumber fun _ _ _ _ => rfl)
  rw [attempt, hpass, hlabels]
  rfl

/-- **Comments, blank lines and indentation carry no meaning.** A source has the program of its
stripped source, or its error, except that the lines have the numbers they have in the source. The
line of an error is a line of the stripped source, and every line of that has its place in the
source. -/
theorem assemble_stripped (source : Text) :
    (∀ p, assemble (stripped source) = .ok p →
      assemble source = .ok (p.renumber (lineNumber source))) ∧
    (∀ e, assemble (stripped source) = .error e →
      assemble source = .error (e.renumber (lineNumber source))) ∧
    (∀ e, assemble (stripped source) = .error (.parse e) →
      ∃ k t mnemonic?, (lines (stripped source))[k]? = some t ∧
        e.site? = some ⟨k + 1, t, mnemonic?⟩) ∧
    ∀ k t, (lines (stripped source))[k]? = some t →
      ∃ before raw after, lines source = before ++ raw :: after ∧ stripLine raw = t ∧
        lineNumber source (k + 1) = before.length + 1 ∧
        before.countP (fun raw => !(stripLine raw).isEmpty) = k := by
  refine ⟨fun p hp => ?_, fun e he => ?_, fun e he => ?_, fun k t ht => ?_⟩
  · obtain ⟨hnone, rfl⟩ := assemble_eq_ok_iff.mp hp
    rw [assemble_eq_ok_iff, attempt_eq_renumber source, hnone]
    exact ⟨rfl, rfl⟩
  · rw [assemble_eq_error_iff_attempt] at he ⊢
    rw [attempt_eq_renumber source, he]
    rfl
  · obtain ⟨line, hfails⟩ := assemble_eq_error_iff.mp he
    obtain ⟨k, raw, mnemonic?, hraw, hsite⟩ := hfails.exists_site
    have hmem : raw ∈ strippedLines source := lines_stripped source ▸ List.mem_of_getElem? hraw
    rw [(of_mem_strippedLines hmem).2.2] at hsite
    exact ⟨k, raw, mnemonic?, hraw, hsite⟩
  · rw [lines_stripped, ← map_text_sourceLines, List.getElem?_map, Option.map_eq_some_iff] at ht
    obtain ⟨line, hline, rfl⟩ := ht
    obtain ⟨before, raw, after, hlines, htext, hnumber, hcount⟩ :=
      exists_split_of_getElem?_numberedLines hline
    refine ⟨before, raw, after, hlines, htext, ?_, hcount⟩
    rw [lineNumber, Nat.add_sub_cancel, hline]
    exact hnumber.trans (Nat.add_comm _ _)

/-- Three lines are left of these, from the third to the fifth. -/
example :
    let source := "# start\n\n  end: # here\n ,#\n\taddi x1, x0, 1 # one".toList
    stripped source = "end:\n,\naddi x1, x0, 1".toList ∧ lineNumber source 3 = 5 := by
  decide

end Monocycle
