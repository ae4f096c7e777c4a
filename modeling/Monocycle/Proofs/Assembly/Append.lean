import Monocycle.Proofs.Assembly.Layout

/-!
# Lines one after the other

What both passes make of lines that are followed by more lines. The lines behind are numbered on
from those before, and their addresses begin where the lines before end. The first pass enters the
definitions of the lines before and then those of the lines behind; the second goes on behind lines
that decode.

## Main results

* `numberedLines_append`, `labelDefinitions_append`, `decodeLines_append`: the two parts.
* `LabelTable.foldl_define_append`: definitions of other names leave the entries of a table alone.
-/

namespace Monocycle

/-- Lines behind others are numbered on. -/
theorem numberedLines_append (number : Nat) (raws more : List Text) :
    numberedLines number (raws ++ more) =
      numberedLines number raws ++ numberedLines (number + raws.length) more := by
  rw [numberedLines, List.zipIdx_append, List.filterMap_append]
  rfl

/-- The definitions of lines behind others. -/
theorem labelDefinitions_append (address : Int) (ls more : List SourceLine) :
    labelDefinitions address (ls ++ more) =
      labelDefinitions address ls ++
        labelDefinitions (address + 4 * (ls.countP (·.isInstruction) : Int)) more := by
  induction ls generalizing address with
  | nil => simp [labelDefinitions]
  | cons line rest ih =>
      rw [List.cons_append, labelDefinitions, labelDefinitions, ih, SourceLine.nextAddress,
        add_countP_takesBytes]
      cases line.label? with
      | none => rfl
      | some name => rfl

namespace LabelTable

/-- A name that is not among the first entries of a table is defined behind them. -/
theorem define_append {before : LabelTable} {name : Text} (h : name ∉ before.map Prod.fst)
    (table : LabelTable) (address : Int) :
    (before ++ table).define name address = before ++ table.define name address := by
  induction before with
  | nil => rfl
  | cons entry rest ih =>
      obtain ⟨known, value⟩ := entry
      rw [List.map_cons, List.mem_cons, not_or] at h
      rw [List.cons_append, define, if_neg (Ne.symm h.1), ih h.2, List.cons_append]

/-- Names that are not among the first entries of a table are defined behind them. -/
theorem foldl_define_append {before : LabelTable} {definitions : List (Text × Int)}
    (h : ∀ entry ∈ definitions, entry.1 ∉ before.map Prod.fst) (table : LabelTable) :
    definitions.foldl (fun table entry => table.define entry.1 entry.2) (before ++ table) =
      before ++ definitions.foldl (fun table entry => table.define entry.1 entry.2) table := by
  induction definitions generalizing table with
  | nil => rfl
  | cons entry rest ih =>
      rw [List.foldl_cons, List.foldl_cons, define_append (h entry List.mem_cons_self),
        ih fun entry' hentry' => h entry' (List.mem_cons_of_mem _ hentry')]

/-- A look-up in tables one behind the other. -/
theorem address?_append (table more : LabelTable) (name : Text) :
    (table ++ more).address? name = (table.address? name).or (more.address? name) :=
  List.lookup_append

end LabelTable

/-- **The second pass goes on** behind lines that decode. -/
theorem decodeLines_append {labels : LabelTable} {address : Int} {ls : List SourceLine}
    (h : (decodeLines labels address ls).2 = none) (more : List SourceLine) :
    decodeLines labels address (ls ++ more) =
      let later := decodeLines labels (address + 4 * (ls.countP (·.isInstruction) : Int)) more
      ((decodeLines labels address ls).1 ++ later.1, later.2) := by
  induction ls generalizing address with
  | nil => simp [decodeLines]
  | cons line rest ih =>
      rw [← add_countP_takesBytes]
      rw [decodeLines] at h
      rw [List.cons_append, decodeLines, decodeLines]
      by_cases hline : line.isInstruction = true
      · simp only [hline, if_true] at h ⊢
        cases hdecode : decode labels address line with
        | error e => simp [hdecode] at h
        | ok i =>
            simp only [hdecode] at h ⊢
            rw [ih h, List.cons_append]
      · simp only [hline] at h ⊢
        exact ih h

end Monocycle
