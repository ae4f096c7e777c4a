import Monocycle.Proofs.Assembly.Append
import Monocycle.Proofs.Assembly.Faults

/-!
# The first error of a source

A source can be wrong in many places at once. The error it has is that of its first instruction line
that does not decode, and of that line the error is that of its leftmost fault (`LineError`).
The label table stands before the first line is decoded: it is made of all lines of the source,
those behind the error included, so that a label further down can make a line decode but no fault
further down can change what is reported.

What has been made when the error is met stays: the labels, and the records of the instruction lines
before.

## Main definitions

* `instructionLines`: the instruction lines among some lines of text, with their numbers.
* `RecordsOf`: the records of some instruction lines.

## Main results

* `assemble_stops_at_first_error`: **which error a source has**, and what is made before it.
-/

namespace Monocycle

/-- The **instruction lines** among some lines of text, numbered from 1, without their comments and
surrounding blanks. -/
def instructionLines (raws : List Text) : List SourceLine :=
  ((raws.zipIdx 1).filter fun entry => isInstructionLine entry.1).map
    fun entry => ⟨entry.2, stripLine entry.1⟩

/-- They are the instruction lines among the source lines. -/
theorem instructionLines_eq (raws : List Text) :
    instructionLines raws = (numberedLines 1 raws).filter (·.isInstruction) :=
  (filter_numberedLines 1 raws).symm

/-- **The records** of some instruction lines: one for each of them, in order, decoded for the
address that is four times its position. -/
def RecordsOf (labels : LabelTable) (ls : List SourceLine) (records : List Instruction) : Prop :=
  ∀ j : Nat, (ls[j]?).map (decode labels (4 * j)) = (records[j]?).map .ok

section

variable {labels : LabelTable}

/-- The second pass meets no error if no instruction line has one. -/
theorem error_decodeLines_eq_none {ls : List SourceLine} {address : Int}
    (h : ∀ line ∈ ls.filter (·.isInstruction), ∀ e, ¬LineError labels line e) :
    (decodeLines labels address ls).2 = none := by
  rw [Option.eq_none_iff_forall_ne_some]
  intro e he
  obtain ⟨before, line, after, rfl, hline, -, hdecode⟩ := error_decodeLines_eq_some_iff.mp he
  have hmem : line ∈ before ++ line :: after := List.mem_append_right _ List.mem_cons_self
  exact h line (List.mem_filter.mpr ⟨hmem, hline⟩) e (decode_eq_error_iff.mp hdecode)

/-- What the second pass makes if it meets no error are the records of the instruction lines. -/
theorem recordsOf_decodeLines {ls : List SourceLine} (h : (decodeLines labels 0 ls).2 = none) :
    RecordsOf labels (ls.filter (·.isInstruction)) (decodeLines labels 0 ls).1 := by
  intro j
  rw [← map_sourceLine_decodeLines h, List.getElem?_map, Option.map_map]
  cases hi : (decodeLines labels 0 ls).1[j]? with
  | none => rfl
  | some i =>
      obtain ⟨-, hdecode⟩ := decode_of_getElem?_decodeLines hi
      rw [Int.zero_add] at hdecode
      exact congrArg some hdecode

/-- **A source without errors** assembles into the records of its instruction lines. -/
theorem assemble_of_forall_not_lineError {source : Text}
    (h : ∀ line ∈ instructionLines (Text.lines source), ∀ e,
      ¬LineError (labelTable (sourceLines source)) line e) :
    ∃ p, assemble source = .ok p ∧ p.labels = labelTable (sourceLines source) ∧
      RecordsOf p.labels (instructionLines (Text.lines source)) p.instructions := by
  rw [instructionLines_eq, ← sourceLines_eq_numberedLines] at h ⊢
  have hnone : (attempt source).error? = none := error_decodeLines_eq_none h
  exact ⟨_, assemble_eq_ok_iff.mpr ⟨hnone, rfl⟩, rfl, recordsOf_decodeLines hnone⟩

/-- The source lines of a text around one of its instruction lines. -/
theorem numberedLines_append_cons {before after : List Text} {raw : Text}
    (hraw : isInstructionLine raw = true) :
    numberedLines 1 (before ++ raw :: after) =
      numberedLines 1 before ++
        ⟨before.length + 1, stripLine raw⟩ :: numberedLines (before.length + 2) after := by
  have hsome : ¬(stripLine raw).isEmpty = true := fun hempty =>
    Bool.noConfusion ((splitLabel_of_isEmpty hempty).2.symm.trans hraw)
  rw [numberedLines_append, numberedLines_cons, if_neg hsome, Nat.add_comm 1 before.length]

/-- **The second pass ends** at a line with an error. -/
theorem decodeLines_of_lineError {before rest : List SourceLine} {line : SourceLine}
    {address : Int} {e : AssemblyError} (hbefore : (decodeLines labels address before).2 = none)
    (hline : line.isInstruction = true) (he : LineError labels line e) :
    decodeLines labels address (before ++ line :: rest) =
      ((decodeLines labels address before).1, some e) := by
  rw [decodeLines_append hbefore]
  simp only [decodeLines, hline, if_true, decode_eq_error_iff.mpr he, List.append_nil]

/-- **An attempt ends** at the first line with an error: it has the labels of all lines, and the
records of the instruction lines before this one. -/
theorem attempt_of_lineError {source : Text} {before after : List Text} {raw : Text}
    {e : AssemblyError} (hlines : Text.lines source = before ++ raw :: after)
    (hraw : isInstructionLine raw = true)
    (hbefore : ∀ line ∈ instructionLines before, ∀ e,
      ¬LineError (labelTable (sourceLines source)) line e)
    (he : LineError (labelTable (sourceLines source)) ⟨before.length + 1, stripLine raw⟩ e) :
    (attempt source).error? = some e ∧
      RecordsOf (labelTable (sourceLines source)) (instructionLines before)
        (attempt source).instructions := by
  rw [instructionLines_eq] at hbefore ⊢
  have hsource : sourceLines source = numberedLines 1 before ++
      ⟨before.length + 1, stripLine raw⟩ :: numberedLines (before.length + 2) after := by
    rw [sourceLines_eq_numberedLines, hlines, numberedLines_append_cons hraw]
  have hnone : (decodeLines (labelTable (sourceLines source)) 0 (numberedLines 1 before)).2 =
      none := error_decodeLines_eq_none hbefore
  have hpass : decodeLines (labelTable (sourceLines source)) 0 (sourceLines source) =
      ((decodeLines (labelTable (sourceLines source)) 0 (numberedLines 1 before)).1, some e) :=
    (congrArg (decodeLines _ 0) hsource).trans (decodeLines_of_lineError hnone hraw he)
  have herror : (attempt source).error? =
      (decodeLines (labelTable (sourceLines source)) 0 (sourceLines source)).2 := rfl
  have hrecords : (attempt source).instructions =
      (decodeLines (labelTable (sourceLines source)) 0 (sourceLines source)).1 := rfl
  rw [herror, hrecords, hpass]
  exact ⟨rfl, recordsOf_decodeLines hnone⟩

/-- **Which error a source has, and what is made before it.** The label table is that of all lines:
a label has four times the number of instruction lines before its last definition, whether these
lines have errors or not. If no instruction line has an error against this table, the source
assembles into one record for each of them, in order. If one has, and none before it, its
error is that of the source, whatever stands behind it; the attempt then has the labels of all
lines and just the records of the instruction lines before. -/
theorem assemble_stops_at_first_error (source : Text) :
    let labels := labelTable (sourceLines source)
    (∀ name address, labels.address? name = some address ↔
      ∃ before raw after, Text.lines source = before ++ raw :: after ∧
        lineLabel? raw = some name ∧ (∀ other ∈ after, lineLabel? other ≠ some name) ∧
        address = 4 * (before.countP isInstructionLine : Int)) ∧
    ((∀ line ∈ instructionLines (Text.lines source), ∀ e, ¬LineError labels line e) →
      ∃ p, assemble source = .ok p ∧ p.labels = labels ∧
        RecordsOf labels (instructionLines (Text.lines source)) p.instructions) ∧
    ∀ before raw after e, Text.lines source = before ++ raw :: after →
      isInstructionLine raw = true →
      (∀ line ∈ instructionLines before, ∀ e', ¬LineError labels line e') →
      LineError labels ⟨before.length + 1, stripLine raw⟩ e →
      assemble source = .error e ∧ (attempt source).labels = labels ∧
        RecordsOf labels (instructionLines before) (attempt source).instructions := by
  refine ⟨fun name address => address?_labelTable_eq_some_iff, fun hnone => ?_,
    fun before raw after e hlines hraw hbefore he => ?_⟩
  · obtain ⟨p, hp, hlabels, hrecords⟩ := assemble_of_forall_not_lineError hnone
    exact ⟨p, hp, hlabels, hlabels ▸ hrecords⟩
  · obtain ⟨herror, hrecords⟩ := attempt_of_lineError hlines hraw hbefore he
    exact ⟨assemble_eq_error_iff_attempt.mpr herror, rfl, hrecords⟩

/-- Two registers that there are not, a missing parenthesis and an unknown operation. -/
example :
    assemble "nop: # none\nloop: lw x99, 4(x77\nfoo".toList =
      .error (.parse ⟨.unknownRegister "x99".toList,
        some ⟨2, "loop: lw x99, 4(x77".toList, some "lw".toList⟩⟩) := by rfl

end

end Monocycle
