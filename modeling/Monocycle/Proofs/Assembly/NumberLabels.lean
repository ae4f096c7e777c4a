import Monocycle.Proofs.Assembly.Literals

/-!
# Numbers and labels

An immediate is looked up among the labels before it is read as a literal, so that a number keeps
its value only if no label is called by it. A label in front of an instruction has a label name,
and no such name spells a number. But a line that is a label as a whole takes any text for a name,
and the name of such a line may be `5`. Then that spelling of five stands for the distance to the
label, in all lines of the source; every other spelling of five keeps its value.

## Main definitions

* `TakesImmediate`: the third operand of an arithmetic instruction with an immediate, or a branch.
* `IsLabelLine`: a line that is a label as a whole.

## Main results

* `isLabelName_eq_false_of_spells`: no label name spells a number.
* `lineLabel?_eq_some_iff_isLabelLine`: a number is a label by the lines that are one as a whole.
* `numbers_mean_values`: **a number means its value** unless such a line is called by it.
-/

namespace Monocycle

open Text

/-! ### Operands that are immediates -/

/-- The tokens of an instruction **take an immediate**: a third operand is there, and the mnemonic,
one of arithmetic with an immediate or of a branch, wants it to be an immediate. -/
def TakesImmediate (statement : List Text) (token : Text) : Prop :=
  ∃ word operands shape, statement = word :: operands ∧
    Shape.ofMnemonic? (lower word) = some shape ∧
    shape.operandKinds[2]? = some .immediate ∧ operands[2]? = some token

/-- The third operand of a line that takes an immediate **is read as one**. -/
theorem readImmediate_of_decode {labels : LabelTable} {address : Int} {line : SourceLine}
    {i : Instruction} (h : decode labels address line = .ok i) {token : Text}
    (htakes : TakesImmediate (tokens line.body) token) :
    readImmediate labels address token = .ok i.imm := by
  obtain ⟨word, operands, shape, d, htokens, hshape, hd, rfl⟩ := decode_eq_ok_iff.mp h
  obtain ⟨word', operands', shape', htokens', hshape', hkind, htoken⟩ := htakes
  cases htokens.symm.trans htokens'
  cases hshape.symm.trans hshape'
  have himm := immediateOf_of_decodeOperands hd
  have hread : ∃ token', operands[2]? = some token' ∧
      readImmediate labels address token' = .ok d.imm := by
    cases shape with
    | immediate code => exact himm
    | branch code => exact himm
    | register code => cases hkind
    | load => cases hkind
    | store => cases hkind
  obtain ⟨token', htoken', hvalue⟩ := hread
  cases htoken.symm.trans htoken'
  exact hvalue

/-- The immediate that is taken is one of the tokens. -/
theorem TakesImmediate.mem {statement : List Text} {token : Text}
    (h : TakesImmediate statement token) : token ∈ statement := by
  obtain ⟨word, operands, shape, rfl, -, -, htoken⟩ := h
  exact List.mem_cons_of_mem _ (List.mem_of_getElem? htoken)

/-! ### Labels that are numbers -/

/-- A line of text **is a label as a whole**: it ends in a colon, and the rest is its name. -/
def IsLabelLine (name raw : Text) : Prop :=
  (stripLine raw).getLast? = some ':' ∧ strip (stripLine raw).dropLast = name

section

variable {t raw digits : Text} {base : Nat} {v : Int}

/-- A spelling of an integer begins with a sign or a digit. -/
theorem Spells.exists_eq_cons (h : Spells t base digits v) :
    ∃ c rest, t = c :: rest ∧
      (c.toLower = '+' ∨ c.toLower = '-' ∨ c.toLower.isDigit = true) := by
  obtain ⟨sign, hform, -⟩ := spells_iff.mp h
  obtain ⟨s, mark, hs, hmark, hnumeral, ht⟩ := literalForm_lower_iff.mp hform
  obtain ⟨d, more, hmore, hd⟩ := exists_eq_cons_of_mem_baseMarks hmark hnumeral
  rw [hmore] at ht
  simp only [literalSigns, List.mem_cons, Prod.mk.injEq, List.not_mem_nil, or_false] at hs
  rcases hs with ⟨rfl, -⟩ | ⟨rfl, -⟩ | ⟨rfl, -⟩
  · obtain ⟨c, rest, rfl, hc, -⟩ := List.map_eq_cons_iff.mp ht
    exact ⟨c, rest, rfl, .inr (.inr (hc ▸ hd))⟩
  · obtain ⟨c, rest, rfl, hc, -⟩ := List.map_eq_cons_iff.mp ht
    exact ⟨c, rest, rfl, .inl hc⟩
  · obtain ⟨c, rest, rfl, hc, -⟩ := List.map_eq_cons_iff.mp ht
    exact ⟨c, rest, rfl, .inr (.inl hc)⟩

/-- **No label name spells a number**: it begins with a letter, an underscore, a point or a dollar
sign. -/
theorem isLabelName_eq_false_of_spells (h : Spells t base digits v) : isLabelName t = false := by
  obtain ⟨c, rest, rfl, hc⟩ := h.exists_eq_cons
  have hascii : c.toNat < 128 := by
    refine toNat_lt_of_toLower ?_
    rcases hc with hc | hc | hc
    · rw [hc]
      decide
    · rw [hc]
      decide
    · exact (isPlain_of_isDigit hc).1
  have hstart : isLabelStart c = false :=
    forall_ascii (P := fun c => c.toLower = '+' ∨ c.toLower = '-' ∨ c.toLower.isDigit = true →
      isLabelStart c = false) (by decide) hascii hc
  rw [isLabelName, hstart, Bool.false_and]

/-- **A number is a label** of exactly the lines that are one as a whole, and called by it. -/
theorem lineLabel?_eq_some_iff_isLabelLine (h : Spells t base digits v) :
    lineLabel? raw = some t ↔ IsLabelLine t raw := by
  rw [lineLabel?, splitLabel, IsLabelLine]
  split
  · next hcolon => rw [Option.some.injEq, and_iff_right hcolon]
  · next hcolon =>
      refine iff_of_false ?_ fun hline => hcolon hline.1
      intro hlabel
      split at hlabel
      · cases hlabel
      · dsimp only at hlabel
        split at hlabel
        · next hname =>
            rw [Option.some.inj hlabel, isLabelName_eq_false_of_spells h] at hname
            cases hname
        · cases hlabel

end

/-! ### What numbers mean -/

section

variable {source : Text} {p : Program}

/-- The immediate of a record is what the third operand of its line is read as. -/
theorem readImmediate_of_mem (h : assemble source = .ok p) {k : Nat} {raw token : Text}
    (hraw : (lines source)[k]? = some raw) (htakes : TakesImmediate (tokens (lineBody raw)) token)
    {i : Instruction} (hi : i ∈ p.instructions) (hline : i.line = k + 1) :
    readImmediate p.labels i.address token = .ok i.imm := by
  obtain ⟨k', raw', hline', hraw', htext, -⟩ := exists_line_of_mem h hi
  obtain rfl : k' = k := by omega
  cases hraw.symm.trans hraw'
  obtain ⟨j, hj⟩ := List.getElem?_of_mem hi
  obtain ⟨-, hdecode⟩ := decode_of_getElem? h hj
  rw [address_of_getElem? h hj]
  refine readImmediate_of_decode hdecode ?_
  rwa [SourceLine.body, Instruction.sourceLine, htext]

/-- **A number means its value** unless a line is a label as a whole and called by it. Where a line
of a source that assembles takes an immediate, and the immediate spells an integer, the line has a
record. Its immediate is the word of that integer if no line of the source is a label by that
spelling, and otherwise the distance to the last such line. -/
theorem numbers_mean_values (h : assemble source = .ok p) {k : Nat} {raw token : Text}
    (hraw : (lines source)[k]? = some raw) (htakes : TakesImmediate (tokens (lineBody raw)) token)
    {base : Nat} {digits : Text} {v : Int} (hv : Spells token base digits v) :
    (∃ i ∈ p.instructions, i.line = k + 1) ∧
    ∀ i ∈ p.instructions, i.line = k + 1 →
      ((∀ other ∈ lines source, ¬IsLabelLine token other) → i.imm = Word.wrap v) ∧
      ∀ before other after, lines source = before ++ other :: after → IsLabelLine token other →
        (∀ later ∈ after, ¬IsLabelLine token later) →
        i.imm = 4 * (before.countP isInstructionLine : Int) - i.address := by
  have hstrip : strip token = token := strip_of_mem_tokens htakes.mem
  have hbody : lineBody raw ≠ [] := by
    intro hnil
    rw [hnil] at htakes
    cases htakes.mem
  refine ⟨(exists_record_iff h hraw).mpr hbody, fun i hi hline => ?_⟩
  have hread := readImmediate_of_mem h hraw htakes hi hline
  refine ⟨fun hnone => ?_, fun before other after hlines hother hlater => ?_⟩
  · have hlabel : p.labels.address? token = none := by
      rw [Option.eq_none_iff_forall_ne_some]
      intro target htarget
      obtain ⟨before, other, after, hlines, hother, -, -⟩ := (address?_eq_some_iff h).mp htarget
      refine hnone other (hlines ▸ by simp) ?_
      exact (lineLabel?_eq_some_iff_isLabelLine hv).mp hother
    rw [readImmediate_of_spells (hstrip.symm ▸ hlabel) (hstrip.symm ▸ hv)] at hread
    split at hread
    · cases hread
    · exact (Except.ok.inj hread).symm
  · have hlabel : p.labels.address? token = some (4 * (before.countP isInstructionLine : Int)) := by
      refine (address?_eq_some_iff h).mpr
        ⟨before, other, after, hlines, ?_, fun later hmem => ?_, rfl⟩
      · exact (lineLabel?_eq_some_iff_isLabelLine hv).mpr hother
      · exact fun hname => hlater later hmem ((lineLabel?_eq_some_iff_isLabelLine hv).mp hname)
    rw [readImmediate, hstrip, hlabel] at hread
    exact (Except.ok.inj hread).symm

end

/-- Five, in another spelling than that of the label. -/
theorem numbers_mean_values_hexadecimal :
    let source := "start: addi x1, x0, 0X05\n5:".toList
    ∃ p, assemble source = .ok p ∧ Spells "0X05".toList 16 "05".toList 5 ∧
      (∃ i ∈ p.instructions, i.line = 1) ∧ ∀ i ∈ p.instructions, i.line = 1 → i.imm = 5 := by
  intro source
  obtain ⟨p, hp⟩ : ∃ p, assemble source = .ok p := ⟨_, rfl⟩
  have hsign : ([], 1) ∈ literalSigns := by decide
  have hmark : (['0', 'x'], 16) ∈ baseMarks := by decide
  have hdigits : "05".toList = List.replicate 1 '0' ++ Nat.toDigits 16 5 := rfl
  have hspells : Spells "0X05".toList 16 "05".toList 5 :=
    spells_of_toDigits hsign hmark rfl hdigits rfl
  have htakes : TakesImmediate (tokens (lineBody "start: addi x1, x0, 0X05".toList))
      "0X05".toList :=
    ⟨"addi".toList, ["x1", "x0", "0X05"].map String.toList, .immediate .addi, by decide, by decide,
      by decide, by decide⟩
  obtain ⟨hrecord, hmeans⟩ := numbers_mean_values hp (k := 0) rfl htakes hspells
  have hnone : ∀ other ∈ lines source, ¬IsLabelLine "0X05".toList other := by
    unfold IsLabelLine
    decide
  exact ⟨p, hp, hspells, hrecord, fun i hi hline => (hmeans i hi hline).1 hnone⟩

/-- A label called `5`: with it the immediate `5` is the distance to the label, which is four, and
without it five. -/
theorem number_taken_by_label :
    let line := "addi x1, x0, 5".toList
    let source := line ++ "\n5:".toList
    TakesImmediate (tokens (lineBody line)) "5".toList ∧ Spells "5".toList 10 "5".toList 5 ∧
      (lines source)[0]? = some line ∧
      (∃ p, assemble source = .ok p ∧ p.instructions.map (fun i => (i.line, i.imm)) = [(1, 4)]) ∧
      (∃ p, assemble line = .ok p ∧ p.instructions.map (fun i => (i.line, i.imm)) = [(1, 5)]) ∧
      Word.wrap 5 = 5 := by
  intro line source
  refine ⟨?_, ?_, rfl, ⟨_, rfl, by decide⟩, ⟨_, rfl, by decide⟩, by decide⟩
  · exact ⟨"addi".toList, ["x1", "x0", "5"].map String.toList, .immediate .addi, by decide,
      by decide, by decide, by decide⟩
  · have hsign : ([], 1) ∈ literalSigns := by decide
    have hmark : ([], 10) ∈ baseMarks := by decide
    have hdigits : "5".toList = List.replicate 0 '0' ++ Nat.toDigits 10 5 := rfl
    exact spells_of_toDigits hsign hmark rfl hdigits rfl

end Monocycle
