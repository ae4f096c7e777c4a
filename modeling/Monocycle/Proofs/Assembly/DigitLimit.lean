import Monocycle.Proofs.Assembly.Faults
import Monocycle.Proofs.Assembly.Lines

/-!
# Numerals over the digit limit

A decimal numeral with too many digits is refused wherever it stands: as the number of a register,
as an immediate, or as the offset of a memory address. The refusal is no fault of the line like the
others, for it carries no line, and what it says is only how many digits there were.

Such a refusal always has its reason in a token as it was written: the numeral is a part of the
token, or of what lower case makes of it, and lower case makes no digits. Conversely a row of digits
over the limit is refused: a source that asks for one as an immediate has no program, whatever its
value.

## Main definitions

* `OverLimit`: a token has more decimal digits than a numeral may have.

## Main results

* `Misread.overLimit`: a token that is misread for a numeral over the limit is over the limit.
* `FailsAt.exists_overLimit`: a refusal at a line comes from a token of the line.
* `assemble_immediateSource`: a row of digits over the limit is refused as an immediate.
-/

namespace Monocycle

open Text

/-- A token is **over the limit** with a numeral of `count` digits: that is more than a numeral may
have, and the token has as many decimal digits. -/
structure OverLimit (count : Nat) (token : Text) : Prop where
  limit_lt : digitLimit < count
  count_le : count ≤ token.countP Char.isDigit

/-! ### Misread tokens -/

section

variable {labels : LabelTable} {op token : Text} {count : Nat}

/-- A token is over the limit with a numeral that is a part of it. -/
theorem OverLimit.of_sublist {digits : Text} (hnumeral : isNumeral 10 digits = true)
    (hlimit : digitLimit < digits.length) (hpart : digits.Sublist token) :
    OverLimit digits.length token where
  limit_lt := hlimit
  count_le := by
    have hall : digits.all (isDigitOf 10) = true := (Bool.and_eq_true_iff.mp hnumeral).2
    rw [← countP_isDigit_of_all hall]
    exact hpart.countP_le

/-- A token is over the limit if it is so in lower case and without blanks. -/
theorem OverLimit.of_lower_strip (h : OverLimit count (lower (strip token))) :
    OverLimit count token where
  limit_lt := h.limit_lt
  count_le := by
    refine h.count_le.trans ?_
    rw [countP_isDigit_lower]
    exact (trim_sublist isBlank token).countP_le

/-- The number of a register is a part of its name. -/
theorem overLimit_of_misread_register
    (h : Misread labels op .register token (.tooManyDigits count)) : OverLimit count token := by
  cases h with
  | @registerNumber _ digits hdigits hlimit =>
      obtain ⟨hnumeral, hname⟩ := hdigits
      have hpart : digits.Sublist (lower (strip token)) := by
        rcases hname with hname | hname
        · rw [hname]
        · rw [hname]
          exact List.sublist_cons_self _ _
      exact (OverLimit.of_sublist hnumeral hlimit hpart).of_lower_strip

/-- **A token that is misread for a numeral over the limit** is over the limit. -/
theorem Misread.overLimit {kind : OperandKind}
    (h : Misread labels op kind token (.tooManyDigits count)) : OverLimit count token := by
  cases h with
  | registerNumber hdigits hlimit =>
      have hmisread : Misread labels op .register token _ := .registerNumber hdigits hlimit
      exact overLimit_of_misread_register hmisread
  | decimalLiteral _ hform hlimit =>
      obtain ⟨s, mark, -, -, hnumeral, ht⟩ := hform
      refine (OverLimit.of_sublist hnumeral hlimit ?_).of_lower_strip
      rw [ht]
      exact (List.sublist_append_right _ _).trans (List.sublist_append_right _ _)
  | offset hform hlimit =>
      obtain ⟨s, -, hnumeral, -, -, rfl⟩ := hform
      refine OverLimit.of_sublist hnumeral hlimit ?_
      exact (List.sublist_append_left _ _).trans (List.sublist_append_right _ _)
  | base hform _ hbase =>
      obtain ⟨hlimit, hcount⟩ := overLimit_of_misread_register hbase
      obtain ⟨s, -, -, -, -, rfl⟩ := hform
      refine ⟨hlimit, hcount.trans (List.Sublist.countP_le ?_)⟩
      exact (List.sublist_append_left _ _).trans ((List.sublist_cons_self _ _).trans
        ((List.sublist_append_right _ _).trans (List.sublist_append_right _ _)))

/-! ### Lines -/

/-- A first fault that is a numeral over the limit comes from one of the operands. -/
theorem FirstFault.exists_overLimit {operands : List Text} {kinds : List OperandKind} {k : Nat}
    (h : FirstFault labels op operands (.tooManyDigits count) k kinds) :
    ∃ token ∈ operands, OverLimit count token := by
  induction kinds generalizing k with
  | nil => cases h
  | cons kind kinds ih =>
      rcases h with hfault | ⟨-, hlater⟩
      · cases hfault with
        | misread htoken he => exact ⟨_, List.mem_of_getElem? htoken, he.overLimit⟩
      · exact ih hlater

/-- A line is refused for one of its tokens. -/
theorem exists_overLimit_of_decode {address : Int} {line : SourceLine}
    (h : decode labels address line = .error (.tooManyDigits count)) :
    ∃ token ∈ tokens line.body, OverLimit count token := by
  cases decode_eq_error_iff.mp h with
  | refused htokens _ _ hfault =>
      obtain ⟨token, htoken, hover⟩ := hfault.exists_overLimit
      exact ⟨token, htokens ▸ List.mem_cons_of_mem _ htoken, hover⟩

end

/-- **A source that is refused** at a line is so for a token of the line. -/
theorem FailsAt.exists_overLimit {source : Text} {line : SourceLine} {count : Nat}
    (h : FailsAt source line (.tooManyDigits count)) :
    ∃ token ∈ tokens line.body, OverLimit count token := by
  obtain ⟨before, after, -, -, -, hdecode⟩ := h
  exact exists_overLimit_of_decode hdecode

/-! ### A source that is refused -/

/-- A source of one line: an addition whose immediate is written as it is given. -/
def immediateSource (literal : Text) : Text :=
  wordLine "addi".toList ["x1".toList, "x0".toList, literal]

theorem immediateSource_eq (literal : Text) :
    immediateSource literal = "addi x1, x0, ".toList ++ literal := by
  rw [immediateSource, wordLine, List.intercalate_cons_cons, List.intercalate_cons_cons,
    List.intercalate_singleton]
  rfl

section

variable {digits : Text}

/-- A row of digits over the limit is refused as an immediate. -/
theorem readImmediate_over_limit (hdigits : ∀ c ∈ digits, c.isDigit = true)
    (hlimit : digitLimit < digits.length) (address : Int) :
    readImmediate [] address digits = .error (.tooManyDigits digits.length) := by
  have hne : digits ≠ [] := List.ne_nil_of_length_pos (Nat.zero_lt_of_lt hlimit)
  have hstrip : strip digits = digits :=
    strip_of_isPlain fun c hc => isPlain_of_isDigit (hdigits c hc)
  have hlower : lower digits = digits := by
    rw [lower_of_ascii fun c hc => (isPlain_of_isDigit (hdigits c hc)).1]
    exact (List.map_congr_left fun c hc => toLower_of_isDigit (hdigits c hc)).trans
      (List.map_id _)
  have hform : LiteralForm (lower (strip digits)) 1 10 digits := by
    rw [hstrip, hlower]
    exact ⟨[], [], by decide, by decide, isNumeral_of_isDigit hne hdigits, rfl⟩
  have hmisread : Misread [] [] .immediate digits (.tooManyDigits digits.length) :=
    .decimalLiteral rfl hform hlimit
  exact readImmediate_eq_error_iff.mpr hmisread

/-- **A row of digits over the limit is refused**, whatever its value. -/
theorem assemble_immediateSource (hdigits : ∀ c ∈ digits, c.isDigit = true)
    (hlimit : digitLimit < digits.length) :
    assemble (immediateSource digits) = .error (.tooManyDigits digits.length) := by
  have hplain : ∀ t ∈ ["addi".toList, "x1".toList, "x0".toList, digits], IsPlainWord t := by
    have hne : digits ≠ [] := List.ne_nil_of_length_pos (Nat.zero_lt_of_lt hlimit)
    simp only [List.forall_mem_cons, List.not_mem_nil, false_implies, implies_true, and_true]
    exact ⟨by decide, by decide, by decide, hne, fun c hc => isPlain_of_isDigit (hdigits c hc)⟩
  let line : SourceLine := ⟨1, immediateSource digits⟩
  have hsplit : splitLabel line.text = (none, immediateSource digits) := splitLabel_wordLine hplain
  have hlabel : line.label? = none := by rw [SourceLine.label?, hsplit]
  have hbody : line.body = immediateSource digits := by rw [SourceLine.body, hsplit]
  have hlines : sourceLines (immediateSource digits) = [line] :=
    sourceLines_wordLine hplain (by simp)
  have hlabels : labelTable [line] = [] := by
    simp [labelTable, labelDefinitions, hlabel]
  refine assemble_eq_error_iff.mpr ⟨line, [], [], hlines, ?_, decodesAll_nil, ?_⟩
  · rw [SourceLine.isInstruction, hbody]
    simpa [immediateSource] using wordLine_ne_nil
  · have hrd : registerAt "addi".toList ["x1".toList, "x0".toList, digits] 1 =
        .ok ⟨1, by decide⟩ := rfl
    have hrs1 : registerAt "addi".toList ["x1".toList, "x0".toList, digits] 2 = .ok .zero := rfl
    have hoperand : operandAt "addi".toList ["x1".toList, "x0".toList, digits] 3 = .ok digits :=
      rfl
    have hlower : lower "addi".toList = "addi".toList := rfl
    have hshape : Shape.ofMnemonic? "addi".toList = some (.immediate .addi) := rfl
    rw [hlines, hlabels, decode, hbody, immediateSource, tokens_wordLine hplain]
    simp only [hlower, hshape, decodeOperands, hrd, hrs1, hoperand, bind, Except.bind,
      readImmediate_over_limit hdigits hlimit, ReadError.locate]

end

end Monocycle
