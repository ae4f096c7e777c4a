import Monocycle.Proofs.Assembly.FirstError
import Mathlib.Data.List.Forall2

/-!
# The lines that are accepted

Which sources assemble, said of the tokens of their lines. A statement is a mnemonic and operands of
the kinds it takes, as many as it takes (`StatementForm`). A line is accepted exactly if its tokens
begin with a statement; what stands behind the statement is not looked at.

So an instruction line of a source that assembles need not be a statement. A second instruction on
a line, or an operand too many, makes no error and leaves no trace in the record but its text.

## Main definitions

* `StatementForm`: a mnemonic and its operands.

## Main results

* `exists_decode_iff_statement`: a line decodes exactly if its tokens begin with a statement.
* `decode_append_surplus`: tokens behind a statement make no difference to the record.
* `assembles_iff_statements`: **which sources assemble, and what becomes of surplus tokens.**
-/

namespace Monocycle

open Text

/-- Tokens have the **form of a statement**: a mnemonic of the language in any letter case, and one
operand of each kind it takes. -/
inductive StatementForm (labels : LabelTable) : List Text → Prop
  | intro {name : String} {shape : Shape} {word : Text} {operands : List Text}
      (hmnemonic : (name, shape) ∈ mnemonics) (hname : name.toList = lower word)
      (hoperands : List.Forall₂ (IsOperand labels) shape.operandKinds operands) :
      StatementForm labels (word :: operands)

section

variable {labels : LabelTable} {op : Text} {operands : List Text}

/-! ### Operands without fault -/

/-- There is a result exactly if there is no error. -/
theorem exists_eq_ok_iff {ε α : Type} {x : Except ε α} :
    (∃ a, x = .ok a) ↔ ∀ e, x ≠ .error e := by
  cases x with
  | error e => simp
  | ok a => simp

/-- A register is named exactly if its token is not misread. -/
theorem isOperand_register_iff {token : Text} :
    IsOperand labels .register token ↔ ∀ e, ¬Misread labels op .register token e := by
  have hread : IsOperand labels .register token ↔ ∃ r, readRegister token = .ok r := by
    constructor
    · rintro ⟨hname⟩
      exact ⟨_, readRegister_eq_ok_iff.mpr hname⟩
    · rintro ⟨r, hr⟩
      exact .register (readRegister_eq_ok_iff.mp hr)
  rw [hread, exists_eq_ok_iff]
  exact forall_congr' fun e => not_congr readRegister_eq_error_iff

/-- A token is an immediate exactly if it is not misread. -/
theorem isOperand_immediate_iff {token : Text} :
    IsOperand labels .immediate token ↔ ∀ e, ¬Misread labels op .immediate token e := by
  constructor
  · intro h e he
    cases h with
    | label hlabel =>
        cases he with
        | decimalLiteral hnone => cases hlabel.symm.trans hnone
        | badImmediate hnone => cases hlabel.symm.trans hnone
    | literal hform hlimit =>
        cases he with
        | decimalLiteral _ hform' hover =>
            obtain ⟨-, rfl, rfl⟩ := hform.unique hform'
            exact Nat.not_le.mpr hover (hlimit rfl)
        | badImmediate _ hnone => exact hnone _ _ _ hform
  · intro h
    cases hlabel : labels.address? (strip token) with
    | some target => exact .label hlabel
    | none =>
        by_cases hform : ∃ sign base digits, LiteralForm (lower (strip token)) sign base digits
        · obtain ⟨sign, base, digits, hform⟩ := hform
          refine .literal hform fun hbase => Nat.not_lt.mp fun hover => ?_
          exact h _ (.decimalLiteral hlabel (hbase ▸ hform) hover)
        · simp only [not_exists] at hform
          exact absurd (.badImmediate hlabel hform) (h _)

/-- A token is a memory address exactly if it is not misread. -/
theorem isOperand_address_iff {token : Text} :
    IsOperand labels .address token ↔ ∀ e, ¬Misread labels op .address token e := by
  constructor
  · intro h e he
    cases h with
    | address hform hlimit hbase =>
        cases he with
        | malformedAddress hnone => exact hnone _ _ _ hform
        | offset hform' hover =>
            obtain ⟨-, rfl, -⟩ := hform.unique hform'
            exact Nat.not_le.mpr hover hlimit
        | base hform' _ hmisread =>
            obtain ⟨-, -, rfl⟩ := hform.unique hform'
            exact isOperand_register_iff.mp (.register hbase) e hmisread
  · intro h
    by_cases hform : ∃ sign digits base, AddressForm token sign digits base
    · obtain ⟨sign, digits, base, hform⟩ := hform
      have hlimit : digits.length ≤ digitLimit :=
        Nat.not_lt.mp fun hover => h _ (.offset hform hover)
      have hbase : IsOperand labels .register base :=
        isOperand_register_iff.mpr fun e he => h e (.base hform hlimit he)
      obtain ⟨hname⟩ := hbase
      exact .address hform hlimit hname
    · simp only [not_exists] at hform
      exact absurd (.malformedAddress hform) (h _)

/-- **A token is an operand** exactly if it is not misread as one. -/
theorem isOperand_iff {kind : OperandKind} {token : Text} :
    IsOperand labels kind token ↔ ∀ e, ¬Misread labels op kind token e := by
  cases kind with
  | register => exact isOperand_register_iff
  | immediate => exact isOperand_immediate_iff
  | address => exact isOperand_address_iff

/-- An operand is not at fault exactly if it is there, and is of the kind that is due. -/
theorem forall_not_operandFault_iff {k : Nat} {kind : OperandKind} :
    (∀ e, ¬OperandFault labels op operands k kind e) ↔
      ∃ token, operands[k]? = some token ∧ IsOperand labels kind token := by
  constructor
  · intro h
    cases htoken : operands[k]? with
    | none => exact absurd (.missing htoken) (h _)
    | some token => exact ⟨token, rfl, isOperand_iff.mpr fun e he => h e (.misread htoken he)⟩
  · rintro ⟨token, htoken, hoperand⟩ e he
    cases he with
    | missing hnone => cases htoken.symm.trans hnone
    | misread htoken' hmisread =>
        cases htoken.symm.trans htoken'
        exact isOperand_iff.mp hoperand _ hmisread

/-- **There is no fault among operands** exactly if those that are due are there one after the
other, whatever follows them. -/
theorem forall_not_firstFault_iff {kinds : List OperandKind} {k : Nat} :
    (∀ e, ¬FirstFault labels op operands e k kinds) ↔
      ∃ found surplus, operands.drop k = found ++ surplus ∧
        List.Forall₂ (IsOperand labels) kinds found := by
  induction kinds generalizing k with
  | nil => exact iff_of_true (fun e he => he) ⟨[], operands.drop k, rfl, .nil⟩
  | cons kind kinds ih =>
      have hsplit : (∀ e, ¬FirstFault labels op operands e k (kind :: kinds)) ↔
          (∀ e, ¬OperandFault labels op operands k kind e) ∧
            ∀ e, ¬FirstFault labels op operands e (k + 1) kinds := by
        constructor
        · intro h
          have hno : ∀ e, ¬OperandFault labels op operands k kind e := fun e he => h e (.inl he)
          exact ⟨hno, fun e he => h e (.inr ⟨hno, he⟩)⟩
        · rintro ⟨hno, hlater⟩ e (he | ⟨-, he⟩)
          · exact hno e he
          · exact hlater e he
      rw [hsplit, forall_not_operandFault_iff, ih]
      constructor
      · rintro ⟨⟨token, htoken, hoperand⟩, found, surplus, hdrop, hfound⟩
        obtain ⟨hlt, hget⟩ := List.getElem?_eq_some_iff.mp htoken
        refine ⟨token :: found, surplus, ?_, .cons hoperand hfound⟩
        rw [List.drop_eq_getElem_cons hlt, hget, hdrop, List.cons_append]
      · rintro ⟨found, surplus, hdrop, hfound⟩
        cases hfound with
        | @cons _ token _ found hoperand hfound =>
            have htoken : operands[k]? = some token := by
              rw [← Nat.add_zero k, ← List.getElem?_drop, hdrop, List.cons_append,
                List.getElem?_cons_zero]
            refine ⟨⟨token, htoken, hoperand⟩, found, surplus, ?_, hfound⟩
            rw [← List.drop_drop, hdrop]
            rfl

end

/-! ### Lines -/

section

variable {labels : LabelTable} {address : Int} {line : SourceLine}

/-- A line whose tokens begin with a mnemonic has no error exactly if there is no fault among its
operands. -/
theorem forall_not_lineError_iff_of_tokens {word : Text} {operands : List Text} {name : String}
    {shape : Shape} (htokens : tokens line.body = word :: operands)
    (hmnemonic : (name, shape) ∈ mnemonics) (hname : name.toList = lower word) :
    (∀ e, ¬LineError labels line e) ↔
      ∀ e, ¬FirstFault labels (lower word) operands e 0 shape.operandKinds := by
  have hshape : ∀ {name' : String} {shape' : Shape}, (name', shape') ∈ mnemonics →
      name'.toList = lower word → shape' = shape := by
    intro name' shape' hmem hname'
    exact Option.some.inj ((Shape.ofMnemonic?_eq_some_iff.mpr ⟨name', hmem, hname'⟩).symm.trans
      (Shape.ofMnemonic?_eq_some_iff.mpr ⟨name, hmnemonic, hname⟩))
  constructor
  · exact fun h e he => h _ (.of_firstFault htokens hmnemonic hname he)
  · intro h e he
    cases he with
    | missingMnemonic hnone => cases htokens.symm.trans hnone
    | unsupported htokens' hno =>
        cases htokens.symm.trans htokens'
        exact hno _ hmnemonic hname
    | operand htokens' hmnemonic' hname' hfault =>
        cases htokens.symm.trans htokens'
        cases hshape hmnemonic' hname'
        exact h _ hfault
    | refused htokens' hmnemonic' hname' hfault =>
        cases htokens.symm.trans htokens'
        cases hshape hmnemonic' hname'
        exact h _ hfault

/-- **A line has no error** exactly if its tokens begin with a statement. -/
theorem forall_not_lineError_iff :
    (∀ e, ¬LineError labels line e) ↔
      ∃ statement surplus, tokens line.body = statement ++ surplus ∧
        StatementForm labels statement := by
  constructor
  · intro h
    cases htokens : tokens line.body with
    | nil => exact absurd (.missingMnemonic htokens) (h _)
    | cons word operands =>
        by_cases hmnemonic : ∃ name shape, (name, shape) ∈ mnemonics ∧ name.toList = lower word
        · obtain ⟨name, shape, hmnemonic, hname⟩ := hmnemonic
          obtain ⟨found, surplus, hdrop, hfound⟩ := forall_not_firstFault_iff.mp
            ((forall_not_lineError_iff_of_tokens htokens hmnemonic hname).mp h)
          exact ⟨word :: found, surplus, congrArg (word :: ·) hdrop, .intro hmnemonic hname hfound⟩
        · refine absurd (.unsupported htokens fun entry hentry hname => ?_) (h _)
          exact hmnemonic ⟨entry.1, entry.2, hentry, hname⟩
  · rintro ⟨statement, surplus, htokens, ⟨hmnemonic, hname, hoperands⟩⟩
    rw [forall_not_lineError_iff_of_tokens htokens hmnemonic hname, forall_not_firstFault_iff]
    exact ⟨_, surplus, rfl, hoperands⟩

/-- **A line decodes** exactly if its tokens begin with a statement. -/
theorem exists_decode_iff_statement :
    (∃ i, decode labels address line = .ok i) ↔
      ∃ statement surplus, tokens line.body = statement ++ surplus ∧
        StatementForm labels statement :=
  exists_decode_iff.trans forall_not_lineError_iff

/-! ### Surplus tokens -/

/-- A statement has as many operands as its mnemonic takes. -/
theorem StatementForm.length_eq {word : Text} {operands : List Text} {shape : Shape}
    (h : StatementForm labels (word :: operands))
    (hshape : Shape.ofMnemonic? (lower word) = some shape) : operands.length = shape.arity := by
  cases h with
  | intro hmnemonic hname hoperands =>
      cases hshape.symm.trans (Shape.ofMnemonic?_eq_some_iff.mpr ⟨_, hmnemonic, hname⟩)
      rw [← hoperands.length_eq, Shape.length_operandKinds]

/-- **Tokens that begin with a statement** are one only if there are no others. -/
theorem StatementForm.append_iff {statement surplus : List Text}
    (h : StatementForm labels statement) :
    StatementForm labels (statement ++ surplus) ↔ surplus = [] := by
  constructor
  · intro hall
    cases h with
    | intro hmnemonic hname hoperands =>
        have hshape := Shape.ofMnemonic?_eq_some_iff.mpr ⟨_, hmnemonic, hname⟩
        have hlength := StatementForm.length_eq (.intro hmnemonic hname hoperands) hshape
        rw [List.cons_append] at hall
        have hmore := hall.length_eq hshape
        rw [List.length_append, hlength] at hmore
        exact List.length_eq_zero_iff.mp (by omega)
  · rintro rfl
    rwa [List.append_nil]

/-- The operands that are due are taken from the front. -/
theorem decodeOperands_append {op : Text} {operands surplus : List Text} {shape : Shape}
    (h : operands.length = shape.arity) :
    decodeOperands labels address op (operands ++ surplus) shape =
      decodeOperands labels address op operands shape := by
  have hoperand : ∀ position, position - 1 < shape.arity →
      operandAt op (operands ++ surplus) position = operandAt op operands position := by
    intro position hposition
    rw [operandAt, operandAt, List.getElem?_append_left (h ▸ hposition)]
  cases shape with
  | register code | immediate code | branch code =>
      have hfirst := hoperand 1 (by decide : 0 < 3)
      have hsecond := hoperand 2 (by decide : 1 < 3)
      have hthird := hoperand 3 (by decide : 2 < 3)
      simp only [decodeOperands, registerAt, hfirst, hsecond, hthird]
  | load | store =>
      have hfirst := hoperand 1 (by decide : 0 < 2)
      have hsecond := hoperand 2 (by decide : 1 < 2)
      simp only [decodeOperands, registerAt, hfirst, hsecond]

/-- **Tokens behind a statement are not looked at**: the record is that of the statement alone, with
the text of the line. -/
theorem decode_append_surplus {line' : SourceLine} {statement surplus : List Text}
    (h : StatementForm labels statement) (htokens : tokens line.body = statement ++ surplus)
    (htokens' : tokens line'.body = statement) :
    ∃ i, decode labels address line' = .ok i ∧
      decode labels address line = .ok { i with text := line.text, line := line.number } := by
  obtain ⟨i, hi⟩ : ∃ i, decode labels address line' = .ok i :=
    exists_decode_iff_statement.mpr ⟨statement, [], htokens'.trans (List.append_nil _).symm, h⟩
  refine ⟨i, hi, ?_⟩
  obtain ⟨word, operands, shape, d, hword, hshape, hd, rfl⟩ := decode_eq_ok_iff.mp hi
  obtain rfl := htokens'.symm.trans hword
  refine decode_eq_ok_iff.mpr ⟨word, operands ++ surplus, shape, d, htokens, hshape, ?_, rfl⟩
  rw [decodeOperands_append (h.length_eq hshape), hd]

end

/-! ### Sources -/

/-- The instruction lines of a source that assembles all decode. -/
theorem exists_decode_of_mem_instructionLines {source : Text} {p : Program}
    (h : assemble source = .ok p) {line : SourceLine}
    (hline : line ∈ instructionLines (lines source)) :
    ∃ address i, decode (labelTable (sourceLines source)) address line = .ok i := by
  rw [instructionLines_eq, ← sourceLines_eq_numberedLines, ← map_sourceLine_instructions h] at hline
  obtain ⟨i, hi, rfl⟩ := List.mem_map.mp hline
  obtain ⟨j, hj⟩ := List.getElem?_of_mem hi
  exact ⟨_, i, labels_of_assemble h ▸ (decode_of_getElem? h hj).2⟩

/-- **Which sources assemble, and what becomes of surplus tokens.** A source assembles exactly if
the tokens of each of its instruction lines begin with a statement. They are a statement as a whole
only if nothing follows it; but if something does, the record is that of the statement alone. -/
theorem assembles_iff_statements (source : Text) :
    let labels := labelTable (sourceLines source)
    ((∃ p, assemble source = .ok p) ↔
      ∀ line ∈ instructionLines (lines source), ∃ statement surplus,
        tokens line.body = statement ++ surplus ∧ StatementForm labels statement) ∧
    ∀ line statement surplus, tokens line.body = statement ++ surplus →
      StatementForm labels statement →
      (StatementForm labels (tokens line.body) ↔ surplus = []) ∧
      ∀ line' address, tokens line'.body = statement →
        ∃ i, decode labels address line' = .ok i ∧
          decode labels address line = .ok { i with text := line.text, line := line.number } := by
  refine ⟨⟨?_, fun h => ?_⟩, fun line statement surplus htokens hstatement => ⟨?_, ?_⟩⟩
  · rintro ⟨p, hp⟩ line hline
    obtain ⟨address, hdecode⟩ := exists_decode_of_mem_instructionLines hp hline
    exact exists_decode_iff_statement.mp hdecode
  · obtain ⟨p, hp, -⟩ := assemble_of_forall_not_lineError fun line hline =>
      forall_not_lineError_iff.mpr (h line hline)
    exact ⟨p, hp⟩
  · rw [htokens]
    exact hstatement.append_iff
  · exact fun line' address htokens' => decode_append_surplus hstatement htokens htokens'

/-- A second instruction on a line is passed over: the line assembles into one record, but it is
no statement. -/
theorem assemble_two_statements :
    let source := "lw x1, 0(x2) addi x3, x0, 1".toList
    ∃ p, assemble source = .ok p ∧ p.instructions.length = 1 ∧
      ∃ line ∈ instructionLines (lines source), ¬StatementForm p.labels (tokens line.body) := by
  intro source
  obtain ⟨p, hp, hlength⟩ : ∃ p, assemble source = .ok p ∧ p.instructions.length = 1 :=
    ⟨_, rfl, rfl⟩
  refine ⟨p, hp, hlength, ⟨1, source⟩, by decide, fun hform => ?_⟩
  have htokens : tokens (SourceLine.body ⟨1, source⟩) =
      "lw".toList :: ["x1", "0(x2)", "addi", "x3", "x0", "1"].map String.toList := by decide
  rw [htokens] at hform
  have hshape : Shape.ofMnemonic? (lower "lw".toList) = some .load := by decide
  exact absurd (hform.length_eq hshape) (by decide)

end Monocycle
