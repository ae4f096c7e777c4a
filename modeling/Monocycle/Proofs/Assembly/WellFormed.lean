import Monocycle.Proofs.Assembly.AbstractProgram
import Monocycle.Proofs.Assembly.Layout

/-!
# Well-formed records

What every record of an assembled program is like, whatever the source: its operation is one of its
format, the fields its format has no use for are zero, and its immediate is a signed word or the
distance between two addresses of the program. The distance arises only where the operand is a
label, and then from the address of the record to that of the label.

## Main definitions

* `Instruction.FitsFormat`, `Instruction.WellFormed`: well-formed records.
* `ImmediateOf`: where the immediate of a line comes from.

## Main results

* `immediateOf_of_decodeOperands`: the immediate of a record was read off its line.
* `wellFormed_of_mem`: **every record of an assembled program is well-formed.**
-/

namespace Monocycle

/-! ### Well-formed records -/

/-- A record **fits its format**: its operation is one of the format, and the fields that the format
has no use for are zero. -/
def Instruction.FitsFormat (i : Instruction) : Prop :=
  match i.format with
  | .register => i.op ∈ registerOps ∧ i.imm = 0
  | .immediate => (i.op ∈ immediateOps ∨ i.op = .lw) ∧ i.rs2 = .zero
  | .store => i.op = .sw ∧ i.rd = .zero
  | .branch => i.op ∈ branchOps ∧ i.rd = .zero
  | .unknown _ => False

/-- A **well-formed** record in a program of `count` instructions. -/
structure Instruction.WellFormed (count : Nat) (i : Instruction) : Prop where
  fitsFormat : i.FitsFormat
  /-- The register fields are numbers of registers. -/
  registers : ∀ r ∈ [i.rd, i.rs1, i.rs2], r.val ≤ 31
  /-- The immediate is a word, or the distance between two addresses of the program. -/
  imm : Word.InRange i.imm ∨
    ∃ target address, IsAddress count target ∧ IsAddress count address ∧ i.imm = target - address

/-! ### Operations -/

/-- Whether the operation of a shape is one of its format. -/
def Shape.isProper : Shape → Bool
  | register op => registerOps.contains op
  | immediate op => immediateOps.contains op
  | load | store => true
  | branch op => branchOps.contains op

/-- The mnemonics of the language stand for proper shapes. -/
theorem isProper_of_mem_mnemonics : ∀ entry ∈ mnemonics, entry.2.isProper = true := by
  decide

/-- A record of a proper shape fits its format. -/
theorem fitsFormat_of_fits {shape : Shape} (h : shape.isProper = true) {d : Decoded}
    (hd : d.Fits shape) (address : Int) (text : Text) (line : Nat) :
    Instruction.FitsFormat
      ⟨d.format, d.op, address, text, line, d.rd, d.rs1, d.rs2, d.imm⟩ := by
  cases hd with
  | register code rd rs1 rs2 => exact ⟨List.contains_iff_mem.mp h, rfl⟩
  | immediate code rd rs1 imm => exact ⟨.inl (List.contains_iff_mem.mp h), rfl⟩
  | load rd base offset => exact ⟨.inr rfl, rfl⟩
  | store value base offset => exact ⟨rfl, rfl⟩
  | branch code rs1 rs2 imm => exact ⟨List.contains_iff_mem.mp h, rfl⟩

/-! ### Immediates -/

/-- An operand that is found is the one at its position. -/
theorem operandAt_eq_ok_iff {op : Text} {operands : List Text} {position : Nat} {token : Text} :
    operandAt op operands position = .ok token ↔ operands[position - 1]? = some token := by
  rw [operandAt]
  split
  · next found hfound => rw [hfound, Except.ok.injEq, Option.some.injEq]
  · next hnone => simp [hnone]

/-- **Where an immediate comes from**, by the shape of the line. -/
def ImmediateOf (labels : LabelTable) (address : Int) (op : Text) (operands : List Text)
    (imm : Int) : Shape → Prop
  | .register _ => imm = 0
  | .immediate _ | .branch _ =>
    ∃ token, operands[2]? = some token ∧ readImmediate labels address token = .ok imm
  | .load | .store =>
    ∃ token base, operands[1]? = some token ∧ readMemoryAddress op token = .ok (imm, base)

/-- The immediate of decoded operands comes from where the shape has it. -/
theorem immediateOf_of_decodeOperands {labels : LabelTable} {address : Int} {op : Text}
    {operands : List Text} {shape : Shape} {d : Decoded}
    (h : decodeOperands labels address op operands shape = .ok d) :
    ImmediateOf labels address op operands d.imm shape := by
  cases shape with
  | register code =>
      simp only [decodeOperands, bind_eq_ok_iff] at h
      obtain ⟨rd, -, rs1, -, rs2, -, hd⟩ := h
      cases hd
      rfl
  | immediate code =>
      simp only [decodeOperands, bind_eq_ok_iff, operandAt_eq_ok_iff] at h
      obtain ⟨rd, -, rs1, -, token, htoken, imm, himm, hd⟩ := h
      cases hd
      exact ⟨token, htoken, himm⟩
  | load =>
      simp only [decodeOperands, bind_eq_ok_iff, operandAt_eq_ok_iff] at h
      obtain ⟨rd, -, token, htoken, ⟨offset, base⟩, haddress, hd⟩ := h
      cases hd
      exact ⟨token, base, htoken, haddress⟩
  | store =>
      simp only [decodeOperands, bind_eq_ok_iff, operandAt_eq_ok_iff] at h
      obtain ⟨value, -, token, htoken, ⟨offset, base⟩, haddress, hd⟩ := h
      cases hd
      exact ⟨token, base, htoken, haddress⟩
  | branch code =>
      simp only [decodeOperands, bind_eq_ok_iff, operandAt_eq_ok_iff] at h
      obtain ⟨rs1, -, rs2, -, token, htoken, imm, himm, hd⟩ := h
      cases hd
      exact ⟨token, htoken, himm⟩

/-- **An immediate** is the distance to a label, or a word. -/
theorem readImmediate_cases {labels : LabelTable} {address : Int} {token : Text} {v : Int}
    (h : readImmediate labels address token = .ok v) :
    (∃ target, labels.address? (Text.strip token) = some target ∧ v = target - address) ∨
      Word.InRange v := by
  rw [readImmediate] at h
  split at h
  · next target htarget => exact .inl ⟨target, htarget, (Except.ok.inj h).symm⟩
  · split at h
    · next value _ =>
        cases value with
        | error e => cases h
        | ok x =>
            cases h
            exact .inr (Word.inRange_wrap x)
    · cases h

/-- The offset of a memory address is a word. -/
theorem inRange_of_readMemoryAddress {op token : Text} {offset : Int} {base : Register}
    (h : readMemoryAddress op token = .ok (offset, base)) : Word.InRange offset := by
  rw [readMemoryAddress] at h
  split at h
  · cases h
  · simp only [bind_eq_ok_iff] at h
    obtain ⟨magnitude, -, register, -, hpair⟩ := h
    cases hpair
    exact Word.inRange_wrap _

/-- The immediate of a shape is the distance to a label, or a word. -/
theorem ImmediateOf.cases {labels : LabelTable} {address : Int} {op : Text} {operands : List Text}
    {imm : Int} {shape : Shape} (h : ImmediateOf labels address op operands imm shape) :
    (∃ name target, labels.address? name = some target ∧ imm = target - address) ∨
      Word.InRange imm := by
  have hread : (∃ token, operands[2]? = some token ∧
      readImmediate labels address token = .ok imm) →
      (∃ name target, labels.address? name = some target ∧ imm = target - address) ∨
        Word.InRange imm := by
    rintro ⟨token, -, himm⟩
    exact (readImmediate_cases himm).imp_left fun ⟨target, h⟩ => ⟨_, target, h⟩
  have hmemory : (∃ token base, operands[1]? = some token ∧
      readMemoryAddress op token = .ok (imm, base)) →
      (∃ name target, labels.address? name = some target ∧ imm = target - address) ∨
        Word.InRange imm :=
    fun ⟨_, _, _, haddress⟩ => .inr (inRange_of_readMemoryAddress haddress)
  cases shape with
  | register code =>
      obtain rfl : imm = 0 := h
      exact .inr (by decide)
  | immediate code => exact hread h
  | load => exact hmemory h
  | store => exact hmemory h
  | branch code => exact hread h

section

variable {source : Text} {p : Program}

/-- The address of a record is one of its program. -/
theorem isAddress_of_mem (h : assemble source = .ok p) {i : Instruction}
    (hi : i ∈ p.instructions) : IsAddress p.instructions.length i.address := by
  obtain ⟨j, hj⟩ := List.getElem?_of_mem hi
  obtain ⟨hlt, -⟩ := List.getElem?_eq_some_iff.mp hj
  rw [address_of_getElem? h hj]
  exact ⟨by omega, by omega, by omega⟩

/-- **Every record of an assembled program is well-formed.** -/
theorem wellFormed_of_mem (h : assemble source = .ok p) {i : Instruction}
    (hi : i ∈ p.instructions) : i.WellFormed p.instructions.length := by
  obtain ⟨line, -, address, hdecode⟩ := exists_decode_of_mem h hi
  have haddress : i.address = address := (sourceLine_of_decode hdecode).2
  obtain ⟨word, operands, shape, d, -, hshape, hd, rfl⟩ := decode_eq_ok_iff.mp hdecode
  obtain ⟨name, hmem, -⟩ := Shape.exists_mem_mnemonics hshape
  refine ⟨fitsFormat_of_fits (isProper_of_mem_mnemonics _ hmem) (fits_of_decodeOperands hd) _ _ _,
    fun r _ => Nat.le_of_lt_succ r.isLt, ?_⟩
  obtain ⟨label, target, hlabel, himm⟩ | hword := (immediateOf_of_decodeOperands hd).cases
  · exact .inr ⟨target, address, isAddress_of_address? h hlabel, isAddress_of_mem h hi, himm⟩
  · exact .inl hword

end

end Monocycle
