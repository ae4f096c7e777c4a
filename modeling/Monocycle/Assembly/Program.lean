import Monocycle.Assembly.Operand
import Monocycle.Assembly.Shape
import Monocycle.Instruction

/-!
# Assembling a source

A source is assembled in two passes. The first gives every instruction line its byte address and
enters all labels, so that an instruction may refer to a label further down. The second decodes
the instruction lines in order and ends at the first that cannot be decoded.

Within a line the operands are read from left to right, and the first fault found is reported.
Tokens behind the operands a mnemonic takes are not looked at.

## Main definitions

* `decode`: the record of one instruction line.
* `Attempt`, `attempt`: how far the second pass comes, with the labels of the first.
* `Program`, `assemble`: the program of a source that decodes as a whole.
-/

namespace Monocycle

/-- **Program**: instruction records in order, and the labels of the source. -/
structure Program where
  instructions : List Instruction
  labels : LabelTable
  deriving DecidableEq

/-! ### Decoding one line -/

/-- What the operands of a line settle about its record. -/
structure Decoded where
  format : Format
  op : Opcode
  rd : Register
  rs1 : Register
  rs2 : Register
  imm : Int

/-- The operand at a position, counted from 1. -/
def operandAt (op : Text) (operands : List Text) (position : Nat) : Except ReadError Text :=
  match operands[position - 1]? with
  | some token => .ok token
  | none => .error (.fault (.missingOperand position op))

/-- The register written at an operand position. -/
def registerAt (op : Text) (operands : List Text) (position : Nat) : Except ReadError Register := do
  readRegister (← operandAt op operands position)

/-- **Decoding operands** from left to right, as the shape of the mnemonic `op` asks for them, for
an instruction at `address`. -/
def decodeOperands (labels : LabelTable) (address : Int) (op : Text) (operands : List Text) :
    Shape → Except ReadError Decoded
  | .register code => do
    let rd ← registerAt op operands 1
    let rs1 ← registerAt op operands 2
    let rs2 ← registerAt op operands 3
    return ⟨.register, code, rd, rs1, rs2, 0⟩
  | .immediate code => do
    let rd ← registerAt op operands 1
    let rs1 ← registerAt op operands 2
    let imm ← readImmediate labels address (← operandAt op operands 3)
    return ⟨.immediate, code, rd, rs1, .zero, imm⟩
  | .load => do
    let rd ← registerAt op operands 1
    let (offset, base) ← readMemoryAddress op (← operandAt op operands 2)
    return ⟨.immediate, .lw, rd, base, .zero, offset⟩
  | .store => do
    let value ← registerAt op operands 1
    let (offset, base) ← readMemoryAddress op (← operandAt op operands 2)
    return ⟨.store, .sw, .zero, base, value, offset⟩
  | .branch code => do
    let rs1 ← registerAt op operands 1
    let rs2 ← registerAt op operands 2
    let imm ← readImmediate labels address (← operandAt op operands 3)
    return ⟨.branch, code, .zero, rs1, rs2, imm⟩

/-- The record of an instruction line at an address, or the error of its first fault. -/
def decode (labels : LabelTable) (address : Int) (line : SourceLine) :
    Except AssemblyError Instruction :=
  match tokens line.body with
  | [] => .error (ReadError.locate ⟨line.number, line.text, none⟩ (.fault .missingMnemonic))
  | word :: operands =>
    let op := Text.lower word
    let site : Site := ⟨line.number, line.text, some op⟩
    match Shape.ofMnemonic? op with
    | none => .error (ReadError.locate site (.fault (.unsupported op)))
    | some shape =>
      match decodeOperands labels address op operands shape with
      | .error e => .error (e.locate site)
      | .ok d =>
        .ok ⟨d.format, d.op, address, line.text, line.number, d.rd, d.rs1, d.rs2, d.imm⟩

/-! ### Decoding a source -/

/-- Decodes the instruction lines among some lines, the first of them at `address`, up to the
first error. -/
def decodeLines (labels : LabelTable) (address : Int) :
    List SourceLine → List Instruction × Option AssemblyError
  | [] => ([], none)
  | line :: rest =>
    if line.isInstruction then
      match decode labels address line with
      | .error e => ([], some e)
      | .ok instruction =>
        let (later, error?) := decodeLines labels (address + 4) rest
        (instruction :: later, error?)
    else decodeLines labels address rest

/-- **Attempt** at a source: all its labels, the records of the instruction lines before the first
that does not decode, and the error of that line. -/
structure Attempt where
  labels : LabelTable
  instructions : List Instruction
  error? : Option AssemblyError
  deriving DecidableEq

/-- Both passes over a source. -/
def attempt (source : Text) : Attempt :=
  let ls := sourceLines source
  let labels := labelTable ls
  let (instructions, error?) := decodeLines labels 0 ls
  ⟨labels, instructions, error?⟩

/-- The program of an attempt that met no error. -/
def Attempt.result (a : Attempt) : Except AssemblyError Program :=
  match a.error? with
  | some e => .error e
  | none => .ok ⟨a.instructions, a.labels⟩

/-- **Assembling**: the program of a source, or the error of its first line that does not decode. -/
def assemble (source : Text) : Except AssemblyError Program :=
  (attempt source).result

/-- The number of instruction lines of a source, whether they decode or not. -/
def instructionCount (source : Text) : Nat :=
  ((sourceLines source).filter (·.isInstruction)).length

end Monocycle
