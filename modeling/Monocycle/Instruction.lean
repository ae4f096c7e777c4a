import Monocycle.Opcode
import Monocycle.Registers
import Monocycle.Text.Basic

/-!
# Instructions

The decoded form of one source line. The format decides how the machine executes a record and
the operation code what it computes; the assembler always makes them fit, but a record put
together by hand need not.
-/

namespace Monocycle

/-- **Format** of an instruction: register, immediate, store or branch. A record may name a
format the machine does not know. -/
inductive Format where
  | register
  | immediate
  | store
  | branch
  | unknown (name : String)
  deriving DecidableEq, Repr

namespace Format

/-- The letter that stands for a format; a format that is not known keeps its name. -/
def letter : Format → String
  | register => "R"
  | immediate => "I"
  | store => "S"
  | branch => "B"
  | unknown name => name

/-- The format a letter stands for. -/
def ofLetter : String → Format
  | "R" => register
  | "I" => immediate
  | "S" => store
  | "B" => branch
  | name => unknown name

end Format

/-- **Instruction record.** Fields that a format does not use are zero in assembled records. -/
structure Instruction where
  /-- How the record is executed. -/
  format : Format
  /-- What it computes. -/
  op : Opcode
  /-- Its byte address in the program. -/
  address : Int
  /-- The source line without comment and surrounding blanks. -/
  text : Text
  /-- The number of the source line, counted from 1. -/
  line : Nat
  /-- The register written. -/
  rd : Register
  /-- The first register read; the base of a memory access. -/
  rs1 : Register
  /-- The second register read; the value of a store. -/
  rs2 : Register
  /-- The immediate operand, offset or branch distance. -/
  imm : Int
  deriving DecidableEq

/-- The position of an instruction in its program, as its address tells it. -/
def Instruction.index (i : Instruction) : Int :=
  i.address / 4

end Monocycle
