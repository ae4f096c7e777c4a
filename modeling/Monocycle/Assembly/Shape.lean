import Monocycle.Opcode
import Monocycle.Text.Basic

/-!
# Instruction shapes

Which operands a mnemonic takes, and which operation it stands for. Loads and stores of every
width stand for the one load and the one store of a whole word.
-/

namespace Monocycle

/-- **Shape** of an instruction: the operands its mnemonic takes. -/
inductive Shape where
  /-- Destination and two source registers. -/
  | register (op : Opcode)
  /-- Destination, source register, immediate. -/
  | immediate (op : Opcode)
  /-- Destination, memory address. -/
  | load
  /-- Value register, memory address. -/
  | store
  /-- Two registers to compare, immediate. -/
  | branch (op : Opcode)
  deriving DecidableEq, Repr

/-- How many operands a shape takes. -/
def Shape.arity : Shape → Nat
  | register _ | immediate _ | branch _ => 3
  | load | store => 2

/-- The mnemonics of the assembly language, in lower case. -/
def mnemonics : List (String × Shape) :=
  [("add", .register .add), ("sub", .register .sub), ("and", .register .and),
   ("or", .register .or), ("xor", .register .xor), ("sll", .register .sll),
   ("srl", .register .srl), ("sra", .register .sra), ("slt", .register .slt),
   ("sltu", .register .sltu),
   ("addi", .immediate .addi), ("andi", .immediate .andi), ("ori", .immediate .ori),
   ("xori", .immediate .xori), ("slti", .immediate .slti), ("sltiu", .immediate .sltiu),
   ("slli", .immediate .slli), ("srli", .immediate .srli), ("srai", .immediate .srai),
   ("lw", .load), ("lb", .load), ("lh", .load), ("lbu", .load), ("lhu", .load), ("li", .load),
   ("sw", .store), ("sb", .store), ("sh", .store),
   ("beq", .branch .beq), ("bne", .branch .bne), ("blt", .branch .blt), ("bge", .branch .bge),
   ("bltu", .branch .bltu), ("bgeu", .branch .bgeu)]

/-- The shape of a mnemonic in lower case. -/
def Shape.ofMnemonic? (op : Text) : Option Shape :=
  (mnemonics.find? fun entry => entry.1.toList == op).map (·.2)

end Monocycle
