/-!
# Operation codes

The operations the machine knows, after loads and stores of every width have been merged into
one load and one store of a whole word. Register and immediate forms of an arithmetic operation
are different codes that share one `Arith`; the six conditional branches share `Comparison`.

## Main definitions

* `Arith`, `Comparison`: the arithmetic/logic operations and the branch conditions.
* `Opcode`: the 27 codes, with their written names (`Opcode.name`, `Opcode.ofName?`).
* `Opcode.arith?`, `Opcode.comparison?`: what the arithmetic unit and the branch unit make of a
  code.
-/

namespace Monocycle

/-- The arithmetic and logic operations on two words. -/
inductive Arith where
  | add | sub | and | or | xor | sll | srl | sra | slt | sltu
  deriving DecidableEq, Repr

/-- The conditions a branch can test on two words. -/
inductive Comparison where
  | eq | ne | lt | ge | ltu | geu
  deriving DecidableEq, Repr

/-- The operation codes of the machine. -/
inductive Opcode where
  | add | sub | and | or | xor | sll | srl | sra | slt | sltu
  | addi | andi | ori | xori | slti | sltiu | slli | srli | srai
  | lw | sw
  | beq | bne | blt | bge | bltu | bgeu
  deriving DecidableEq, Repr

namespace Opcode

/-- Every operation code: register forms, immediate forms, memory accesses, branches. -/
def all : List Opcode :=
  [.add, .sub, .and, .or, .xor, .sll, .srl, .sra, .slt, .sltu,
   .addi, .andi, .ori, .xori, .slti, .sltiu, .slli, .srli, .srai,
   .lw, .sw,
   .beq, .bne, .blt, .bge, .bltu, .bgeu]

/-- The written name of an operation code, in lower case. -/
def name : Opcode → String
  | add => "add" | sub => "sub" | and => "and" | or => "or" | xor => "xor"
  | sll => "sll" | srl => "srl" | sra => "sra" | slt => "slt" | sltu => "sltu"
  | addi => "addi" | andi => "andi" | ori => "ori" | xori => "xori"
  | slti => "slti" | sltiu => "sltiu" | slli => "slli" | srli => "srli" | srai => "srai"
  | lw => "lw" | sw => "sw"
  | beq => "beq" | bne => "bne" | blt => "blt" | bge => "bge" | bltu => "bltu" | bgeu => "bgeu"

/-- The operation code of a name; names are matched exactly, case included. -/
def ofName? (s : String) : Option Opcode :=
  all.find? fun op => op.name == s

/-- The operation the arithmetic unit performs for a code. Immediate forms share the operation
of their register form; memory accesses and branches have none. -/
def arith? : Opcode → Option Arith
  | add | addi => some .add
  | sub => some .sub
  | and | andi => some .and
  | or | ori => some .or
  | xor | xori => some .xor
  | sll | slli => some .sll
  | srl | srli => some .srl
  | sra | srai => some .sra
  | slt | slti => some .slt
  | sltu | sltiu => some .sltu
  | lw | sw | beq | bne | blt | bge | bltu | bgeu => none

/-- The condition the branch unit tests for a code; only branches have one. -/
def comparison? : Opcode → Option Comparison
  | beq => some .eq
  | bne => some .ne
  | blt => some .lt
  | bge => some .ge
  | bltu => some .ltu
  | bgeu => some .geu
  | _ => none

/-- The list of codes leaves none out. -/
theorem mem_all (op : Opcode) : op ∈ all := by
  cases op <;> decide

/-- A written name is read back as the code it belongs to. -/
theorem ofName?_name (op : Opcode) : ofName? op.name = some op := by
  cases op <;> decide

end Opcode

end Monocycle
