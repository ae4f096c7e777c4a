import Monocycle.Instruction
import Monocycle.Proofs.Assembly.LastDefinition
import Monocycle.Text.Numeral

/-!
# Abstract programs

Programs of the assembly language as data, how they are written, and what they mean. Nothing in
this module knows how source text is read: it is the yardstick for the assembler.

An abstract program is a list of items, one for each line. An item is a label, a statement, or a
statement with a label in front of it. The labels that statements refer to are defined somewhere
in the program, before or behind them; a label may be defined several times, and stands for the
address of its last definition then.

## Main definitions

* `LabelName`, `Constant`, `Operand`, `Statement`, `Item`, `AbstractProgram`: abstract syntax.
* `AbstractProgram.render`: the program as source text.
* `AbstractProgram.address?`: the addresses its labels stand for.
* `AbstractProgram.records`: the instruction records its statements stand for.
-/

namespace Monocycle

/-! ### Abstract syntax -/

/-- The **name of a label**: a letter, underscore, point or dollar sign, and then any number of
these and of digits. -/
structure LabelName where
  first : Char
  rest : Text
  first_ok : first.isAlpha = true ∨ first ∈ ['_', '.', '$']
  rest_ok : ∀ c ∈ rest, c.isAlphanum = true ∨ c ∈ ['_', '.', '$']

/-- The name of a label as a text. -/
def LabelName.text (l : LabelName) : Text :=
  l.first :: l.rest

/-- An integer that fits a word. -/
structure Constant where
  value : Int
  inRange : Word.InRange value

/-- An **operand** where an integer is asked for: the integer itself, or a label. -/
inductive Operand where
  | constant (c : Constant)
  | label (l : LabelName)

/-- The operations on three registers. -/
def registerOps : List Opcode :=
  [.add, .sub, .and, .or, .xor, .sll, .srl, .sra, .slt, .sltu]

/-- The operations on two registers and an operand. -/
def immediateOps : List Opcode :=
  [.addi, .andi, .ori, .xori, .slti, .sltiu, .slli, .srli, .srai]

/-- The conditional branches. -/
def branchOps : List Opcode :=
  [.beq, .bne, .blt, .bge, .bltu, .bgeu]

/-- The names of loads. -/
def loadNames : List String :=
  ["lw", "lb", "lh", "lbu", "lhu", "li"]

/-- The names of stores. -/
def storeNames : List String :=
  ["sw", "sb", "sh"]

/-- A **statement** of the assembly language. -/
inductive Statement where
  | register (op : Opcode) (h : op ∈ registerOps) (rd rs1 rs2 : Register)
  | immediate (op : Opcode) (h : op ∈ immediateOps) (rd rs1 : Register) (operand : Operand)
  | load (name : String) (h : name ∈ loadNames) (rd : Register) (offset : Constant)
    (base : Register)
  | store (name : String) (h : name ∈ storeNames) (value : Register) (offset : Constant)
    (base : Register)
  | branch (op : Opcode) (h : op ∈ branchOps) (rs1 rs2 : Register) (target : Operand)

/-- An **item**: what one line says. -/
inductive Item where
  | label (l : LabelName)
  | statement (s : Statement)
  | labelled (l : LabelName) (s : Statement)

/-- The operand of a statement that is not a register or a memory address. -/
def Statement.operand? : Statement → Option Operand
  | immediate _ _ _ _ operand => some operand
  | branch _ _ _ _ target => some target
  | register .. | load .. | store .. => none

namespace Item

/-- The name an item defines. -/
def name? : Item → Option Text
  | label l | labelled l _ => some l.text
  | statement _ => none

/-- The statement an item makes. -/
def statement? : Item → Option Statement
  | label _ => none
  | statement s | labelled _ s => some s

/-- The bytes an item takes in the program. -/
def size (item : Item) : Int :=
  if item.statement?.isSome then 4 else 0

end Item

/-- **Abstract program**: a list of items in which every label referred to is defined. -/
structure AbstractProgram where
  items : List Item
  closed : ∀ item ∈ items, ∀ s, item.statement? = some s → ∀ l, s.operand? = some (.label l) →
    ∃ other ∈ items, other.name? = some l.text

/-! ### Writing programs down -/

/-- A register by its number. -/
def writeRegister (r : Register) : Text :=
  'x' :: Text.ofNat r.val

/-- A memory address: a decimal offset, and a base in parentheses. -/
def writeAddress (offset : Int) (base : Register) : Text :=
  Text.ofInt offset ++ '(' :: (writeRegister base ++ [')'])

/-- An operand: an integer in decimal, or the name of a label. -/
def Operand.text : Operand → Text
  | constant c => Text.ofInt c.value
  | label l => l.text

namespace Statement

/-- The mnemonic of a statement. -/
def mnemonic : Statement → Text
  | register op .. | immediate op .. | branch op .. => op.name.toList
  | load name .. | store name .. => name.toList

/-- The operands of a statement in order. -/
def operands : Statement → List Text
  | register _ _ rd rs1 rs2 => [writeRegister rd, writeRegister rs1, writeRegister rs2]
  | immediate _ _ rd rs1 operand => [writeRegister rd, writeRegister rs1, operand.text]
  | load _ _ rd offset base => [writeRegister rd, writeAddress offset.value base]
  | store _ _ value offset base => [writeRegister value, writeAddress offset.value base]
  | branch _ _ rs1 rs2 target => [writeRegister rs1, writeRegister rs2, target.text]

/-- A statement as it is written: the mnemonic, and the operands with commas between them. -/
def render (s : Statement) : Text :=
  s.mnemonic ++ ' ' :: [',', ' '].intercalate s.operands

end Statement

/-- An item as it is written: a colon ends a label. -/
def Item.render : Item → Text
  | label l => l.text ++ [':']
  | statement s => s.render
  | labelled l s => l.text ++ ':' :: ' ' :: s.render

/-- **The source text** of an abstract program: one line for each item. -/
def AbstractProgram.render (p : AbstractProgram) : Text :=
  ['\n'].intercalate (p.items.map Item.render)

/-! ### What programs mean -/

/-- How many statements there are among some items. -/
def statementCount (items : List Item) : Nat :=
  items.countP fun item => item.statement?.isSome

/-- The address of the last definition of a name among some items, the first of them at
`address`. -/
def lastAddress? (name : Text) (address : Int) : List Item → Option Int
  | [] => none
  | item :: rest =>
    (lastAddress? name (address + item.size) rest).or
      (if item.name? = some name then some address else none)

/-- The last definition among items is one among entries of which the statements take bytes. -/
theorem lastAddress?_eq_lastDefinition? (name : Text) (items : List Item) (address : Int) :
    lastAddress? name address items =
      lastDefinition? Item.name? (fun item => item.statement?.isSome) name address items := by
  induction items generalizing address with
  | nil => rfl
  | cons item rest ih =>
      have hsize : address + item.size =
          if item.statement?.isSome then address + 4 else address := by
        rw [Item.size]
        split
        · rfl
        · exact Int.add_zero address
      rw [lastAddress?, lastDefinition?, ih, hsize]

/-- A name has no address exactly if no item defines it. -/
theorem lastAddress?_eq_none_iff {name : Text} {items : List Item} {address : Int} :
    lastAddress? name address items = none ↔ ∀ item ∈ items, item.name? ≠ some name := by
  rw [lastAddress?_eq_lastDefinition?, lastDefinition?_eq_none_iff]

/-- **What it means to be the last definition**: no later item defines the name, and every
statement before the definition takes four bytes. -/
theorem lastAddress?_eq_some_iff {name : Text} {items : List Item} {address a : Int} :
    lastAddress? name address items = some a ↔
      ∃ before item after, items = before ++ item :: after ∧ item.name? = some name ∧
        (∀ other ∈ after, other.name? ≠ some name) ∧
        a = address + 4 * (statementCount before : Int) := by
  rw [lastAddress?_eq_lastDefinition?, lastDefinition?_eq_some_iff]
  rfl

namespace AbstractProgram

/-- **The address a label stands for**: that of its last definition. -/
def address? (p : AbstractProgram) (name : Text) : Option Int :=
  lastAddress? name 0 p.items

/-- The value of an operand for an instruction at an address: the integer itself, or the distance
to the label. -/
def value (p : AbstractProgram) (address : Int) : Operand → Int
  | .constant c => c.value
  | .label l => (p.address? l.text).getD 0 - address

end AbstractProgram

/-- The record a statement stands for, with the value of its operand. Every load is one of a word,
and so is every store. -/
def Statement.record (value : Operand → Int) (address : Int) (text : Text) (line : Nat) :
    Statement → Instruction
  | register op _ rd rs1 rs2 => ⟨.register, op, address, text, line, rd, rs1, rs2, 0⟩
  | immediate op _ rd rs1 operand =>
    ⟨.immediate, op, address, text, line, rd, rs1, .zero, value operand⟩
  | load _ _ rd offset base =>
    ⟨.immediate, .lw, address, text, line, rd, base, .zero, offset.value⟩
  | store _ _ v offset base =>
    ⟨.store, .sw, address, text, line, .zero, base, v, offset.value⟩
  | branch op _ rs1 rs2 target =>
    ⟨.branch, op, address, text, line, .zero, rs1, rs2, value target⟩

/-- The statements among some items with their lines: the text, and the number in the program. -/
def writtenStatements (number : Nat) (items : List Item) : List (Statement × Text × Nat) :=
  (items.zipIdx number).filterMap fun (item, line) =>
    item.statement?.map fun s => (s, item.render, line)

/-- **The records of an abstract program**: its statements in order, four bytes apart. -/
def AbstractProgram.records (p : AbstractProgram) : List Instruction :=
  ((writtenStatements 1 p.items).zipIdx).map fun ((s, text, line), i) =>
    s.record (p.value (4 * i)) (4 * i) text line

end Monocycle
