import Monocycle.Proofs.Assembly.Labels
import Monocycle.Proofs.Assembly.Lines
import Monocycle.Proofs.Assembly.Records

/-!
# Assembling what was written

The assembler undoes `AbstractProgram.render`: the source text of every abstract program
assembles, to the records that the program stands for and to a table of its labels.

The first pass enters the definitions of the program in order, so that looking a name up finds the
last of them. The second pass reads every statement back against that table. A constant is never
taken for a label, since no label begins like a number.

## Main results

* `lookup_labelDefinitions`: the first pass finds the last definition of every name.
* `decode_line`: the second pass decodes a written statement to its record.
* `assemble_render`: the whole program assembles.
-/

namespace Monocycle

open Text

/-! ### The first pass -/

/-- The lines that were written define and hold what the items do. -/
theorem lastDefinition?_writtenLines (name : Text) (items : List Item) (number : Nat)
    (address : Int) :
    lastDefinition? SourceLine.label? SourceLine.isInstruction name address
        (writtenLines number items) =
      lastDefinition? Item.name? (fun item => item.statement?.isSome) name address items := by
  induction items generalizing number address with
  | nil => rfl
  | cons item rest ih =>
      rw [writtenLines, lastDefinition?, lastDefinition?, label?_line, isInstruction_line, ih]

/-- **The first pass** finds the last definition of every name. -/
theorem lookup_labelDefinitions (name : Text) (items : List Item) (number : Nat) (address : Int) :
    (labelDefinitions address (writtenLines number items)).reverse.lookup name =
      lastAddress? name address items := by
  rw [lookup_reverse_labelDefinitions, lastDefinition?_writtenLines,
    lastAddress?_eq_lastDefinition?]

/-! ### The second pass -/

/-- The shape of a statement. -/
def Statement.shape : Statement → Shape
  | register op .. => .register op
  | immediate op .. => .immediate op
  | load .. => .load
  | store .. => .store
  | branch op .. => .branch op

/-- **A mnemonic** is in lower case and has the shape of its statement. -/
theorem ofMnemonic?_mnemonic (s : Statement) :
    Shape.ofMnemonic? (lower s.mnemonic) = some s.shape := by
  cases s with
  | register op h rd rs1 rs2 =>
      have hall : ∀ op ∈ registerOps,
          Shape.ofMnemonic? (lower op.name.toList) = some (.register op) := by decide
      exact hall op h
  | immediate op h rd rs1 operand =>
      have hall : ∀ op ∈ immediateOps,
          Shape.ofMnemonic? (lower op.name.toList) = some (.immediate op) := by decide
      exact hall op h
  | load name h rd offset base =>
      have hall : ∀ name ∈ loadNames, Shape.ofMnemonic? (lower name.toList) = some .load := by
        decide
      exact hall name h
  | store name h value offset base =>
      have hall : ∀ name ∈ storeNames, Shape.ofMnemonic? (lower name.toList) = some .store := by
        decide
      exact hall name h
  | branch op h rs1 rs2 target =>
      have hall : ∀ op ∈ branchOps,
          Shape.ofMnemonic? (lower op.name.toList) = some (.branch op) := by decide
      exact hall op h

/-- **The operands** of a written statement are read as its record has them, as long as its operand
is read as its value. -/
theorem exists_decodeOperands {labels : LabelTable} {address : Int} {value : Operand → Int}
    (s : Statement) (hvalue : ∀ operand, s.operand? = some operand →
      readImmediate labels address operand.text = .ok (value operand))
    (op text : Text) (line : Nat) :
    ∃ d, decodeOperands labels address op s.operands s.shape = .ok d ∧
      s.record value address text line =
        ⟨d.format, d.op, address, text, line, d.rd, d.rs1, d.rs2, d.imm⟩ := by
  cases s with
  | register code h rd rs1 rs2 =>
      refine ⟨⟨.register, code, rd, rs1, rs2, 0⟩, ?_, rfl⟩
      simp [Statement.shape, Statement.operands, decodeOperands, registerAt, operandAt,
        readRegister_writeRegister, bind, Except.bind, pure, Except.pure]
  | immediate code h rd rs1 operand =>
      refine ⟨⟨.immediate, code, rd, rs1, .zero, value operand⟩, ?_, rfl⟩
      simp [Statement.shape, Statement.operands, decodeOperands, registerAt, operandAt,
        readRegister_writeRegister, hvalue operand rfl, bind, Except.bind, pure, Except.pure]
  | load name h rd offset base =>
      refine ⟨⟨.immediate, .lw, rd, base, .zero, offset.value⟩, ?_, rfl⟩
      simp [Statement.shape, Statement.operands, decodeOperands, registerAt, operandAt,
        readRegister_writeRegister, readMemoryAddress_writeAddress offset.inRange, bind,
        Except.bind, pure, Except.pure]
  | store name h v offset base =>
      refine ⟨⟨.store, .sw, .zero, base, v, offset.value⟩, ?_, rfl⟩
      simp [Statement.shape, Statement.operands, decodeOperands, registerAt, operandAt,
        readRegister_writeRegister, readMemoryAddress_writeAddress offset.inRange, bind,
        Except.bind, pure, Except.pure]
  | branch code h rs1 rs2 target =>
      refine ⟨⟨.branch, code, .zero, rs1, rs2, value target⟩, ?_, rfl⟩
      simp [Statement.shape, Statement.operands, decodeOperands, registerAt, operandAt,
        readRegister_writeRegister, hvalue target rfl, bind, Except.bind, pure, Except.pure]

/-- No program defines a label that is written like an integer. -/
theorem address?_ofInt (p : AbstractProgram) (v : Int) : p.address? (ofInt v) = none := by
  rw [AbstractProgram.address?, lastAddress?_eq_none_iff]
  intro item _ hname
  cases item with
  | label l => exact l.text_ne_ofInt v (Option.some.inj hname)
  | statement s => cases hname
  | labelled l s => exact l.text_ne_ofInt v (Option.some.inj hname)

/-- A label that some item defines has an address. -/
theorem exists_address? {p : AbstractProgram} {item : Item} {name : Text} (hitem : item ∈ p.items)
    (hname : item.name? = some name) : ∃ target, p.address? name = some target := by
  refine Option.ne_none_iff_exists'.mp ?_
  rw [AbstractProgram.address?, Ne, lastAddress?_eq_none_iff]
  exact fun hno => hno item hitem hname

section

variable {p : AbstractProgram} {labels : LabelTable}

/-- **An operand** is read as its value against a table of the labels of the program. -/
theorem readImmediate_text (hlabels : ∀ name, labels.address? name = p.address? name)
    {operand : Operand}
    (hclosed : ∀ l, operand = .label l → ∃ item ∈ p.items, item.name? = some l.text)
    (address : Int) :
    readImmediate labels address operand.text = .ok (p.value address operand) := by
  cases operand with
  | constant c =>
      exact readImmediate_ofInt c.inRange ((hlabels _).trans (address?_ofInt p c.value)) address
  | label l =>
      obtain ⟨item, hitem, hname⟩ := hclosed l rfl
      obtain ⟨target, htarget⟩ := exists_address? hitem hname
      rw [AbstractProgram.value, htarget]
      exact readImmediate_of_address? l.isPlain ((hlabels _).trans htarget) address

/-- **The second pass** decodes a written statement to its record. -/
theorem decode_line (hlabels : ∀ name, labels.address? name = p.address? name) {item : Item}
    (hitem : item ∈ p.items) {s : Statement} (hs : item.statement? = some s) (number : Nat)
    (address : Int) :
    decode labels address (item.line number) =
      .ok (s.record (p.value address) address item.render number) := by
  have hbody : (item.line number).body = s.render := by
    rw [SourceLine.body, Item.line, splitLabel_render, Item.body, hs]
  have hvalue : ∀ operand, s.operand? = some operand →
      readImmediate labels address operand.text = .ok (p.value address operand) := by
    intro operand hoperand
    refine readImmediate_text hlabels ?_ address
    rintro l rfl
    exact p.closed item hitem s hs l hoperand
  obtain ⟨d, hd, hrecord⟩ := exists_decodeOperands s hvalue (lower s.mnemonic) item.render number
  rw [decode_eq_ok_iff]
  refine ⟨s.mnemonic, s.operands, s.shape, d, ?_, ofMnemonic?_mnemonic s, hd, hrecord⟩
  rw [hbody, tokens_render]

/-- The second pass over the last items of a program, the first of them at line `number`, with `i`
instructions before them. -/
theorem decodeLines_writtenLines (hlabels : ∀ name, labels.address? name = p.address? name)
    {items : List Item} (hitems : ∀ item ∈ items, item ∈ p.items) (number i : Nat) :
    decodeLines labels (4 * i) (writtenLines number items) =
      (((writtenStatements number items).zipIdx i).map fun ((s, text, line), i) =>
        s.record (p.value (4 * i)) (4 * i) text line, none) := by
  induction items generalizing number i with
  | nil => rfl
  | cons item rest ih =>
      have hrest := ih (fun other hother => hitems other (List.mem_cons_of_mem _ hother))
      rw [writtenLines, decodeLines, isInstruction_line]
      cases hs : item.statement? with
      | none =>
          have hskip : writtenStatements number (item :: rest) =
              writtenStatements (number + 1) rest := by
            simp [writtenStatements, hs]
          rw [hskip]
          exact hrest (number + 1) i
      | some s =>
          have hstatement : writtenStatements number (item :: rest) =
              (s, item.render, number) :: writtenStatements (number + 1) rest := by
            simp [writtenStatements, hs]
          have hnext : (4 * (i : Int) + 4) = 4 * ((i + 1 : Nat) : Int) := by omega
          rw [hstatement, decode_line hlabels (hitems item List.mem_cons_self) hs, hnext,
            hrest (number + 1) (i + 1)]
          rfl

end

/-! ### Both passes -/

/-- **Assembling what was written.** The source text of every abstract program, with or without a
line feed at its end, assembles to the records that the program stands for. The label table has
every name of the program once, with the address of its last definition, and no other name. -/
theorem assemble_render (p : AbstractProgram) :
    ∃ labels : LabelTable, assemble p.render = .ok ⟨p.records, labels⟩ ∧
      assemble (p.render ++ ['\n']) = .ok ⟨p.records, labels⟩ ∧
      (labels.map Prod.fst).Nodup ∧ ∀ name, labels.address? name = p.address? name := by
  have hlabels : ∀ name, (labelTable (writtenLines 1 p.items)).address? name = p.address? name := by
    intro name
    rw [address?_labelTable, lookup_labelDefinitions]
    rfl
  have hassemble : ∀ source, sourceLines source = writtenLines 1 p.items →
      assemble source = .ok ⟨p.records, labelTable (writtenLines 1 p.items)⟩ := by
    intro source hsource
    have hdecode := decodeLines_writtenLines hlabels (fun _ hitem => hitem) 1 0
    simp only [assemble, attempt, hsource]
    rw [show (0 : Int) = 4 * ((0 : Nat) : Int) from rfl, hdecode]
    rfl
  obtain ⟨hplain, hended⟩ := sourceLines_render p
  exact ⟨_, hassemble _ hplain, hassemble _ hended, nodup_labelTable _, hlabels⟩

-- A label on a line of its own, referred to from before and from behind it.
example : (assemble "blt x1, x2, end\nend:\naddi x1, x1, end".toList).map
    (fun p => p.instructions.map fun i => (i.line, i.address, i.imm)) =
      .ok [(1, 0, 4), (3, 4, 0)] := by
  cbv

end Monocycle
