import Monocycle.Assembly.Program

/-!
# Assembled records

What can be said of the records of a source that assembles. Every record comes from one
instruction line by `decode`, and `decode` is taken apart into the reading of the mnemonic and the
reading of the operands. The shape of the mnemonic settles the format and the code of the record
and which of its fields stay zero: that is `Decoded.Fits`.

## Main results

* `decode_eq_ok_iff`: when a line decodes, and to what.
* `fits_of_decodeOperands`: decoded operands fit the shape they were read for.
* `decode_of_getElem?`: the record at a position of an assembled program was decoded from its line.
* `map_sourceLine_instructions`: the records of an assembled program have the instruction lines of
  the source, in order.
-/

namespace Monocycle

/-- A computation that goes on after another gives a result exactly if both do. -/
theorem bind_eq_ok_iff {ε α β : Type} {x : Except ε α} {f : α → Except ε β} {b : β} :
    (x >>= f) = .ok b ↔ ∃ a, x = .ok a ∧ f a = .ok b := by
  cases x with
  | error e => simp [bind, Except.bind]
  | ok a => simp [bind, Except.bind]

/-! ### Mnemonics -/

/-- A shape is found under a mnemonic of the language. -/
theorem Shape.exists_mem_mnemonics {op : Text} {shape : Shape}
    (h : Shape.ofMnemonic? op = some shape) :
    ∃ name, (name, shape) ∈ mnemonics ∧ name.toList = op := by
  obtain ⟨⟨name, found⟩, hfind, rfl⟩ := Option.map_eq_some_iff.mp h
  exact ⟨name, List.mem_of_find?_eq_some hfind, by simpa using List.find?_some hfind⟩

/-! ### Decoding a line -/

/-- What the operands of a line settle **fits** a shape: the format and the code are those of the
shape, and the fields it has no use for are zero. -/
inductive Decoded.Fits : Shape → Decoded → Prop
  | register (code : Opcode) (rd rs1 rs2 : Register) :
      Fits (.register code) ⟨.register, code, rd, rs1, rs2, 0⟩
  | immediate (code : Opcode) (rd rs1 : Register) (imm : Int) :
      Fits (.immediate code) ⟨.immediate, code, rd, rs1, .zero, imm⟩
  | load (rd base : Register) (offset : Int) :
      Fits .load ⟨.immediate, .lw, rd, base, .zero, offset⟩
  | store (value base : Register) (offset : Int) :
      Fits .store ⟨.store, .sw, .zero, base, value, offset⟩
  | branch (code : Opcode) (rs1 rs2 : Register) (imm : Int) :
      Fits (.branch code) ⟨.branch, code, .zero, rs1, rs2, imm⟩

/-- Decoded operands fit the shape they were read for. -/
theorem fits_of_decodeOperands {labels : LabelTable} {address : Int} {op : Text}
    {operands : List Text} {shape : Shape} {d : Decoded}
    (h : decodeOperands labels address op operands shape = .ok d) : d.Fits shape := by
  cases shape with
  | register code =>
      simp only [decodeOperands, bind_eq_ok_iff] at h
      obtain ⟨rd, -, rs1, -, rs2, -, hd⟩ := h
      cases hd
      exact .register code rd rs1 rs2
  | immediate code =>
      simp only [decodeOperands, bind_eq_ok_iff] at h
      obtain ⟨rd, -, rs1, -, token, -, imm, -, hd⟩ := h
      cases hd
      exact .immediate code rd rs1 imm
  | load =>
      simp only [decodeOperands, bind_eq_ok_iff] at h
      obtain ⟨rd, -, token, -, ⟨offset, base⟩, -, hd⟩ := h
      cases hd
      exact .load rd base offset
  | store =>
      simp only [decodeOperands, bind_eq_ok_iff] at h
      obtain ⟨value, -, token, -, ⟨offset, base⟩, -, hd⟩ := h
      cases hd
      exact .store value base offset
  | branch code =>
      simp only [decodeOperands, bind_eq_ok_iff] at h
      obtain ⟨rs1, -, rs2, -, token, -, imm, -, hd⟩ := h
      cases hd
      exact .branch code rs1 rs2 imm

/-- **Decoding a line**: its first token is a mnemonic of the language, and its operands can be
read as the shape of the mnemonic asks. -/
theorem decode_eq_ok_iff {labels : LabelTable} {address : Int} {line : SourceLine}
    {i : Instruction} :
    decode labels address line = .ok i ↔
      ∃ word operands shape d, tokens line.body = word :: operands ∧
        Shape.ofMnemonic? (Text.lower word) = some shape ∧
        decodeOperands labels address (Text.lower word) operands shape = .ok d ∧
        i = ⟨d.format, d.op, address, line.text, line.number, d.rd, d.rs1, d.rs2, d.imm⟩ := by
  rw [decode]
  cases htokens : tokens line.body with
  | nil => simp
  | cons word operands =>
      dsimp only
      cases hshape : Shape.ofMnemonic? (Text.lower word) with
      | none => simp [hshape]
      | some shape =>
          dsimp only
          cases hd : decodeOperands labels address (Text.lower word) operands shape with
          | error e =>
              simp only [reduceCtorEq, false_iff]
              rintro ⟨word', operands', shape', d, htoks, hshape', hd', -⟩
              cases htoks
              cases hshape.symm.trans hshape'
              cases hd.symm.trans hd'
          | ok d =>
              simp only [Except.ok.injEq]
              constructor
              · rintro rfl
                exact ⟨word, operands, shape, d, rfl, hshape, hd, rfl⟩
              · rintro ⟨word', operands', shape', d', htoks, hshape', hd', rfl⟩
                cases htoks
                cases hshape.symm.trans hshape'
                cases hd.symm.trans hd'
                rfl

/-! ### Decoding a source -/

/-- The **source line of a record**: the line it was decoded from, as the record tells it. -/
def Instruction.sourceLine (i : Instruction) : SourceLine :=
  ⟨i.line, i.text⟩

/-- A record tells the line and the address it was decoded for. -/
theorem sourceLine_of_decode {labels : LabelTable} {address : Int} {line : SourceLine}
    {i : Instruction} (h : decode labels address line = .ok i) :
    i.sourceLine = line ∧ i.address = address := by
  obtain ⟨word, operands, shape, d, -, -, -, rfl⟩ := decode_eq_ok_iff.mp h
  exact ⟨rfl, rfl⟩

/-- **The record at a position** was decoded from its line, for an address that is four times the
position. -/
theorem decode_of_getElem?_decodeLines {labels : LabelTable} {ls : List SourceLine}
    {address : Int} {j : Nat} {i : Instruction}
    (h : (decodeLines labels address ls).1[j]? = some i) :
    i.sourceLine ∈ ls ∧ decode labels (address + 4 * j) i.sourceLine = .ok i := by
  induction ls generalizing address j with
  | nil => simp [decodeLines] at h
  | cons line rest ih =>
      rw [decodeLines] at h
      split at h
      · split at h
        · simp at h
        · next first hdecode =>
            cases j with
            | zero =>
                obtain rfl := Option.some.inj h
                obtain ⟨hline, -⟩ := sourceLine_of_decode hdecode
                rw [hline]
                exact ⟨List.mem_cons_self, by simpa using hdecode⟩
            | succ j =>
                obtain ⟨hmem, hlater⟩ := ih h
                refine ⟨List.mem_cons_of_mem _ hmem, ?_⟩
                rw [show address + 4 * ((j + 1 : Nat) : Int) = address + 4 + 4 * j by omega]
                exact hlater
      · obtain ⟨hmem, hlater⟩ := ih h
        exact ⟨List.mem_cons_of_mem _ hmem, hlater⟩

/-- **The second pass** makes one record for each instruction line, in order, if it meets no
error. -/
theorem map_sourceLine_decodeLines {labels : LabelTable} {ls : List SourceLine} {address : Int}
    (h : (decodeLines labels address ls).2 = none) :
    (decodeLines labels address ls).1.map Instruction.sourceLine =
      ls.filter (·.isInstruction) := by
  induction ls generalizing address with
  | nil => rfl
  | cons line rest ih =>
      rw [decodeLines] at h ⊢
      split at h
      · next hinstruction =>
          rw [if_pos hinstruction, List.filter_cons_of_pos hinstruction]
          split at h
          · cases h
          · next first hdecode =>
              simp only [List.map_cons, ih h, (sourceLine_of_decode hdecode).1]
      · next hinstruction =>
          rw [if_neg hinstruction, List.filter_cons_of_neg hinstruction]
          exact ih h

/-- A source assembles exactly if its attempt meets no error. -/
theorem assemble_eq_ok_iff {source : Text} {p : Program} :
    assemble source = .ok p ↔
      (attempt source).error? = none ∧
        p = ⟨(attempt source).instructions, (attempt source).labels⟩ := by
  rw [assemble, Attempt.result]
  cases (attempt source).error? with
  | none => simp [eq_comm]
  | some e => simp

/-- **The record at a position** of an assembled program was decoded from a line of the source. -/
theorem decode_of_getElem? {source : Text} {p : Program} (h : assemble source = .ok p) {j : Nat}
    {i : Instruction} (hi : p.instructions[j]? = some i) :
    i.sourceLine ∈ sourceLines source ∧ decode p.labels (4 * j) i.sourceLine = .ok i := by
  obtain ⟨-, rfl⟩ := assemble_eq_ok_iff.mp h
  obtain ⟨hmem, hdecode⟩ := decode_of_getElem?_decodeLines hi
  rw [Int.zero_add] at hdecode
  exact ⟨hmem, hdecode⟩

/-- **Every record** of an assembled program was decoded from a line of the source. -/
theorem exists_decode_of_mem {source : Text} {p : Program} (h : assemble source = .ok p)
    {i : Instruction} (hi : i ∈ p.instructions) :
    ∃ line ∈ sourceLines source, ∃ a, decode p.labels a line = .ok i := by
  obtain ⟨j, hj⟩ := List.getElem?_of_mem hi
  obtain ⟨hmem, hdecode⟩ := decode_of_getElem? h hj
  exact ⟨_, hmem, _, hdecode⟩

/-- **The lines of an assembled program** are the instruction lines of its source, in order. -/
theorem map_sourceLine_instructions {source : Text} {p : Program} (h : assemble source = .ok p) :
    p.instructions.map Instruction.sourceLine =
      (sourceLines source).filter (·.isInstruction) := by
  obtain ⟨herror, rfl⟩ := assemble_eq_ok_iff.mp h
  exact map_sourceLine_decodeLines herror

/-- The labels of an assembled program are those of its source. -/
theorem labels_of_assemble {source : Text} {p : Program} (h : assemble source = .ok p) :
    p.labels = labelTable (sourceLines source) := by
  obtain ⟨-, rfl⟩ := assemble_eq_ok_iff.mp h
  rfl

end Monocycle
