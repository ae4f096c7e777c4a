import Monocycle.Proofs.Assembly.Layout

/-!
# Lines in another place

What becomes of lines that stand elsewhere in a source: under other numbers, and at addresses that
are all farther by the same distance. A record takes over its new number and its new address, and
nothing else of it changes. In particular its immediate stays: it is a literal, which says the same
everywhere, or the distance to a label, and the label has moved by as much as the record.

The last point is where the label tables come in. Of the tokens of a line the table is asked about
one at most, the operand that is due where a mnemonic takes an immediate
(`SourceLine.immediateOperand?`). So long as the table of the new place gives this token the old
address farther by the distance, and no address if it had none, the line does not see where it is.

## Main definitions

* `SourceLine.renumber`, `Instruction.relocate`, `Instruction.renumber`, `AssemblyError.renumber`:
  lines, records and errors in another place.
* `LabelTable.shift`: the labels of lines that begin farther on.
* `SourceLine.immediateOperand?`: the operand of a line that may be a label.

## Main results

* `decode_relocate`: a line decodes in another place as it did.
* `decodeLines_relocate`: **the second pass does not depend on the place of the lines.**
* `labelDefinitions_relocate`: nor does the first.
-/

namespace Monocycle

/-! ### Lines, records and errors -/

/-- A line under another number. -/
def SourceLine.renumber (f : Nat → Nat) (line : SourceLine) : SourceLine :=
  { line with number := f line.number }

/-- A record in another place: its address is farther by `d`, and its line has another number. -/
def Instruction.relocate (d : Int) (f : Nat → Nat) (i : Instruction) : Instruction :=
  { i with address := i.address + d, line := f i.line }

/-- A record from a line under another number. -/
def Instruction.renumber (f : Nat → Nat) (i : Instruction) : Instruction :=
  { i with line := f i.line }

/-- An error in a line under another number. -/
def AssemblyError.renumber (f : Nat → Nat) : AssemblyError → AssemblyError
  | .parse e => .parse { e with site? := e.site?.map fun site => { site with line := f site.line } }
  | .tooManyDigits count => .tooManyDigits count

/-- Labels with addresses that are all farther by `d`. -/
def LabelTable.shift (d : Int) (table : LabelTable) : LabelTable :=
  table.map fun entry => (entry.1, entry.2 + d)

/-- The **operand of a line that may be a label**: the third, if its mnemonic takes an immediate
there. -/
def SourceLine.immediateOperand? (line : SourceLine) : Option Text :=
  match tokens line.body with
  | [] => none
  | word :: operands =>
    match Shape.ofMnemonic? (Text.lower word) with
    | some (.immediate _) | some (.branch _) => operands[2]?
    | _ => none

section

variable {f : Nat → Nat} {d : Int}

/-- Under another number a line has the label it has. -/
@[simp] theorem SourceLine.label?_renumber (line : SourceLine) :
    (line.renumber f).label? = line.label? := rfl

/-- Under another number a line says what it says. -/
@[simp] theorem SourceLine.body_renumber (line : SourceLine) :
    (line.renumber f).body = line.body := rfl

/-- Under another number a line takes the place it takes. -/
@[simp] theorem SourceLine.isInstruction_renumber (line : SourceLine) :
    (line.renumber f).isInstruction = line.isInstruction := rfl

/-- Locating an error and giving its line another number is locating it in that line. -/
theorem ReadError.locate_renumber (e : ReadError) (number : Nat) (text : Text)
    (mnemonic? : Option Text) :
    (e.locate ⟨number, text, mnemonic?⟩).renumber f = e.locate ⟨f number, text, mnemonic?⟩ := by
  cases e with
  | fault _ => rfl
  | tooManyDigits _ => rfl

/-- Under its own number a line is the line it is. -/
@[simp] theorem SourceLine.renumber_id (line : SourceLine) : line.renumber id = line := rfl

/-- A record that is not moved is from a line under another number. -/
@[simp] theorem Instruction.relocate_zero (i : Instruction) : i.relocate 0 f = i.renumber f := by
  rw [relocate, Int.add_zero, renumber]

/-- From a line under its own number a record is the record it is. -/
@[simp] theorem Instruction.renumber_id (i : Instruction) : i.renumber id = i := rfl

/-- With its own number an error is the error it is. -/
@[simp] theorem AssemblyError.renumber_id (e : AssemblyError) : e.renumber id = e := by
  cases e with
  | parse e => simp [renumber]
  | tooManyDigits count => rfl

/-- A label that is looked up among shifted ones is found farther on. -/
theorem LabelTable.address?_shift (table : LabelTable) (name : Text) :
    (table.shift d).address? name = (table.address? name).map (· + d) := by
  induction table with
  | nil => rfl
  | cons entry rest ih =>
      obtain ⟨known, address⟩ := entry
      rw [shift, List.map_cons, address?, address?, List.lookup_cons, List.lookup_cons]
      cases hname : name == known with
      | true => rfl
      | false => exact ih

end

/-! ### The second pass -/

section

variable {f : Nat → Nat} {d address : Int} {labels labels' : LabelTable}

/-- **An immediate** stays if the label it may be moves with the instruction. -/
theorem readImmediate_relocate {token : Text}
    (h : labels'.address? (Text.strip token) =
      (labels.address? (Text.strip token)).map (· + d)) :
    readImmediate labels' (address + d) token = readImmediate labels address token := by
  rw [readImmediate, readImmediate, h]
  cases labels.address? (Text.strip token) with
  | none => rfl
  | some target =>
      have hdistance : target + d - (address + d) = target - address := by omega
      simp only [Option.map_some, hdistance]

/-- The third operand of a shape that takes an immediate is the only one that can be a label. -/
theorem decodeOperands_relocate {op : Text} {operands : List Text} {shape : Shape}
    (h : ∀ code, shape = .immediate code ∨ shape = .branch code → ∀ token ∈ operands[2]?,
      readImmediate labels' (address + d) token = readImmediate labels address token) :
    decodeOperands labels' (address + d) op operands shape =
      decodeOperands labels address op operands shape := by
  have hthird : ∀ code, shape = .immediate code ∨ shape = .branch code →
      (operandAt op operands 3 >>= readImmediate labels' (address + d)) =
        (operandAt op operands 3 >>= readImmediate labels address) := by
    intro code hcode
    cases htoken : operands[2]? with
    | none =>
        have hmissing : operandAt op operands 3 = .error (.fault (.missingOperand 3 op)) := by
          simp only [operandAt, Nat.reduceSub, htoken]
        rw [hmissing]
        rfl
    | some token =>
        have hfound : operandAt op operands 3 = .ok token := by
          simp only [operandAt, Nat.reduceSub, htoken]
        rw [hfound]
        exact h code hcode token htoken
  cases shape with
  | register code => rfl
  | load => rfl
  | store => rfl
  | immediate code =>
      have hread := hthird code (.inl rfl)
      simp only [decodeOperands, ← bind_assoc, hread]
  | branch code =>
      have hread := hthird code (.inr rfl)
      simp only [decodeOperands, ← bind_assoc, hread]

/-- **A line decodes in another place** as it did: into the same record there, or with the same
error. -/
theorem decode_relocate {line : SourceLine}
    (h : ∀ token ∈ line.immediateOperand?,
      labels'.address? token = (labels.address? token).map (· + d)) :
    decode labels' (address + d) (line.renumber f) =
      ((decode labels address line).map (·.relocate d f)).mapError (·.renumber f) := by
  rw [decode, decode, SourceLine.body_renumber]
  cases htokens : tokens line.body with
  | nil => rfl
  | cons word operands =>
      dsimp only
      cases hshape : Shape.ofMnemonic? (Text.lower word) with
      | none => rfl
      | some shape =>
          have hoperands : decodeOperands labels' (address + d) (Text.lower word) operands shape =
              decodeOperands labels address (Text.lower word) operands shape := by
            refine decodeOperands_relocate fun code hcode token htoken => ?_
            have hmem : token ∈ tokens line.body :=
              htokens ▸ List.mem_cons_of_mem _ (List.mem_of_getElem? htoken)
            refine readImmediate_relocate ?_
            rw [strip_of_mem_tokens hmem]
            refine h token ?_
            rw [SourceLine.immediateOperand?, htokens]
            rcases hcode with rfl | rfl
            · simpa only [hshape] using htoken
            · simpa only [hshape] using htoken
          dsimp only
          rw [hoperands]
          cases decodeOperands labels address (Text.lower word) operands shape with
          | error e => exact congrArg Except.error (ReadError.locate_renumber e _ _ _).symm
          | ok decoded => rfl

/-- **The second pass does not depend on the place of the lines**: it makes the same records there,
up to the same error. -/
theorem decodeLines_relocate {ls : List SourceLine}
    (h : ∀ line ∈ ls, ∀ token ∈ line.immediateOperand?,
      labels'.address? token = (labels.address? token).map (· + d)) :
    decodeLines labels' (address + d) (ls.map (·.renumber f)) =
      ((decodeLines labels address ls).1.map (·.relocate d f),
        (decodeLines labels address ls).2.map (·.renumber f)) := by
  induction ls generalizing address with
  | nil => rfl
  | cons line rest ih =>
      have hline : decode labels' (address + d) (line.renumber f) =
          ((decode labels address line).map (·.relocate d f)).mapError (·.renumber f) :=
        decode_relocate (h line List.mem_cons_self)
      have hrest : ∀ {a : Int}, decodeLines labels' (a + d) (rest.map (·.renumber f)) =
          ((decodeLines labels a rest).1.map (·.relocate d f),
            (decodeLines labels a rest).2.map (·.renumber f)) :=
        ih fun line' hline' => h line' (List.mem_cons_of_mem _ hline')
      have hnext : address + d + 4 = address + 4 + d := by omega
      rw [List.map_cons, decodeLines, decodeLines, SourceLine.isInstruction_renumber]
      split
      · rw [hline, hnext, hrest]
        cases decode labels address line with
        | error e => rfl
        | ok i => rfl
      · exact hrest

/-- **The second pass does not depend on the numbers of the lines**, and asks the label table only
for the operands that may be labels. -/
theorem decodeLines_renumber {ls : List SourceLine}
    (h : ∀ line ∈ ls, ∀ token ∈ line.immediateOperand?,
      labels'.address? token = labels.address? token) :
    decodeLines labels' address (ls.map (·.renumber f)) =
      ((decodeLines labels address ls).1.map (·.renumber f),
        (decodeLines labels address ls).2.map (·.renumber f)) := by
  have hunmoved : ∀ line ∈ ls, ∀ token ∈ line.immediateOperand?,
      labels'.address? token = (labels.address? token).map (· + 0) := by
    simpa only [Int.add_zero, Option.map_id'] using h
  have hsame : decodeLines labels' (address + 0) (ls.map (·.renumber f)) =
      ((decodeLines labels address ls).1.map (·.relocate 0 f),
        (decodeLines labels address ls).2.map (·.renumber f)) := decodeLines_relocate hunmoved
  simpa only [Int.add_zero, Instruction.relocate_zero] using hsame

/-- The second pass under the numbers that the lines have. -/
theorem decodeLines_congr {ls : List SourceLine}
    (h : ∀ line ∈ ls, ∀ token ∈ line.immediateOperand?,
      labels'.address? token = labels.address? token) :
    decodeLines labels' address ls = decodeLines labels address ls := by
  have hsame : decodeLines labels' address (ls.map (·.renumber id)) =
      ((decodeLines labels address ls).1.map (·.renumber id),
        (decodeLines labels address ls).2.map (·.renumber id)) := decodeLines_renumber h
  simpa using hsame

end

/-! ### The first pass -/

/-- **The definitions** of lines in another place are those of the lines, farther by the
distance. -/
theorem labelDefinitions_relocate (f : Nat → Nat) (address d : Int) (ls : List SourceLine) :
    labelDefinitions (address + d) (ls.map (·.renumber f)) =
      (labelDefinitions address ls).map fun entry => (entry.1, entry.2 + d) := by
  induction ls generalizing address with
  | nil => rfl
  | cons line rest ih =>
      have hnext : (line.renumber f).nextAddress (address + d) = line.nextAddress address + d := by
        rw [SourceLine.nextAddress, SourceLine.nextAddress, SourceLine.isInstruction_renumber]
        split
        · omega
        · rfl
      rw [List.map_cons, labelDefinitions, labelDefinitions, SourceLine.label?_renumber, hnext, ih]
      cases line.label? with
      | none => rfl
      | some name => rfl

namespace LabelTable

/-- A definition farther on among shifted labels. -/
theorem define_shift (d : Int) (table : LabelTable) (name : Text) (address : Int) :
    (table.shift d).define name (address + d) = (table.define name address).shift d := by
  induction table with
  | nil => rfl
  | cons entry rest ih =>
      obtain ⟨known, value⟩ := entry
      rw [define]
      split
      · next hname =>
          rw [shift, List.map_cons, define, if_pos hname]
          rfl
      · next hname =>
          rw [shift, List.map_cons, define, if_neg hname]
          exact congrArg _ ih

/-- Definitions farther on make shifted labels. -/
theorem foldl_define_shift (d : Int) (definitions : List (Text × Int)) (table : LabelTable) :
    (definitions.map fun entry => (entry.1, entry.2 + d)).foldl
        (fun table entry => table.define entry.1 entry.2) (table.shift d) =
      (definitions.foldl (fun table entry => table.define entry.1 entry.2) table).shift d := by
  induction definitions generalizing table with
  | nil => rfl
  | cons entry rest ih =>
      rw [List.map_cons, List.foldl_cons, List.foldl_cons, define_shift, ih]

end LabelTable

/-- Numbers make no difference to the labels of lines. -/
theorem labelTable_renumber (f : Nat → Nat) (ls : List SourceLine) :
    labelTable (ls.map (·.renumber f)) = labelTable ls := by
  have hdefinitions := labelDefinitions_relocate f 0 0 ls
  simp only [Int.add_zero, List.map_id'] at hdefinitions
  rw [labelTable, labelTable, hdefinitions]

end Monocycle
