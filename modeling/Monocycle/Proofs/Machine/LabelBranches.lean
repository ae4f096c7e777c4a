import Monocycle.Proofs.Machine.Assembled

/-!
# Programs that branch only to labels

A branch may take the program counter anywhere, but a program whose branches name labels keeps to
its instructions. The distance of such a branch is counted from its own address to that of the
label, and the branch is fetched at its own address, so that the jump ends exactly at the label.
Labels stand for addresses of the program (`IsAddress`), and so the program counter is always the
address of an instruction or the one behind the last.

## Main definitions

* `SourceLine.isBranch`, `SourceLine.operand?`: the branches among source lines, and the operands
  of a line.
* `BranchesToLabels`: the third operand of every branch of a source is one of some labels.

## Main results

* `exists_label_of_branch`: the distance of a branch leads to its label.
* `Machine.Runs.isAddress_next`: a step keeps the program counter at an address of the program.
* `isAddress_of_branchesToLabels`: **a program that branches only to labels never leaves its
  instructions but by halting.**
-/

namespace Monocycle

/-! ### Branch lines -/

namespace SourceLine

/-- Whether a source line is a branch: its first token is the mnemonic of one. -/
def isBranch (line : SourceLine) : Bool :=
  match (tokens line.body).head?.bind fun word => Shape.ofMnemonic? (Text.lower word) with
  | some (.branch _) => true
  | _ => false

/-- The operand of a line at a position, counted from 1. -/
def operand? (line : SourceLine) (position : Nat) : Option Text :=
  (tokens line.body)[position]?

end SourceLine

/-- A source **branches only to labels** of a table: the third operand of every branch line is one
of them. -/
def BranchesToLabels (source : Text) (labels : LabelTable) : Prop :=
  ∀ line ∈ sourceLines source, line.isBranch = true →
    ∃ name ∈ line.operand? 3, (labels.address? name).isSome = true

/-- Only the mnemonic of a branch makes a record in the format of branches. -/
theorem Decoded.Fits.exists_eq_branch {shape : Shape} {d : Decoded} (h : d.Fits shape)
    (hformat : d.format = .branch) : ∃ code, shape = .branch code := by
  cases h with
  | branch code rs1 rs2 imm => exact ⟨code, rfl⟩
  | _ => cases hformat

/-- The record of a branch was decoded from a branch line. -/
theorem isBranch_of_decode {labels : LabelTable} {address : Int} {line : SourceLine}
    {i : Instruction} (h : decode labels address line = .ok i) (hformat : i.format = .branch) :
    line.isBranch = true := by
  obtain ⟨word, operands, shape, d, htokens, hshape, hd, rfl⟩ := decode_eq_ok_iff.mp h
  obtain ⟨code, rfl⟩ := (fits_of_decodeOperands hd).exists_eq_branch hformat
  rw [SourceLine.isBranch, htokens, List.head?_cons, Option.bind_some, hshape]

/-- **The distance of a branch** whose third operand is a label leads from the branch to the
label. -/
theorem imm_of_decode {labels : LabelTable} {address : Int} {line : SourceLine}
    {i : Instruction} (h : decode labels address line = .ok i) (hformat : i.format = .branch)
    {name : Text} {target : Int} (hname : line.operand? 3 = some name)
    (htarget : labels.address? name = some target) : i.imm = target - address := by
  obtain ⟨word, operands, shape, d, htokens, -, hd, rfl⟩ := decode_eq_ok_iff.mp h
  obtain ⟨code, rfl⟩ := (fits_of_decodeOperands hd).exists_eq_branch hformat
  have hmem : name ∈ tokens line.body := List.mem_of_getElem? hname
  rw [SourceLine.operand?, htokens, List.getElem?_cons_succ] at hname
  obtain ⟨token, htoken, himm⟩ := immediateOf_of_decodeOperands hd
  obtain rfl : name = token := Option.some.inj (hname.symm.trans htoken)
  rw [readImmediate, strip_of_mem_tokens hmem, htarget] at himm
  exact (Except.ok.inj himm).symm

section

variable {source : Text} {p : Program}

/-- **Every branch leads to its label** in a program that branches only to labels. -/
theorem exists_label_of_branch (h : assemble source = .ok p)
    (hbranches : BranchesToLabels source p.labels) {i : Instruction} (hi : i ∈ p.instructions)
    (hformat : i.format = .branch) :
    ∃ name target, i.sourceLine ∈ sourceLines source ∧ i.sourceLine.operand? 3 = some name ∧
      p.labels.address? name = some target ∧ i.imm = target - i.address := by
  obtain ⟨j, hj⟩ := List.getElem?_of_mem hi
  obtain ⟨hline, hdecode⟩ := decode_of_getElem? h hj
  obtain ⟨name, hname, hlabel⟩ := hbranches _ hline (isBranch_of_decode hdecode hformat)
  obtain ⟨target, htarget⟩ := Option.isSome_iff_exists.mp hlabel
  refine ⟨name, target, hline, hname, htarget, ?_⟩
  rw [imm_of_decode hdecode hformat hname htarget, address_of_getElem? h hj]

end

/-! ### Where the program counter goes -/

namespace Machine

/-- **A branch** that is fetched is carried out. -/
theorem next_of_branch {m : Machine} {i : Instruction} (hfetch : m.fetch? = some i)
    (hformat : i.format = .branch) : m.next = m.settle ⟨m.branch i, none, none⟩ :=
  (step_of_execute hfetch (by simp [execute, hformat])).1

namespace Runs

variable {source : Text} {p : Program} {size : Int} {m : Machine}

/-- **A step** keeps the program counter at an address of the program. -/
theorem isAddress_next (hassemble : assemble source = .ok p)
    (hbranches : BranchesToLabels source p.labels) (h : Runs p size m)
    (hpc : IsAddress p.instructions.length m.pc) : IsAddress p.instructions.length m.next.pc := by
  obtain ⟨-, hs⟩ | ⟨-, -, hs⟩ | ⟨i, e, -, -, hs⟩ | ⟨i, effect, hf, he, hs⟩ := step_cases m <;>
    rw [Machine.next, hs]
  · exact hpc
  · exact hpc
  · exact hpc
  · obtain ⟨hi, haddress⟩ := (h.fetch?_eq_some_iff hassemble).mp hf
    obtain ⟨hlow, hhigh⟩ := pcInRange_iff.mp (Machine.fetch?_eq_some_iff.mp hf).1
    rw [h.endPc_eq] at hhigh
    obtain ⟨-, -, haligned⟩ := hpc
    have hnext : IsAddress p.instructions.length (m.pc + 4) := ⟨by omega, by omega, by omega⟩
    rw [pc_settle]
    obtain hpc' | ⟨hformat, rfl⟩ := pc_execute he
    · rw [hpc']
      exact hnext
    · rw [pc_branch]
      split
      · obtain ⟨name, target, -, -, htarget, himm⟩ :=
          exists_label_of_branch hassemble hbranches hi hformat
        split
        · rw [h.endPc_eq]
          exact ⟨by omega, by omega, by omega⟩
        · rw [himm, haddress, show m.pc + (target - m.pc) = target by omega]
          exact isAddress_of_address? hassemble htarget
      · exact hnext

/-- **A run** keeps the program counter at an address of the program. -/
theorem isAddress_iterate_next (hassemble : assemble source = .ok p)
    (hbranches : BranchesToLabels source p.labels) (h : Runs p size m)
    (hpc : IsAddress p.instructions.length m.pc) (n : Nat) :
    IsAddress p.instructions.length (Machine.next^[n] m).pc := by
  induction n with
  | zero => exact hpc
  | succ n ih =>
      rw [Function.iterate_succ_apply']
      exact isAddress_next hassemble hbranches (h.iterate_next n) ih

/-- **A taken branch** leads to its label and halts there if the label is behind the program; a
branch to itself halts behind the program. -/
theorem next_of_taken (hassemble : assemble source = .ok p) (h : Runs p size m) {i : Instruction}
    (hi : i ∈ p.instructions) (hpc : i.address = m.pc) (hformat : i.format = .branch)
    (htaken : m.branchTaken i = true) {name : Text} {target : Int}
    (htarget : p.labels.address? name = some target) (himm : i.imm = target - i.address) :
    m.next.pc = (if target = i.address then 4 * (p.instructions.length : Int) else target) ∧
      (m.next.phase = .halted ↔ m.next.pc = 4 * p.instructions.length) := by
  have hfetch : m.fetch? = some i := (h.fetch?_eq_some_iff hassemble).mpr ⟨hi, hpc⟩
  have hnextPc : m.next.pc =
      if target = i.address then 4 * (p.instructions.length : Int) else target := by
    rw [next_of_branch hfetch hformat, pc_settle, pc_branch, if_pos htaken, himm, ← hpc,
      h.endPc_eq]
    split <;> split <;> omega
  obtain ⟨hlow, hhigh, -⟩ := isAddress_of_address? hassemble htarget
  have hsize : 0 < m.next.program.size := by
    rw [h.next.program, List.size_toArray]
    exact List.length_pos_of_mem hi
  refine ⟨hnextPc, ?_⟩
  rw [h.next.controlled.halted_iff (Array.size_pos_iff.mp hsize), ← Bool.not_eq_true,
    pcInRange_iff, h.next.endPc_eq, hnextPc]
  split <;> omega

end Runs

end Machine

/-! ### Programs that branch only to labels -/

/-- **A program that branches only to labels never leaves its instructions but by halting.**
Whatever machine it is loaded into, after any number of steps the program counter is an address of
the program, and no step finds it between two instructions. A branch at the program counter has a
label as its third operand. If it is taken, it leads to the address of that label, and the machine
halts exactly if that is the one behind the program; if it is taken to its own address, the machine
halts behind the program. -/
theorem isAddress_of_branchesToLabels {source : Text} {p : Program} (h : assemble source = .ok p)
    (hbranches : BranchesToLabels source p.labels) (m₀ : Machine) (n : Nat) :
    let m := Machine.next^[n] (m₀.load p.instructions)
    let last : Int := 4 * p.instructions.length
    (m.pc % 4 = 0 ∧ 0 ≤ m.pc ∧ m.pc ≤ last) ∧
    (∀ pc, m.outcome ≠ .failed (.noInstruction pc)) ∧
    ∀ i ∈ p.instructions, i.address = m.pc → i.format = .branch →
      ∃ name target, i.sourceLine ∈ sourceLines source ∧ i.sourceLine.operand? 3 = some name ∧
        p.labels.address? name = some target ∧
        (m.branchTaken i = true →
          (target ≠ i.address →
            m.next.pc = target ∧ (m.next.phase = .halted ↔ target = last)) ∧
          (target = i.address → m.next.pc = last ∧ m.next.phase = .halted)) := by
  intro m last
  have hruns : Machine.Runs p m₀.memory.size m := (Machine.Runs.load m₀ p).iterate_next n
  obtain ⟨hlow, hhigh, haligned⟩ : IsAddress p.instructions.length m.pc :=
    Machine.Runs.isAddress_iterate_next h hbranches (Machine.Runs.load m₀ p)
      ⟨Int.le_refl 0, Int.mul_nonneg (by decide) (Int.natCast_nonneg _), rfl⟩ n
  refine ⟨⟨haligned, hlow, hhigh⟩, fun pc he => ?_, fun i hi hpc hformat => ?_⟩
  · obtain ⟨i, -, -, -, -, heq⟩ | ⟨hbetween, -⟩ := hruns.failed_cases h he
    · cases heq
    · exact hbetween haligned
  · obtain ⟨name, target, hline, hname, htarget, himm⟩ :=
      exists_label_of_branch h hbranches hi hformat
    refine ⟨name, target, hline, hname, htarget, fun htaken => ?_⟩
    obtain ⟨hnextPc, hhalted⟩ := hruns.next_of_taken h hi hpc hformat htaken htarget himm
    constructor
    · intro hne
      rw [if_neg hne] at hnextPc
      rw [hnextPc] at hhalted
      exact ⟨hnextPc, hhalted⟩
    · intro heq
      rw [if_pos heq] at hnextPc
      exact ⟨hnextPc, hhalted.mpr hnextPc⟩

/-- A loop with a label behind the last instruction. -/
theorem isAddress_of_branchesToLabels_loop :
    let source := "loop: beq x1, x0, end\nbne x0, x0, loop\nend:".toList
    ∃ p, assemble source = .ok p ∧ BranchesToLabels source p.labels ∧
      let m := Machine.next^[1] ((Machine.ofMemorySize 16).load p.instructions)
      m.pc % 4 = 0 ∧ 0 ≤ m.pc ∧ m.pc ≤ 4 * p.instructions.length := by
  intro source
  obtain ⟨p, hp, hbranches⟩ : ∃ p, assemble source = .ok p ∧ BranchesToLabels source p.labels := by
    refine ⟨_, rfl, ?_⟩
    unfold BranchesToLabels
    decide
  exact ⟨p, hp, hbranches, (isAddress_of_branchesToLabels hp hbranches _ 1).1⟩

end Monocycle
