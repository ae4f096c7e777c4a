import Monocycle.Word

/-!
# The register file

Thirty-two registers holding signed words. Register 0 reads as zero whatever is written to it.

## Main definitions

* `Register`: a register number, with its name in the calling convention (`Register.abiName`);
  `Register.zero` and `Register.framePointer` are two of them.
* `RegisterFile`: the registers, with `read`, `write`, `cleared` and `toList`.
-/

namespace Monocycle

/-- A register number. -/
abbrev Register := Fin 32

namespace Register

/-- Register 0, which is always zero. -/
def zero : Register := 0

/-- The register that holds the frame pointer where a program keeps one. -/
def framePointer : Register := 8

end Register

/-- The names of the registers in the calling convention, by number. -/
def abiNames : List String :=
  ["zero", "ra", "sp", "gp", "tp", "t0", "t1", "t2", "s0", "s1",
   "a0", "a1", "a2", "a3", "a4", "a5", "a6", "a7",
   "s2", "s3", "s4", "s5", "s6", "s7", "s8", "s9",
   "s10", "s11", "t3", "t4", "t5", "t6"]

/-- Every register has a name in the calling convention. -/
theorem length_abiNames : abiNames.length = 32 := rfl

/-- The name of a register in the calling convention. -/
def Register.abiName (r : Register) : String :=
  abiNames.get (r.cast length_abiNames.symm)

/-- **Register file**: one signed word for each register. -/
structure RegisterFile where
  /-- The words by register number. -/
  cells : Vector Int 32
  deriving DecidableEq

namespace RegisterFile

/-- All registers zero. -/
def cleared : RegisterFile :=
  ⟨Vector.replicate 32 0⟩

/-- The word a register holds. -/
def read (f : RegisterFile) (r : Register) : Int :=
  f.cells[r]

/-- Writes a value, wrapped to a word, and then sets register 0 back to zero. -/
def write (f : RegisterFile) (r : Register) (v : Int) : RegisterFile :=
  ⟨(f.cells.set r (Word.wrap v)).set 0 0⟩

/-- The words in the order of the register numbers. -/
def toList (f : RegisterFile) : List Int :=
  f.cells.toList

/-- There are always thirty-two words. -/
@[simp] theorem length_toList (f : RegisterFile) : f.toList.length = 32 := by
  simp [toList]

/-- A cleared register file reads zero everywhere. -/
@[simp] theorem read_cleared (r : Register) : cleared.read r = 0 := by
  simp [cleared, read]

/-- What a register holds after a write: zero for register 0, the wrapped value for the written
one, and for any other what it held before. -/
theorem read_write (f : RegisterFile) (r s : Register) (v : Int) :
    (f.write r v).read s = if s = 0 then 0 else if s = r then Word.wrap v else f.read s := by
  simp only [write, read, Fin.getElem_fin, Vector.getElem_set, Fin.ext_iff, Fin.val_zero]
  by_cases h0 : s.val = 0
  · simp [h0]
  · by_cases hr : s.val = r.val
    · simp [hr, hr ▸ h0, Ne.symm (hr ▸ h0)]
    · simp [h0, hr, Ne.symm h0, Ne.symm hr]

end RegisterFile

end Monocycle
