import Monocycle.Word

/-!
# Data memory

A memory of a given size, addressed by byte. Each address has a slot of its own that holds a
whole signed word; programs that keep to multiples of four therefore see an ordinary memory of
words. Reading outside the memory gives zero.

## Main definitions

* `DataMemory`, `DataMemory.ofSize`: a memory and the empty memory of a size.
* `DataMemory.read`, `DataMemory.write`, `DataMemory.cleared`: access to the slots.
* `DataMemory.words`: the slots at multiples of four in a window of addresses.
-/

namespace Monocycle

/-- **Data memory**: its size as asked for, which may be negative, and one word for each address
from zero up to it. -/
structure DataMemory where
  /-- The first address beyond the memory. -/
  size : Int
  /-- The words by address. -/
  slots : Array Int
  deriving DecidableEq

namespace DataMemory

/-- The memory of a size with all slots zero; a size that is not positive leaves no slot. -/
def ofSize (size : Int) : DataMemory :=
  ⟨size, Array.replicate size.toNat 0⟩

/-- Whether an address lies in the memory. -/
def inRange (m : DataMemory) (address : Int) : Bool :=
  0 ≤ address && address < m.size

/-- The word at an address, zero outside the memory. -/
def read (m : DataMemory) (address : Int) : Int :=
  if m.inRange address then m.slots.getD address.toNat 0 else 0

/-- Writes a value, wrapped to a word, at an address; outside the memory nothing happens. -/
def write (m : DataMemory) (address v : Int) : DataMemory :=
  if m.inRange address then ⟨m.size, m.slots.setIfInBounds address.toNat (Word.wrap v)⟩ else m

/-- The memory of the same size with all slots zero. -/
def cleared (m : DataMemory) : DataMemory :=
  ofSize m.size

/-- The least multiple of four that is not below `a`. -/
def alignUp (a : Int) : Int :=
  a + (-a) % 4

/-- **Word view**: the addresses that are multiples of four from `start` up to, but without,
`stop`, in ascending order, each with its word. The window is cut to the memory, and without a
`stop` it reaches to the end. -/
def words (m : DataMemory) (start : Int) (stop? : Option Int) : List (Int × Int) :=
  let first := alignUp (max 0 start)
  let last := min (stop?.getD m.size) m.size
  (List.range ((last - first + 3) / 4).toNat).map fun (i : Nat) =>
    let address := first + 4 * (i : Int)
    (address, m.read address)

/-- The memory reaches from address zero up to its size. -/
theorem inRange_iff {m : DataMemory} {address : Int} :
    m.inRange address = true ↔ 0 ≤ address ∧ address < m.size := by
  simp [inRange]

/-- The size is what was asked for. -/
@[simp] theorem size_ofSize (size : Int) : (ofSize size).size = size := rfl

/-- Writing keeps the size. -/
@[simp] theorem size_write (m : DataMemory) (address v : Int) :
    (m.write address v).size = m.size := by
  rw [write]
  split <;> rfl

/-- Clearing keeps the size. -/
@[simp] theorem size_cleared (m : DataMemory) : m.cleared.size = m.size := rfl

/-- Writing keeps the number of slots. -/
@[simp] theorem size_slots_write (m : DataMemory) (address v : Int) :
    (m.write address v).slots.size = m.slots.size := by
  rw [write]
  split <;> simp

/-- A memory is **sized** when it has one slot for each address in it. -/
def Sized (m : DataMemory) : Prop :=
  m.slots.size = m.size.toNat

/-- An empty memory has its slots. -/
theorem sized_ofSize (size : Int) : (ofSize size).Sized := by
  simp [Sized, ofSize]

/-- Writing keeps a memory sized. -/
theorem Sized.write {m : DataMemory} (h : m.Sized) (address v : Int) :
    (m.write address v).Sized := by
  simpa [Sized] using h

/-- An empty memory reads zero everywhere. -/
@[simp] theorem read_ofSize (size address : Int) : (ofSize size).read address = 0 := by
  rw [read, ofSize]
  split
  · simp only [Array.getD_eq_getD_getElem?, Array.getElem?_replicate]
    split <;> rfl
  · rfl

/-- What an address holds after a write inside the memory: the wrapped value at the address
written, and what it held before at any other. -/
theorem Sized.read_write {m : DataMemory} (h : m.Sized) {address : Int}
    (hin : m.inRange address = true) (v other : Int) :
    (m.write address v).read other = if other = address then Word.wrap v else m.read other := by
  have hwrite : m.write address v =
      ⟨m.size, m.slots.setIfInBounds address.toNat (Word.wrap v)⟩ := by
    simp [DataMemory.write, hin]
  have hrange : ∀ a, inRange ⟨m.size, m.slots.setIfInBounds address.toNat (Word.wrap v)⟩ a =
      m.inRange a := fun _ => rfl
  have hbounds : ∀ a, m.inRange a = true → 0 ≤ a ∧ a.toNat < m.slots.size := by
    intro a ha
    have hin := inRange_iff.mp ha
    rw [Sized] at h
    omega
  rw [hwrite, read, read, hrange]
  by_cases heq : other = address
  · subst heq
    have := (hbounds other hin).2
    simp [hin, this]
  · by_cases ho : m.inRange other = true
    · have hne : address.toNat ≠ other.toNat := by
        have := hbounds other ho
        have := hbounds address hin
        omega
      simp [ho, heq, hne]
    · simp [ho, heq]

end DataMemory

end Monocycle
