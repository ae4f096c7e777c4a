/-!
# Signed 32-bit words

Registers, memory slots, immediates and effective addresses are integers kept in the signed
32-bit range. Arithmetic is done on integers of any size, and `Word.wrap` brings a result back
into the range; `Word.unsigned` gives the reading of the same 32 bits without a sign.

## Main definitions

* `Word.wrap`: the representative of an integer modulo `2 ^ 32` in `[-2 ^ 31, 2 ^ 31)`.
* `Word.unsigned`: the representative in `[0, 2 ^ 32)`.
* `Word.InRange`: being one of the values `Word.wrap` produces.
-/

namespace Monocycle.Word

/-- **Signed wrap**: the integer in `[-2 ^ 31, 2 ^ 31)` congruent to `v` modulo `2 ^ 32`. -/
def wrap (v : Int) : Int :=
  Int.bmod v 4294967296

/-- **Unsigned reading**: the integer in `[0, 2 ^ 32)` congruent to `v` modulo `2 ^ 32`. -/
def unsigned (v : Int) : Int :=
  v % 4294967296

/-- The integers a signed 32-bit word can hold: those in `[-2 ^ 31, 2 ^ 31)`. -/
def InRange (v : Int) : Prop :=
  -2147483648 ≤ v ∧ v < 2147483648

instance (v : Int) : Decidable (InRange v) :=
  inferInstanceAs (Decidable (_ ∧ _))

/-- Wrapping always lands in the signed range. -/
theorem inRange_wrap (v : Int) : InRange (wrap v) := by
  rw [InRange, wrap]
  rw [Int.bmod_def]
  split <;> omega

/-- An integer that is already in the signed range is left alone. -/
theorem wrap_of_inRange {v : Int} (h : InRange v) : wrap v = v := by
  rw [InRange] at h
  rw [wrap]
  rw [Int.bmod_def]
  split <;> omega

/-- Wrapping a second time changes nothing. -/
@[simp] theorem wrap_wrap (v : Int) : wrap (wrap v) = wrap v :=
  wrap_of_inRange (inRange_wrap v)

/-- Zero is its own representative. -/
@[simp] theorem wrap_zero : wrap 0 = 0 := rfl

/-- The unsigned reading depends only on the 32 bits, which wrapping keeps. -/
@[simp] theorem unsigned_wrap (v : Int) : unsigned (wrap v) = unsigned v := by
  rw [unsigned, unsigned, wrap]
  rw [Int.bmod_def]
  split <;> omega

/-- The unsigned reading is never negative. -/
theorem unsigned_nonneg (v : Int) : 0 ≤ unsigned v := by
  rw [unsigned]
  omega

end Monocycle.Word
