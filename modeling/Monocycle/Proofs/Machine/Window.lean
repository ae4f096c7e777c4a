import Monocycle.DataMemory

/-!
# Windows of the memory

What of the memory is shown are the words at multiples of four in a window of addresses. The
definition counts them out from the first multiple of four on; here they are described by what they
are. A list is the window of a memory between two addresses if it has the multiples of four there,
each with its word and in ascending order, and there is no other such list.

## Main definitions

* `DataMemory.IsWindow`: a list of addresses and words is a window of a memory.

## Main results

* `alignUp_le_iff`: the least multiple of four that is not below an address.
* `isWindow_words`: **the words that are shown are a window.**
* `IsWindow.unique`: a memory has one window between two addresses.
-/

namespace Monocycle.DataMemory

/-- A list is the **window** of a memory from `start` up to, but without, `stop`: it consists of the
multiples of four there, in ascending order and each with the word at it. -/
structure IsWindow (m : DataMemory) (start stop : Int) (window : List (Int × Int)) : Prop where
  ascending : window.Pairwise fun x y => x.1 < y.1
  mem_iff : ∀ a v, (a, v) ∈ window ↔ (4 ∣ a ∧ start ≤ a ∧ a < stop) ∧ v = m.read a

/-! ### Multiples of four -/

theorem dvd_alignUp (a : Int) : 4 ∣ alignUp a := by
  rw [alignUp]
  omega

/-- **The least multiple of four** that is not below an address. -/
theorem alignUp_le_iff {a b : Int} (h : 4 ∣ b) : alignUp a ≤ b ↔ a ≤ b := by
  rw [alignUp]
  omega

/-- The multiples of four from one of them up to an address, counted out. -/
theorem mem_countUp_iff {first last a : Int} (hfirst : 4 ∣ first) :
    (∃ i < ((last - first + 3) / 4).toNat, first + 4 * (i : Int) = a) ↔
      4 ∣ a ∧ first ≤ a ∧ a < last := by
  constructor
  · rintro ⟨i, hi, rfl⟩
    omega
  · rintro ⟨ha, hle, hlt⟩
    exact ⟨((a - first) / 4).toNat, by omega, by omega⟩

/-! ### Windows -/

/-- The words that are shown are in ascending order of their addresses. -/
theorem pairwise_words (m : DataMemory) (start : Int) (stop? : Option Int) :
    (m.words start stop?).Pairwise fun x y => x.1 < y.1 := by
  rw [words, List.pairwise_map]
  refine List.pairwise_lt_range.imp fun hlt => ?_
  dsimp only
  omega

/-- **The words that are shown are a window**: that of the part of the memory which lies between
the two addresses, and without a second one that from the first on. -/
theorem isWindow_words (m : DataMemory) (start : Int) (stop? : Option Int) :
    m.IsWindow (max 0 start) (min (stop?.getD m.size) m.size) (m.words start stop?) where
  ascending := m.pairwise_words start stop?
  mem_iff a v := by
    have hmem : (a, v) ∈ m.words start stop? ↔
        (∃ i < ((min (stop?.getD m.size) m.size - alignUp (max 0 start) + 3) / 4).toNat,
          alignUp (max 0 start) + 4 * (i : Int) = a) ∧ v = m.read a := by
      simp only [words, List.mem_map, List.mem_range, Prod.mk.injEq]
      constructor
      · rintro ⟨i, hi, rfl, rfl⟩
        exact ⟨⟨i, hi, rfl⟩, rfl⟩
      · rintro ⟨⟨i, hi, rfl⟩, rfl⟩
        exact ⟨i, hi, rfl, rfl⟩
    rw [hmem, mem_countUp_iff (dvd_alignUp _)]
    refine and_congr_left' (and_congr_right fun ha => and_congr_left' ?_)
    exact alignUp_le_iff ha

/-- **A memory has one window** between two addresses. -/
theorem IsWindow.unique {m : DataMemory} {start stop : Int} {window window' : List (Int × Int)}
    (h : m.IsWindow start stop window) (h' : m.IsWindow start stop window') :
    window = window' := by
  have hnodup : ∀ {l : List (Int × Int)}, (l.Pairwise fun x y => x.1 < y.1) → l.Nodup := by
    intro l hl
    refine hl.imp fun hlt heq => ?_
    rw [heq] at hlt
    exact Int.lt_irrefl _ hlt
  have hperm : window.Perm window' := by
    refine (List.perm_ext_iff_of_nodup (hnodup h.ascending) (hnodup h'.ascending)).mpr ?_
    rintro ⟨a, v⟩
    rw [h.mem_iff, h'.mem_iff]
  refine hperm.eq_of_pairwise (fun x y _ _ hxy hyx => ?_) h.ascending h'.ascending
  exact absurd hxy (Int.lt_asymm hyx)

end Monocycle.DataMemory
