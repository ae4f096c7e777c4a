import Mathlib.Data.ENat.Lattice
import Mathlib.Order.CompletePartialOrder
import Monocycle.Proofs.Machine.Step

/-!
# How far a machine goes

A machine that is stepped again and again carries out instructions until it halts, fails or finds
nothing left to carry out, or for ever. `Machine.stretch` is the number of instructions it carries
out until then, `⊤` if there is no end. An instruction that halts the machine is counted, and it is
the last one: whoever drives the machine looks at its phase after every step.

The stretch is found step by step. It is zero where nothing is carried out, one where the
instruction halts the machine, and one more than that of the next machine otherwise.

## Main results

* `Machine.natCast_le_stretch_iff`: the stretch is at least `k` if the machine lasts for `k` steps.
* `Machine.stretch_of_not_isExecuted`, `Machine.stretch_of_isHalted`, `Machine.stretch_of_goes_on`:
  the stretch step by step.
-/

namespace Monocycle.Machine

/-- A machine **lasts** for `k` steps: each of them carries an instruction out, and none before the
last halts the machine. -/
structure Lasts (m : Machine) (k : Nat) : Prop where
  executes : ∀ i < k, (next^[i] m).outcome.isExecuted = true
  not_halted : ∀ i < k, i ≠ 0 → (next^[i] m).isHalted = false

/-- The **stretch** of a machine: how many steps it lasts for. -/
noncomputable def stretch (m : Machine) : ℕ∞ :=
  sSup {n | ∃ k : ℕ, m.Lasts k ∧ (k : ℕ∞) = n}

variable {m : Machine} {j k : Nat}

/-! ### Lasting -/

theorem lasts_zero (m : Machine) : m.Lasts 0 :=
  ⟨fun _ hi => absurd hi (Nat.not_lt_zero _), fun _ hi => absurd hi (Nat.not_lt_zero _)⟩

/-- A machine that lasts for some steps lasts for fewer. -/
theorem Lasts.mono (h : m.Lasts k) (hle : j ≤ k) : m.Lasts j :=
  ⟨fun i hi => h.executes i (Nat.lt_of_lt_of_le hi hle),
    fun i hi => h.not_halted i (Nat.lt_of_lt_of_le hi hle)⟩

/-- A machine lasts for one step exactly if the step carries an instruction out. -/
theorem lasts_one_iff : m.Lasts 1 ↔ m.outcome.isExecuted = true := by
  refine ⟨fun h => h.executes 0 Nat.one_pos, fun h => ⟨fun i hi => ?_, fun i hi hne => ?_⟩⟩
  · rwa [Nat.lt_one_iff.mp hi]
  · exact absurd (Nat.lt_one_iff.mp hi) hne

/-- A machine lasts for more than one step exactly if the first carries an instruction out without
halting the machine, and the next machine lasts for the others. -/
theorem lasts_succ_succ_iff :
    m.Lasts (k + 2) ↔
      m.outcome.isExecuted = true ∧ m.next.isHalted = false ∧ m.next.Lasts (k + 1) := by
  constructor
  · intro h
    refine ⟨h.executes 0 (Nat.succ_pos _), h.not_halted 1 (by omega) Nat.one_ne_zero, ?_⟩
    exact ⟨fun i hi => h.executes (i + 1) (by omega),
      fun i hi _ => h.not_halted (i + 1) (by omega) (Nat.succ_ne_zero i)⟩
  · rintro ⟨hexecuted, hgoes, hlater⟩
    refine ⟨fun i hi => ?_, fun i hi hne => ?_⟩
    · cases i with
      | zero => exact hexecuted
      | succ i => exact hlater.executes i (by omega)
    · obtain ⟨i, rfl⟩ := Nat.exists_eq_succ_of_ne_zero hne
      cases i with
      | zero => exact hgoes
      | succ i => exact hlater.not_halted (i + 1) (by omega) (Nat.succ_ne_zero i)

/-! ### The stretch -/

/-- **The stretch is at least `k`** exactly if the machine lasts for `k` steps. -/
theorem natCast_le_stretch_iff : (k : ℕ∞) ≤ m.stretch ↔ m.Lasts k := by
  refine ⟨fun h => ?_, fun h => le_sSup ⟨k, h, rfl⟩⟩
  cases k with
  | zero => exact lasts_zero m
  | succ k =>
      -- a machine that does not last for `k + 1` steps has a stretch of `k` at most
      by_contra hno
      have hle : m.stretch ≤ (k : ℕ∞) := by
        refine sSup_le ?_
        rintro n ⟨j, hj, rfl⟩
        refine Nat.cast_le.mpr (Nat.le_of_not_lt fun hlt => hno (hj.mono hlt))
      have hsucc : ((k + 1 : ℕ) : ℕ∞) ≤ (k : ℕ∞) := h.trans hle
      exact absurd (Nat.cast_le.mp hsucc) (Nat.not_succ_le_self k)

/-- A machine that carries nothing out has no stretch. -/
theorem stretch_of_not_isExecuted (h : m.outcome.isExecuted = false) : m.stretch = 0 := by
  refine ENat.eq_of_forall_natCast_le_iff fun k => ?_
  rw [natCast_le_stretch_iff]
  cases k with
  | zero => exact iff_of_true (lasts_zero m) (Nat.cast_zero.le)
  | succ k =>
      refine iff_of_false (fun hlasts => ?_) (fun hle => ?_)
      · exact Bool.noConfusion (h.symm.trans (hlasts.executes 0 (Nat.succ_pos k)))
      · exact absurd (Nat.cast_le.mp hle) (Nat.not_succ_le_zero k)

/-- A machine that is halted by its next instruction has a stretch of one. -/
theorem stretch_of_isHalted (h : m.outcome.isExecuted = true) (hhalted : m.next.isHalted = true) :
    m.stretch = 1 := by
  refine ENat.eq_of_forall_natCast_le_iff fun k => ?_
  rw [natCast_le_stretch_iff, ← Nat.cast_one, Nat.cast_le]
  constructor
  · intro hlasts
    by_contra hgt
    have hgoes := (lasts_succ_succ_iff.mp (hlasts.mono (j := 0 + 2) (by omega))).2.1
    exact Bool.noConfusion (hgoes.symm.trans hhalted)
  · exact (lasts_one_iff.mpr h).mono

/-- **The stretch of a machine that goes on** is one more than that of the next machine. -/
theorem stretch_of_goes_on (h : m.outcome.isExecuted = true) (hgoes : m.next.isHalted = false) :
    m.stretch = m.next.stretch + 1 := by
  refine ENat.eq_of_forall_natCast_le_iff fun k => ?_
  rw [natCast_le_stretch_iff]
  cases k with
  | zero => exact iff_of_true (lasts_zero m) (Nat.cast_zero.trans_le zero_le)
  | succ k =>
      rw [Nat.cast_succ, ENat.add_le_add_iff_right ENat.one_ne_top,
        natCast_le_stretch_iff]
      cases k with
      | zero => exact iff_of_true (lasts_one_iff.mpr h) (lasts_zero m.next)
      | succ k => exact lasts_succ_succ_iff.trans ⟨fun hl => hl.2.2, fun hl => ⟨h, hgoes, hl⟩⟩

end Monocycle.Machine
