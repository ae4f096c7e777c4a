import Monocycle.Delay
import Monocycle.Proofs.Value.Rounding

/-!
# The delays that the clock takes

A delay in milliseconds is rounded on its way to the clock: to a double of seconds, to a double of
nanoseconds, and to a whole number of these. The nearest doubles are near enough for none of this to
matter: the clock takes a delay exactly if its nanoseconds are not negative and fit into a word.

## Main definitions

* `Delay.longest`: the greatest number of milliseconds whose nanoseconds fit into a word.

## Main results

* `refusal?_of_near`, `taken_of_ne_zero`: the clock looks at a number near to that of the
  nanoseconds.
* `taken_ofMilliseconds?_iff`: **the delays in milliseconds that the clock takes.**
-/

namespace Monocycle.Delay

/-- The greatest number of milliseconds whose nanoseconds fit into a word of the clock. -/
def longest : Int := (clockEnd - 1) / 1000000

/-- The clock takes whole nanoseconds that are not negative and fit into a word. -/
theorem refusal?_eq_none_iff {d : Delay} {ns : ℤ}
    (h : d.nanoseconds = if fitsClock ns then .ok ns else .error .outOfRange) :
    d.refusal? = none ↔ 0 ≤ ns ∧ ns < clockEnd := by
  have hfits : fitsClock ns = true ↔ -clockEnd ≤ ns ∧ ns < clockEnd := by
    simp only [fitsClock, Bool.and_eq_true, decide_eq_true_eq]
  have hend : 0 < clockEnd := by decide
  rw [refusal?, h]
  by_cases hclock : fitsClock ns = true
  · have hword := hfits.mp hclock
    simp only [if_pos hclock, ite_eq_right_iff, reduceCtorEq, imp_false, not_lt]
    exact ⟨fun hns => ⟨hns, hword.2⟩, And.left⟩
  · have hword := mt hfits.mpr hclock
    rw [if_neg hclock]
    refine iff_of_false nofun fun hns => hword ⟨?_, hns.2⟩
    omega

/-- Nanoseconds that are rounded away from zero fit if they do before. -/
theorem rounded_nanoseconds_iff (negative : Bool) {close : ℚ} (hpos : 0 < close) :
    (0 ≤ (if negative then -⌈close⌉ else ⌈close⌉) ∧
      (if negative then -⌈close⌉ else ⌈close⌉) < clockEnd) ↔
      negative = false ∧ close ≤ 2 ^ 63 - 1 := by
  have hceil : 0 < ⌈close⌉ := Int.ceil_pos.mpr hpos
  have hend : ((clockEnd - 1 : ℤ) : ℚ) = 2 ^ 63 - 1 := by norm_num [clockEnd]
  have hword : ⌈close⌉ < clockEnd ↔ close ≤ 2 ^ 63 - 1 := by
    rw [← Int.le_sub_one_iff, Int.ceil_le, hend]
  cases negative with
  | false => simp only [Bool.false_eq_true, if_false, hword, hceil.le, true_and]
  | true =>
      simp only [if_true, Bool.true_eq_false, false_and, iff_false]
      omega

/-- The nanoseconds of a number of seconds. -/
theorem nanoseconds_real {r : Real64} (h : r ≠ .notANumber) :
    (real r).nanoseconds = (r.scaled nanosecondsPerSecond 1).awayFromZero?.elim
      (.error .outOfRange) fun ns => if fitsClock ns then .ok ns else .error .outOfRange := by
  rw [nanoseconds]
  · cases (r.scaled nanosecondsPerSecond 1).awayFromZero? with
    | none => rfl
    | some ns => rfl
  · exact h

/-- What the clock says to a delay that is near to a number of seconds is a matter of a number near
to that of the nanoseconds. -/
theorem refusal?_of_near {negative : Bool} {value : ℚ} {r : Real64} (h : r.Near negative value)
    (hlarge : (2 : ℚ) ^ (-99 : ℤ) ≤ value * 10 ^ 9) :
    ∃ close : ℚ, |close - value * 10 ^ 9| ≤ value * 10 ^ 9 / 2 ^ 51 ∧
      ((real r).refusal? = none ↔ negative = false ∧ close ≤ 2 ^ 63 - 1) := by
  have hnanoseconds : (nanosecondsPerSecond / (1 : ℕ) : ℚ) = 10 ^ 9 := by
    norm_num [nanosecondsPerSecond]
  have hvalue : 0 < value := by
    have htiny : (0 : ℚ) < 2 ^ (-99 : ℤ) := by positivity
    linarith
  have hreal := nanoseconds_real h.ne_notANumber
  have hmany : 0 < nanosecondsPerSecond := by decide
  obtain ⟨seconds, hseconds, hscaled⟩ := h.scaled hmany one_pos (by rwa [hnanoseconds])
  rw [hnanoseconds] at hscaled
  obtain ⟨hlow, hhigh⟩ := abs_le.mp hseconds
  obtain ⟨hinfinite, hbeyond⟩ | hnear := hscaled
  · refine ⟨seconds * 10 ^ 9, ?_, iff_of_false ?_ ?_⟩
    · rw [abs_le]
      constructor <;> linarith
    · rw [refusal?, hreal, hinfinite]
      exact nofun
    · rintro ⟨-, hfits⟩
      norm_num at hbeyond
      linarith
  · obtain ⟨close, hpos, hclose, haway⟩ := hnear.awayFromZero?
    obtain ⟨hlow', hhigh'⟩ := abs_le.mp hclose
    refine ⟨close, ?_, ?_⟩
    · rw [abs_le]
      constructor <;> linarith
    · rw [haway, Option.elim_some] at hreal
      rw [refusal?_eq_none_iff hreal, rounded_nanoseconds_iff negative hpos]

/-- What the clock says to a delay in milliseconds is a matter of a number near to that of the
nanoseconds. -/
theorem taken_of_ne_zero {ms : ℤ} (h : ms ≠ 0) :
    ∃ close : ℚ, |close - (ms.natAbs : ℚ) * 10 ^ 6| ≤ (ms.natAbs : ℚ) * 10 ^ 6 / 2 ^ 51 ∧
      ((∃ d, ofMilliseconds? ms = some d ∧ d.refusal? = none) ↔
        0 ≤ ms ∧ close ≤ 2 ^ 63 - 1) := by
  have hnum : 0 < ms.natAbs := Int.natAbs_pos.mpr h
  have hone : (1 : ℚ) ≤ ms.natAbs := Nat.one_le_cast.mpr hnum
  have hlarge : (2 : ℚ) ^ (-100 : ℤ) ≤ ms.natAbs / (1000 : ℕ) := by
    calc (2 : ℚ) ^ (-100 : ℤ) ≤ 1 / (1000 : ℕ) := by norm_num
      _ ≤ ms.natAbs / (1000 : ℕ) := by gcongr
  obtain ⟨hinfinite, hbeyond⟩ | hnear := Real64.near_ofQuotient (ms < 0) hnum (by decide) hlarge
  · refine ⟨ms.natAbs * 10 ^ 6, ?_, iff_of_false ?_ ?_⟩
    · rw [sub_self, abs_zero]
      positivity
    · rintro ⟨d, hd, -⟩
      rw [ofMilliseconds?, hinfinite] at hd
      cases hd
    · rintro ⟨-, hfits⟩
      generalize (ms.natAbs : ℚ) = n at hbeyond hfits
      norm_num at hbeyond
      linarith
  · have hnanoseconds : (ms.natAbs / (1000 : ℕ) * 10 ^ 9 : ℚ) = ms.natAbs * 10 ^ 6 := by ring
    have hlarge' : (2 : ℚ) ^ (-99 : ℤ) ≤ ms.natAbs / (1000 : ℕ) * 10 ^ 9 := by
      rw [hnanoseconds]
      calc (2 : ℚ) ^ (-99 : ℤ) ≤ 1 * 10 ^ 6 := by norm_num
        _ ≤ ms.natAbs * 10 ^ 6 := by gcongr
    obtain ⟨close, hclose, htaken⟩ := refusal?_of_near hnear hlarge'
    rw [hnanoseconds] at hclose
    have hdelay : ofMilliseconds? ms =
        some (.real (.ofQuotient (ms < 0) ms.natAbs 1000)) := by
      rw [ofMilliseconds?]
      split
      · next hinfinite => exact absurd hinfinite (hnear.ne_infinite _)
      · rfl
    refine ⟨close, hclose, ?_⟩
    simp only [hdelay, Option.some.injEq, exists_eq_left', htaken, decide_eq_false_iff_not, not_lt]

/-- **The delays in milliseconds that the clock takes** are those whose nanoseconds are not negative
and fit into a word. -/
theorem taken_ofMilliseconds?_iff (ms : ℤ) :
    (∃ d, ofMilliseconds? ms = some d ∧ d.refusal? = none) ↔ 0 ≤ ms ∧ ms ≤ longest := by
  have hlongest : longest = 9223372036854 := rfl
  by_cases hzero : ms = 0
  · subst hzero
    refine iff_of_true ⟨.real (.finite 0 0), rfl, rfl⟩ ⟨le_rfl, ?_⟩
    rw [hlongest]
    decide
  · obtain ⟨close, hclose, htaken⟩ := taken_of_ne_zero hzero
    rw [htaken, hlongest]
    refine and_congr_right fun hnonneg => ?_
    have hms : (ms.natAbs : ℚ) = ms := by
      rw [Nat.cast_natAbs, abs_of_nonneg hnonneg]
    rw [hms] at hclose
    obtain ⟨hlow, hhigh⟩ := abs_le.mp hclose
    -- the greatest delay is farther from the bound than what the roundings are off
    constructor
    · intro hfits
      by_contra hlong
      have hms' : (9223372036855 : ℚ) ≤ ms := by exact_mod_cast not_le.mp hlong
      linarith
    · intro hshort
      have hms' : (ms : ℚ) ≤ 9223372036854 := by exact_mod_cast hshort
      linarith

example : longest = 9223372036854 := by decide

end Monocycle.Delay
