import Monocycle.Value.Real
import Mathlib.Algebra.Order.Field.Power
import Mathlib.Data.Rat.Floor
import Mathlib.Tactic.FieldSimp
import Mathlib.Tactic.Linarith
import Mathlib.Tactic.Positivity
import Mathlib.Tactic.Ring

/-!
# How near the nearest double is

`Real64.ofQuotient` puts a positive quotient on the grid on which it has a significand of 53 bits,
and takes the nearest point. The point is half a unit of the grid away at most, and the quotient is
`2 ^ 52` units at least: so the double is off by one part in `2 ^ 53` of the quotient. This is
`Near`. The least exponent stands in the way only of quotients far below the thousandths and
nanoseconds that occur here; so quotients are taken not to be below `2 ^ (-100)`.

## Main definitions

* `Real64.Near`: the double is a number near to a quotient.

## Main results

* `roundQuotient_near`: rounding to an integer is off by a half at most.
* `exponentFor_bounds`: the grid that a quotient is put on.
* `near_ofQuotient`, `Near.scaled`: **the nearest double is near**, unless it is infinite.
* `ceiling?_finite`: the ceiling of a double is that of the number it stands for.
-/

namespace Monocycle.Real64

/-! ### Shifts -/

/-- A power of two, by its positive and its negative part. -/
theorem two_pow_toNat_div (e : ℤ) : (2 : ℚ) ^ e.toNat / 2 ^ (-e).toNat = 2 ^ e := by
  obtain ⟨n, rfl | rfl⟩ := e.eq_nat_or_neg
  · simp
  · simp

/-- A quotient whose parts are shifted against each other. -/
theorem shifted_div (num den : ℕ) (e : ℤ) :
    ((num <<< e.toNat : ℕ) : ℚ) / (den <<< (-e).toNat : ℕ) = num / den * 2 ^ e := by
  rw [Nat.shiftLeft_eq, Nat.shiftLeft_eq, Nat.cast_mul, Nat.cast_mul, Nat.cast_pow, Nat.cast_pow,
    Nat.cast_ofNat, mul_div_mul_comm, two_pow_toNat_div]

/-- A quotient in units of a grid. -/
theorem units_eq (num den : ℕ) (e : ℤ) :
    ((num <<< (-e).toNat : ℕ) : ℚ) / (den <<< e.toNat : ℕ) = num / den / 2 ^ e := by
  have hshifted := shifted_div num den (-e)
  rwa [neg_neg, zpow_neg, ← div_eq_mul_inv] at hshifted

theorem shifted_pos {n : ℕ} (h : 0 < n) (k : ℕ) : 0 < n <<< k := by
  rw [Nat.shiftLeft_eq]
  positivity

/-! ### Rounding to an integer -/

/-- A quotient is rounded down or up, to the side that is not farther. -/
theorem roundQuotient_cases (num den : ℕ) :
    roundQuotient num den = num / den ∧ 2 * (num % den) ≤ den ∨
      roundQuotient num den = num / den + 1 ∧ den ≤ 2 * (num % den) := by
  rw [roundQuotient]
  split
  · exact .inl ⟨rfl, by omega⟩
  · split
    · exact .inr ⟨rfl, by omega⟩
    · obtain heven | hodd := Nat.mod_two_eq_zero_or_one (num / den)
      · exact .inl ⟨by omega, by omega⟩
      · exact .inr ⟨by omega, by omega⟩

/-- **Rounding to an integer** is off by a half at most. -/
theorem roundQuotient_near (num : ℕ) {den : ℕ} (hden : 0 < den) :
    |(roundQuotient num den : ℚ) - num / den| ≤ 1 / 2 := by
  have hden' : (0 : ℚ) < den := Nat.cast_pos.mpr hden
  have hnum : (den : ℚ) * (num / den : ℕ) + (num % den : ℕ) = num := by
    exact_mod_cast Nat.div_add_mod num den
  have hrest : (0 : ℚ) ≤ (num % den : ℕ) := Nat.cast_nonneg _
  have hbelow : ((num % den : ℕ) : ℚ) ≤ den := Nat.cast_le.mpr (Nat.mod_lt num hden).le
  have hcommon : (roundQuotient num den : ℚ) - num / den =
      (roundQuotient num den * den - num) / den := by
    field_simp
  rw [hcommon, abs_div, abs_of_pos hden', div_le_iff₀ hden', abs_le]
  obtain ⟨hdown, hhalf⟩ | ⟨hup, hhalf⟩ := roundQuotient_cases num den
  · have hhalf' : 2 * ((num % den : ℕ) : ℚ) ≤ den := by exact_mod_cast hhalf
    rw [hdown]
    constructor <;> linarith
  · have hhalf' : (den : ℚ) ≤ 2 * (num % den : ℕ) := by exact_mod_cast hhalf
    rw [hup, Nat.cast_add, Nat.cast_one]
    constructor <;> linarith

/-! ### The grid of a quotient -/

/-- The powers of two around a positive number. -/
theorem two_pow_log2_bounds {n : ℕ} (h : 0 < n) :
    (2 : ℚ) ^ (n.log2 : ℤ) ≤ n ∧ (n : ℚ) < 2 ^ (n.log2 + 1 : ℤ) := by
  constructor
  · exact_mod_cast Nat.log2_self_le h.ne'
  · exact_mod_cast Nat.lt_log2_self (n := n)

/-- A quotient between two powers of two, told from the logarithms of its parts. -/
theorem two_pow_quotient_bounds {num den : ℕ} (hnum : 0 < num) (hden : 0 < den) :
    (2 : ℚ) ^ ((num.log2 : ℤ) - den.log2 - 1) ≤ num / den ∧
      (num / den : ℚ) < 2 ^ ((num.log2 : ℤ) - den.log2 + 1) := by
  have hden' : (0 : ℚ) < den := Nat.cast_pos.mpr hden
  obtain ⟨hnumLow, hnumHigh⟩ := two_pow_log2_bounds hnum
  obtain ⟨hdenLow, hdenHigh⟩ := two_pow_log2_bounds hden
  constructor
  · rw [le_div_iff₀ hden']
    calc (2 : ℚ) ^ ((num.log2 : ℤ) - den.log2 - 1) * den
        ≤ 2 ^ ((num.log2 : ℤ) - den.log2 - 1) * 2 ^ (den.log2 + 1 : ℤ) := by gcongr
      _ = 2 ^ (num.log2 : ℤ) := by
        rw [← zpow_add₀ two_ne_zero]
        congr 1
        omega
      _ ≤ num := hnumLow
  · rw [div_lt_iff₀ hden']
    calc (num : ℚ) < 2 ^ (num.log2 + 1 : ℤ) := hnumHigh
      _ = 2 ^ ((num.log2 : ℤ) - den.log2 + 1) * 2 ^ (den.log2 : ℤ) := by
        rw [← zpow_add₀ two_ne_zero]
        congr 1
        omega
      _ ≤ 2 ^ ((num.log2 : ℤ) - den.log2 + 1) * den := by gcongr

/-- Whether a quotient has less than `2 ^ 53` units of a grid. -/
theorem shifted_lt_iff (num : ℕ) {den : ℕ} (hden : 0 < den) (e : ℤ) :
    num <<< (-e).toNat < (den <<< e.toNat) <<< precision ↔ (num / den : ℚ) < 2 ^ (53 + e) := by
  have hunit : (0 : ℚ) < 2 ^ e := by positivity
  have hpos : (0 : ℚ) < (den <<< e.toNat : ℕ) := Nat.cast_pos.mpr (shifted_pos hden _)
  rw [zpow_add₀ two_ne_zero, ← div_lt_iff₀ hunit, ← units_eq, div_lt_iff₀ hpos,
    Nat.shiftLeft_eq _ precision, ← Nat.cast_lt (α := ℚ), Nat.cast_mul, mul_comm]
  norm_num [precision]

/-- **The grid that a quotient is put on**: the quotient has `2 ^ 52` units of it at least, and not
`2 ^ 53`. -/
theorem exponentFor_bounds {num den : ℕ} (hnum : 0 < num) (hden : 0 < den)
    (hlarge : (2 : ℚ) ^ (-100 : ℤ) ≤ num / den) :
    (2 : ℚ) ^ (52 + exponentFor num den) ≤ num / den ∧
      (num / den : ℚ) < 2 ^ (53 + exponentFor num den) := by
  obtain ⟨hlow, hhigh⟩ := two_pow_quotient_bounds hnum hden
  generalize hguess : (num.log2 : ℤ) - (den.log2 : ℤ) - precision = guess
  have hprecision : (precision : ℤ) = 53 := rfl
  rw [show (num.log2 : ℤ) - den.log2 - 1 = 52 + guess by omega] at hlow
  rw [show (num.log2 : ℤ) - den.log2 + 1 = 54 + guess by omega] at hhigh
  -- the guess is right, or too low by one
  generalize hexact : (if num <<< (-guess).toNat < (den <<< guess.toNat) <<< precision then guess
    else guess + 1) = exact
  have hbounds : (2 : ℚ) ^ (52 + exact) ≤ num / den ∧ (num / den : ℚ) < 2 ^ (53 + exact) := by
    split at hexact
    · next hless =>
      subst hexact
      exact ⟨hlow, (shifted_lt_iff num hden guess).mp hless⟩
    · next hmore =>
      subst hexact
      rw [shifted_lt_iff num hden, not_lt] at hmore
      rw [show (52 : ℤ) + (guess + 1) = 53 + guess by omega,
        show (53 : ℤ) + (guess + 1) = 54 + guess by omega]
      exact ⟨hmore, hhigh⟩
  have hfree : leastExponent ≤ exact := by
    have hlt := (zpow_lt_zpow_iff_right₀ (one_lt_two (α := ℚ))).mp (hlarge.trans_lt hbounds.2)
    rw [leastExponent]
    omega
  have hexponent : exponentFor num den = exact := by
    rw [← max_eq_left hfree, ← hexact, ← hguess]
    rfl
  rwa [hexponent]

/-! ### The nearest double -/

/-- A double is **near** to a positive number, or to the negative of it: it is off by one part in
`2 ^ 53` at most. -/
def Near (negative : Bool) (value : ℚ) (r : Real64) : Prop :=
  ∃ (significand : ℕ) (e : ℤ), 0 < significand ∧
    r = finite (if negative then -(significand : ℤ) else significand) e ∧
    |significand * 2 ^ e - value| ≤ value / 2 ^ 53

theorem Near.ne_notANumber {negative : Bool} {value : ℚ} {r : Real64} (h : Near negative value r) :
    r ≠ notANumber := by
  obtain ⟨significand, e, -, rfl, -⟩ := h
  exact nofun

theorem Near.ne_infinite {negative : Bool} {value : ℚ} {r : Real64} (h : Near negative value r)
    (other : Bool) : r ≠ infinite other := by
  obtain ⟨significand, e, -, rfl, -⟩ := h
  exact nofun

/-- The point of the grid that is nearest to a quotient. -/
theorem nearest_point {num den : ℕ} (hnum : 0 < num) (hden : 0 < den)
    (hlarge : (2 : ℚ) ^ (-100 : ℤ) ≤ num / den) :
    let e := exponentFor num den
    let rounded := roundQuotient (num <<< (-e).toNat) (den <<< e.toNat)
    0 < rounded ∧ |(rounded : ℚ) * 2 ^ e - num / den| ≤ num / den / 2 ^ 53 := by
  intro e rounded
  obtain ⟨hlow, -⟩ := exponentFor_bounds hnum hden hlarge
  have hunit : (0 : ℚ) < 2 ^ e := by positivity
  have hnear := roundQuotient_near (num <<< (-e).toNat) (shifted_pos hden e.toNat)
  rw [units_eq] at hnear
  rw [zpow_add₀ two_ne_zero, ← le_div_iff₀ hunit] at hlow
  have hvalue : (num / den : ℚ) = num / den / 2 ^ e * 2 ^ e := by field_simp
  rw [hvalue]
  -- the quotient in units of the grid
  generalize (num / den / 2 ^ e : ℚ) = units at hnear hlow
  have hlow' : (4503599627370496 : ℚ) ≤ units := by
    refine le_trans ?_ hlow
    norm_num
  constructor
  · have hle := (abs_le.mp hnear).1
    have hpos : (0 : ℚ) < rounded := by linarith
    exact Nat.cast_pos.mp hpos
  · calc |(rounded : ℚ) * 2 ^ e - units * 2 ^ e|
        = |(rounded : ℚ) - units| * 2 ^ e := by rw [← sub_mul, abs_mul, abs_of_pos hunit]
      _ ≤ units / 2 ^ 53 * 2 ^ e := by
        gcongr
        refine hnear.trans ?_
        rw [le_div_iff₀ (by positivity)]
        linarith
      _ = units * 2 ^ e / 2 ^ 53 := by ring

/-- A double at the upper end of a grid is one at the lower end of the next. -/
theorem carried (e : ℤ) :
    ((1 <<< precision : ℕ) : ℚ) * 2 ^ e = ((1 <<< (precision - 1) : ℕ) : ℚ) * 2 ^ (e + 1) := by
  rw [zpow_add₀ two_ne_zero, Nat.shiftLeft_eq, Nat.shiftLeft_eq]
  norm_num [precision]
  ring

/-- **The nearest double** to a quotient is near to it, unless the quotient is beyond all doubles. -/
theorem near_ofQuotient (negative : Bool) {num den : ℕ} (hnum : 0 < num) (hden : 0 < den)
    (hlarge : (2 : ℚ) ^ (-100 : ℤ) ≤ num / den) :
    ofQuotient negative num den = infinite negative ∧ (2 : ℚ) ^ (100 : ℤ) ≤ num / den ∨
      Near negative (num / den) (ofQuotient negative num den) := by
  obtain ⟨hpos, hnear⟩ := nearest_point hnum hden hlarge
  obtain ⟨hlow, -⟩ := exponentFor_bounds hnum hden hlarge
  rw [ofQuotient, if_neg hnum.ne']
  dsimp only at hpos hnear ⊢
  generalize exponentFor num den = e at hpos hnear hlow ⊢
  generalize roundQuotient (num <<< (-e).toNat) (den <<< e.toNat) = rounded at hpos hnear ⊢
  -- a double that is too great comes of a quotient that is
  have hbeyond : e + 1 > greatestExponent → (2 : ℚ) ^ (100 : ℤ) ≤ num / den := by
    intro hgreat
    rw [greatestExponent] at hgreat
    exact (zpow_le_zpow_right₀ one_le_two (by omega)).trans hlow
  by_cases hcarry : rounded = 1 <<< precision
  · rw [if_pos hcarry]
    dsimp only
    by_cases hgreat : e + 1 > greatestExponent
    · rw [if_pos hgreat]
      exact .inl ⟨rfl, hbeyond hgreat⟩
    · rw [if_neg hgreat]
      refine .inr ⟨_, _, by decide, rfl, ?_⟩
      rwa [← carried, ← hcarry]
  · rw [if_neg hcarry]
    dsimp only
    by_cases hgreat : e > greatestExponent
    · rw [if_pos hgreat]
      exact .inl ⟨rfl, hbeyond (by omega)⟩
    · rw [if_neg hgreat]
      exact .inr ⟨rounded, e, hpos, rfl, hnear⟩

/-! ### Doubles that are multiplied and rounded up -/

/-- **The ceiling of a double** is that of the number it stands for. -/
theorem ceiling?_finite (significand e : ℤ) :
    (finite significand e).ceiling? = some ⌈(significand : ℚ) * 2 ^ e⌉ := by
  have hvalue : (-(significand * 2 ^ e) : ℚ) =
      ((-(significand * 2 ^ e.toNat) : ℤ) : ℚ) / (2 ^ (-e).toNat : ℕ) := by
    rw [← two_pow_toNat_div e]
    push_cast
    ring
  rw [ceiling?, Int.shiftLeft_eq, Int.shiftRight_eq_div_pow, ← neg_neg (significand * 2 ^ e : ℚ),
    Int.ceil_neg, hvalue, Rat.floor_intCast_div_natCast]

/-- A double that is near to a number, or to the negative of one, is rounded away from zero as the
number is that it stands for. -/
theorem Near.awayFromZero? {negative : Bool} {value : ℚ} {r : Real64} (h : Near negative value r) :
    ∃ close : ℚ, 0 < close ∧ |close - value| ≤ value / 2 ^ 53 ∧
      r.awayFromZero? = some (if negative then -⌈close⌉ else ⌈close⌉) := by
  obtain ⟨significand, e, hpos, rfl, hnear⟩ := h
  refine ⟨significand * 2 ^ e, by positivity, hnear, ?_⟩
  have hsign : (significand : ℤ).sign = 1 := Int.sign_eq_one_of_pos (by exact_mod_cast hpos)
  cases negative with
  | false => simp [Real64.awayFromZero?, ceiling?_finite, hsign]
  | true => simp [Real64.awayFromZero?, ceiling?_finite, hsign]

/-- A double that is near to a number stands for one close to it, and a multiple of it is near to the
multiple of this one, unless the multiple is beyond all doubles. -/
theorem Near.scaled {negative : Bool} {value : ℚ} {r : Real64} (h : Near negative value r)
    {num den : ℕ} (hnum : 0 < num) (hden : 0 < den)
    (hlarge : (2 : ℚ) ^ (-99 : ℤ) ≤ value * (num / den)) :
    ∃ close : ℚ, |close - value| ≤ value / 2 ^ 53 ∧
      (r.scaled num den = infinite negative ∧ (2 : ℚ) ^ (100 : ℤ) ≤ close * (num / den) ∨
        Near negative (close * (num / den)) (r.scaled num den)) := by
  obtain ⟨significand, e, hpos, rfl, hnear⟩ := h
  refine ⟨_, hnear, ?_⟩
  have hnegative : decide ((if negative then -(significand : ℤ) else significand) < 0) = negative := by
    cases negative with
    | false => simp
    | true => simpa using hpos
  have habs : (if negative then -(significand : ℤ) else significand).natAbs = significand := by
    split <;> simp
  have hquotient : ((significand * num) <<< e.toNat : ℕ) / ((den <<< (-e).toNat : ℕ) : ℚ) =
      significand * 2 ^ e * (num / den) := by
    rw [shifted_div, Nat.cast_mul]
    ring
  rw [Real64.scaled, hnegative, habs, ← hquotient]
  refine near_ofQuotient negative (shifted_pos (by positivity) _) (shifted_pos hden _) ?_
  rw [hquotient]
  calc (2 : ℚ) ^ (-100 : ℤ) = 2 ^ (-99 : ℤ) / 2 := by
        rw [div_eq_mul_inv, ← zpow_sub_one₀ two_ne_zero]
        rfl
    _ ≤ value * (num / den) / 2 := by gcongr
    _ = value / 2 * (num / den) := by ring
    _ ≤ significand * 2 ^ e * (num / den) := by
      gcongr
      have hvalue : 0 ≤ value := by linarith [(abs_nonneg _).trans hnear]
      linarith [(abs_le.mp hnear).1]

end Monocycle.Real64
