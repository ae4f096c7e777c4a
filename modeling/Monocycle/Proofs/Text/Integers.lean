import Mathlib.Data.Option.Basic
import Monocycle.Proofs.Text.Numeral
import Monocycle.Proofs.Text.Words

/-!
# Integers that were written

The generous reading of integers gives back every integer that `Text.ofInt` writes, as long as it
has no more digits than a numeral may have. There are no blanks to be cut off a written integer, no
underscores in it, and of the digits of all scripts it only uses those of ASCII, so that what makes
the reading generous does not come in. An integer with more digits is not read at all.

## Main results

* `groupedDigits?_of_isDigit`: a row of ASCII digits is read digit by digit.
* `integer?_ofInt`: **a written integer is read back** if it is within the digit limit.
-/

namespace Monocycle.Text

/-- An ASCII digit is a digit of base ten with a value. -/
theorem exists_digit?_of_isDigit {c : Char} (h : c.isDigit = true) :
    ∃ d, digit? 10 c = some d ∧ decimalDigit? c = some d := by
  obtain ⟨d, hd⟩ := Option.isSome_iff_exists.mp (isDigitOf_of_isDigit h)
  exact ⟨d, hd, by rw [decimalDigit?, if_pos (isPlain_of_isDigit h).1, hd]⟩

/-- **A row of ASCII digits** is read digit by digit. -/
theorem groupedDigits?_of_isDigit {digits : Text} (hne : digits ≠ [])
    (h : ∀ c ∈ digits, c.isDigit = true) :
    ∃ values, groupedDigits? digits = some values ∧ values.length = digits.length ∧
      digits.filterMap (digit? 10) = values := by
  induction digits with
  | nil => exact absurd rfl hne
  | cons c rest ih =>
      obtain ⟨hc, hrest⟩ := List.forall_mem_cons.mp h
      obtain ⟨d, hd, hdecimal⟩ := exists_digit?_of_isDigit hc
      cases rest with
      | nil => exact ⟨[d], by simp [groupedDigits?, hdecimal], rfl, by simp [hd]⟩
      | cons next more =>
          obtain ⟨values, hvalues, hlength, hfilter⟩ := ih (List.cons_ne_nil _ _) hrest
          have hscore : next ≠ '_' := by
            rintro rfl
            exact absurd (hrest '_' List.mem_cons_self) (by decide)
          refine ⟨d :: values, ?_, congrArg (· + 1) hlength, ?_⟩
          · rw [groupedDigits?.eq_4 _ _ (fun h => absurd h (List.cons_ne_nil _ _))
              (fun rest heq => hscore (List.cons.inj heq).1)]
            simp [hdecimal, hvalues]
          · rw [List.filterMap_cons_some hd, hfilter]

/-- The digits of a written number are read as the number. -/
theorem groupedDigits?_ofNat (n : Nat) :
    ∃ values, groupedDigits? (ofNat n) = some values ∧ values.length = (ofNat n).length ∧
      valueOf 10 values = n := by
  obtain ⟨values, hvalues, hlength, hfilter⟩ :=
    groupedDigits?_of_isDigit (ofNat_ne_nil n) fun c hc => isDigit_of_mem_ofNat hc
  refine ⟨values, hvalues, hlength, ?_⟩
  rw [← hfilter]
  exact natOf_ofNat n

/-- No blanks are cut off a written integer. -/
theorem trim_ofInt (v : Int) : trim isNumeralBlank (ofInt v) = ofInt v := by
  have hblank : ∀ c ∈ ofInt v, isNumeralBlank c = false := by
    intro c hc
    rw [isNumeralBlank, (isPlain_of_mem_ofInt hc).1.isBlank, Bool.false_and]
  exact trim_eq_self (fun c hc => hblank c (List.mem_of_mem_head? hc))
    (fun c hc => hblank c (List.mem_of_mem_getLast? hc))

/-- **A written integer is read back** if it has no more digits than a numeral may have, and is not
read at all otherwise. -/
theorem integer?_ofInt (v : Int) :
    integer? (ofInt v) =
      if (ofNat v.natAbs).length ≤ digitLimit then some v else none := by
  obtain ⟨values, hvalues, hlength, hvalue⟩ := groupedDigits?_ofNat v.natAbs
  -- what is left to be read once the sign is known
  have hread : ∀ sign : Int, sign * v.natAbs = v →
      (do
        let digits ← groupedDigits? (ofNat v.natAbs)
        guard (digits.length ≤ digitLimit)
        return sign * (valueOf 10 digits : Int)) =
        if (ofNat v.natAbs).length ≤ digitLimit then some v else none := by
    intro sign hsign
    rw [hvalues, Option.bind_eq_bind, Option.bind_some, hlength, hvalue, hsign]
    by_cases hle : (ofNat v.natAbs).length ≤ digitLimit
    · rw [guard, if_pos hle, if_pos hle]
      rfl
    · rw [guard, if_neg hle, if_neg hle]
      rfl
  rw [integer?, trim_ofInt, ofInt_eq]
  by_cases hneg : v < 0
  · rw [if_pos hneg]
    exact hread (-1) (by omega)
  · rw [if_neg hneg, List.nil_append]
    obtain ⟨c, rest, heq, hdigit⟩ := exists_ofNat_eq_cons v.natAbs
    split
    next sign body hsign =>
      split at hsign
      · next hminus =>
          obtain ⟨rfl, -⟩ := List.cons.inj (heq.symm.trans hminus)
          exact absurd hdigit (by decide)
      · next hplus =>
          obtain ⟨rfl, -⟩ := List.cons.inj (heq.symm.trans hplus)
          exact absurd hdigit (by decide)
      · cases hsign
        exact hread 1 (by omega)

end Monocycle.Text
