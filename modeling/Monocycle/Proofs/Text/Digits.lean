import Monocycle.Proofs.Text.Numeral

/-!
# Counting digits

How many decimal digits a text has does not change when it is put into lower case: no character but
a digit has a digit in its lower-case form, the forms of characters beyond ASCII included. Cutting
characters off a text only takes digits away. So the digits of a numeral that was found somewhere
inside a token are at most those of the token as it was written.

## Main results

* `isDigitOf_ten`: the digits of base ten are the ASCII digits.
* `countP_isDigit_lower`: a text has as many digits in lower case as before.
* `countP_isDigit_of_all`: every character of a row of digits counts.
-/

namespace Monocycle.Text

/-- The ASCII digits are the ten code points from 48 on. -/
theorem isDigit_iff {c : Char} : c.isDigit = true ↔ 48 ≤ c.toNat ∧ c.toNat ≤ 57 := by
  rw [Char.isDigit, Bool.and_eq_true, decide_eq_true_eq, decide_eq_true_eq, ge_iff_le,
    UInt32.le_iff_toNat_le, UInt32.le_iff_toNat_le]
  rfl

/-- No character beyond ASCII is a digit. -/
theorem isDigit_eq_false {c : Char} (h : ¬c.toNat < 128) : c.isDigit = false := by
  rw [Bool.eq_false_iff, Ne, isDigit_iff]
  omega

/-- **The digits of base ten** are the ASCII digits. -/
theorem isDigitOf_ten (c : Char) : isDigitOf 10 c = c.isDigit := by
  by_cases hc : c.toNat < 128
  · exact forall_ascii (P := fun c => isDigitOf 10 c = c.isDigit) (by decide) hc
  · have hnine : ¬c ≤ '9' := fun hle => hc (Nat.lt_of_le_of_lt hle (by decide))
    have hletter : ¬c ≤ 'z' := fun hle => hc (Nat.lt_of_le_of_lt hle (by decide))
    simp [isDigitOf, digit?, asciiDigit?, hnine, hletter, isDigit_eq_false hc]

/-- Every character of a row of digits counts. -/
theorem countP_isDigit_of_all {digits : Text} (h : digits.all (isDigitOf 10) = true) :
    digits.countP Char.isDigit = digits.length := by
  rw [List.countP_eq_length]
  intro c hc
  rw [← isDigitOf_ten]
  exact List.all_eq_true.mp h c hc

/-! ### Lower case -/

/-- A code point above those of the digits is that of no digit, and neither is what stands in for
one that no character has. -/
theorem isDigit_ofNat {n : Nat} (h : 58 ≤ n) : (Char.ofNat n).isDigit = false := by
  by_cases hvalid : n.isValidChar
  · rw [Bool.eq_false_iff, Ne, isDigit_iff, toNat_ofNat hvalid]
    omega
  · rw [Char.ofNat, dif_neg hvalid]
    decide

/-- The lower-case form of a character has a digit only if the character is one. -/
theorem countP_isDigit_lowerChar (c : Char) :
    (lowerChar c).countP Char.isDigit = [c].countP Char.isDigit := by
  by_cases hc : c.toNat < 128
  · rw [lowerChar_of_ascii hc]
    exact forall_ascii (P := fun c => [c.toLower].countP Char.isDigit = [c].countP Char.isDigit)
      (by decide) hc
  · have hnone : [c].countP Char.isDigit = 0 := by simp [isDigit_eq_false hc]
    rw [hnone, lowerChar, if_neg hc]
    split
    · decide
    · split
      · next r hfind =>
          -- the forms of every run of code points lie above the digits
          have habove : ∀ r ∈ caseRuns, 58 ≤ (r.first : Int) + r.shift := by
            decide +kernel
          have hr := habove r (List.mem_of_find?_eq_some hfind)
          have hcovers := List.find?_some hfind
          have hfirst : r.first ≤ c.toNat := by
            simp only [CaseRun.covers, Bool.and_eq_true, decide_eq_true_eq] at hcovers
            exact hcovers.1.1
          have hdigit := isDigit_ofNat (n := ((c.toNat : Int) + r.shift).toNat) (by omega)
          simp [hdigit]
      · exact hnone

theorem countP_isDigit_lowerAfter (before t : Text) :
    (lowerAfter before t).countP Char.isDigit = t.countP Char.isDigit := by
  induction t generalizing before with
  | nil => rfl
  | cons c rest ih =>
      have hrest : (c :: rest).countP Char.isDigit =
          [c].countP Char.isDigit + rest.countP Char.isDigit := by
        rw [← List.countP_append, List.singleton_append]
      rw [lowerAfter, List.countP_append, ih, hrest, Nat.add_right_cancel_iff]
      split
      · next hsigma =>
          rw [beq_iff_eq.mp hsigma]
          split
          · decide
          · decide
      · exact countP_isDigit_lowerChar c

/-- **A text has as many digits in lower case** as before. -/
theorem countP_isDigit_lower (t : Text) :
    (lower t).countP Char.isDigit = t.countP Char.isDigit :=
  countP_isDigit_lowerAfter [] t

end Monocycle.Text
