import Monocycle.Proofs.Text.Ascii
import Monocycle.Text.Numeral

/-!
# Numerals that were written

What reading makes of the numerals that were written in a base, and of the decimal ones that
`Text.ofNat` writes. A numeral is written digit by digit from its last one on, and read from its
first one on, so the two meet in the equation for a digit at the end, `natOf_append`.

## Main results

* `natOf_toDigits`: what was written in a base stands for the number it was written for.
* `natOf_ofNat`: a written numeral stands for the number it was written for.
* `isDigit_of_mem_ofNat`: it consists of digits.
* `length_ofNat_le`: how long it is.
* `ofInt_injective`: different integers are written differently.
* `isPlain_of_mem_ofInt`: a written integer consists of plain characters in lower case.
-/

namespace Monocycle.Text

section

variable {base : Nat}

/-- A digit that was written is read back. -/
theorem digit?_digitChar (hbase : base ≤ 16) {d : Nat} (h : d < base) :
    digit? base d.digitChar = some d := by
  have hall : ∀ d < 16, asciiDigit? (Nat.digitChar d) = some d := by decide
  rw [digit?, hall d (by omega), Option.filter_some, if_pos (decide_eq_true h)]

/-- A digit at the end is read last. -/
theorem natOf_append (t : Text) {c : Char} {d : Nat} (h : digit? base c = some d) :
    natOf base (t ++ [c]) = natOf base t * base + d := by
  rw [natOf, List.filterMap_append, List.filterMap_cons_some h, List.filterMap_nil, valueOf,
    List.foldl_append]
  rfl

/-- **What was written in a base** is a row of its digits, and stands for the number it was written
for. -/
theorem natOf_toDigits (hone : 1 < base) (hbase : base ≤ 16) (n : Nat) :
    (∀ c ∈ Nat.toDigits base n, isDigitOf base c = true) ∧
      natOf base (Nat.toDigits base n) = n := by
  induction n using Nat.strongRecOn with
  | ind n ih =>
      rw [Nat.toDigits_eq_if hone]
      split
      · next h =>
          have hdigit := digit?_digitChar hbase h
          refine ⟨by simp [isDigitOf, hdigit], ?_⟩
          have hlast := natOf_append [] hdigit
          rw [List.nil_append] at hlast
          rw [hlast]
          exact (congrArg (· + n) (Nat.zero_mul base)).trans (Nat.zero_add n)
      · next h =>
          have hdigit := digit?_digitChar hbase (Nat.mod_lt n (Nat.zero_lt_of_lt hone))
          obtain ⟨hdigits, hvalue⟩ := ih (n / base) (Nat.div_lt_self (by omega) hone)
          constructor
          · intro c hc
            obtain hc | hc := List.mem_append.mp hc
            · exact hdigits c hc
            · rw [List.mem_singleton.mp hc, isDigitOf, hdigit]
              rfl
          · rw [natOf_append _ hdigit, hvalue, Nat.mul_comm]
            exact Nat.div_add_mod n base

end

/-- **A written numeral** stands for the number it was written for. -/
theorem natOf_ofNat (n : Nat) : natOf 10 (ofNat n) = n :=
  (natOf_toDigits (by decide) (by decide) n).2

/-- Different numbers are written differently. -/
theorem ofNat_injective : Function.Injective ofNat :=
  Function.LeftInverse.injective natOf_ofNat

theorem isDigit_of_mem_ofNat {n : Nat} {c : Char} (h : c ∈ ofNat n) : c.isDigit = true :=
  Nat.isDigit_of_mem_toDigits (by decide) (by decide) h

theorem ofNat_ne_nil (n : Nat) : ofNat n ≠ [] :=
  Nat.toDigits_ne_nil

/-- A written numeral begins with a digit. -/
theorem exists_ofNat_eq_cons (n : Nat) : ∃ c rest, ofNat n = c :: rest ∧ c.isDigit = true := by
  obtain ⟨c, rest, heq⟩ := List.exists_cons_of_ne_nil (ofNat_ne_nil n)
  refine ⟨c, rest, heq, isDigit_of_mem_ofNat (n := n) ?_⟩
  rw [heq]
  exact List.mem_cons_self

/-- A number of ten digits at most is written with ten digits at most. -/
theorem length_ofNat_le {n : Nat} (h : n < 10000000000) : (ofNat n).length ≤ 10 :=
  (Nat.length_toDigits_le_iff (by decide) (by decide)).mpr h

/-- ASCII digits are plain characters. -/
theorem isPlain_of_isDigit {c : Char} (h : c.isDigit = true) : IsPlain c := by
  have halphanum : c.isAlphanum = true := by
    rw [Char.isAlphanum, h, Bool.or_true]
  exact ⟨toNat_lt_of_isAlphanum halphanum, .inl halphanum⟩

/-- ASCII digits are digits of base ten. -/
theorem isDigitOf_of_isDigit {c : Char} (h : c.isDigit = true) : isDigitOf 10 c = true :=
  forall_ascii (P := fun c => c.isDigit = true → isDigitOf 10 c = true) (by decide)
    (isPlain_of_isDigit h).1 h

/-- ASCII digits are in lower case. -/
theorem toLower_of_isDigit {c : Char} (h : c.isDigit = true) : c.toLower = c :=
  forall_ascii (P := fun c => c.isDigit = true → c.toLower = c) (by decide)
    (isPlain_of_isDigit h).1 h

/-- An integer is written as its absolute value, with a minus in front if it is negative. -/
theorem ofInt_eq (v : Int) : ofInt v = (if v < 0 then ['-'] else []) ++ ofNat v.natAbs := by
  cases v with
  | ofNat n =>
      have hnonneg : ¬Int.ofNat n < 0 := Int.not_lt.mpr (Int.natCast_nonneg n)
      rw [if_neg hnonneg]
      rfl
  | negSucc n =>
      rw [if_pos (Int.negSucc_lt_zero n)]
      rfl

/-- A written integer begins with a minus or a digit. -/
theorem exists_ofInt_eq_cons (v : Int) :
    ∃ c rest, ofInt v = c :: rest ∧ (c = '-' ∨ c.isDigit = true) := by
  rw [ofInt_eq]
  split
  · exact ⟨'-', _, rfl, .inl rfl⟩
  · obtain ⟨c, rest, heq, hdigit⟩ := exists_ofNat_eq_cons v.natAbs
    exact ⟨c, rest, heq, .inr hdigit⟩

/-- Different integers are written differently. -/
theorem ofInt_injective : Function.Injective ofInt := by
  -- no numeral without a sign begins with a minus
  have hsigned : ∀ n m : Nat, ofInt (.ofNat n) ≠ ofInt (.negSucc m) := by
    intro n m h
    obtain ⟨c, rest, hcons, hdigit⟩ := exists_ofNat_eq_cons n
    obtain ⟨rfl, -⟩ := List.cons.inj (hcons.symm.trans h)
    cases hdigit
  intro v w h
  cases v with
  | ofNat n =>
      cases w with
      | ofNat m => exact congrArg Int.ofNat (ofNat_injective h)
      | negSucc m => exact absurd h (hsigned n m)
  | negSucc n =>
      cases w with
      | ofNat m => exact absurd h.symm (hsigned m n)
      | negSucc m =>
          have hnumeral : ofNat (n + 1) = ofNat (m + 1) := (List.cons.inj h).2
          exact congrArg Int.negSucc (Nat.succ.inj (ofNat_injective hnumeral))

/-- A written integer consists of plain characters in lower case. -/
theorem isPlain_of_mem_ofInt {v : Int} {c : Char} (h : c ∈ ofInt v) :
    IsPlain c ∧ c.toLower = c := by
  rw [ofInt_eq, List.mem_append] at h
  obtain hsign | hdigit := h
  · split at hsign
    · obtain rfl : c = '-' := by simpa using hsign
      exact ⟨by decide, by decide⟩
    · simp at hsign
  · exact ⟨isPlain_of_isDigit (isDigit_of_mem_ofNat hdigit),
      toLower_of_isDigit (isDigit_of_mem_ofNat hdigit)⟩

/-- A written integer is in lower case. -/
theorem lower_ofInt (v : Int) : lower (ofInt v) = ofInt v := by
  rw [lower_of_ascii fun c hc => (isPlain_of_mem_ofInt hc).1.1]
  exact (List.map_congr_left fun c hc => (isPlain_of_mem_ofInt hc).2).trans (List.map_id _)

end Monocycle.Text
