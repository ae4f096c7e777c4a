import Monocycle.Assembly.SourceLine
import Monocycle.Text.Lowercase

/-!
# Plain characters

The characters that programs are written with once comments, blanks and punctuation between tokens
are left aside: ASCII letters and digits, the underscore, the point, the dollar sign, the minus
sign and parentheses. None of them is a blank, a separator of tokens, a line end, a colon or a
comment sign, so that a text of plain characters passes every cut of the assembler in one piece.

Facts about ASCII characters are settled by looking at the 128 code points, `forall_ascii`.

## Main results

* `forall_ascii`: what holds of the first 128 code points holds of every ASCII character.
* `IsPlain.isTokenSeparator`, `IsPlain.isLineEnd`, `IsPlain.ne_colon`, `IsPlain.ne_commentSign`:
  what plain characters are not.
* `lower_of_ascii`: in ASCII, lower-casing goes character by character.
-/

namespace Monocycle.Text

/-- **Facts about ASCII** hold if they hold of the first 128 code points. -/
theorem forall_ascii {P : Char → Prop} (h : ∀ n < 128, P (Char.ofNat n)) {c : Char}
    (hc : c.toNat < 128) : P c := by
  have hn := h c.toNat hc
  rwa [Char.ofNat_toNat] at hn

/-- The code point of a character that was made from it. -/
theorem toNat_ofNat {n : Nat} (h : n.isValidChar) : (Char.ofNat n).toNat = n := by
  rw [Char.ofNat, dif_pos h]
  rfl

/-- A **plain** character: an ASCII letter or digit, or one of `_`, `.`, `$`, `-`, `(` and `)`. -/
def IsPlain (c : Char) : Prop :=
  c.toNat < 128 ∧ (c.isAlphanum = true ∨ c ∈ ['_', '.', '$', '-', '(', ')'])

instance (c : Char) : Decidable (IsPlain c) :=
  inferInstanceAs (Decidable (_ ∧ _))

namespace IsPlain

variable {c : Char}

/-- A plain character separates no tokens. -/
theorem isTokenSeparator (h : IsPlain c) : isTokenSeparator c = false :=
  forall_ascii (P := fun c => IsPlain c → Monocycle.isTokenSeparator c = false)
    (by decide) h.1 h

/-- A plain character is no blank. -/
theorem isBlank (h : IsPlain c) : isBlank c = false := by
  have hseparator := h.isTokenSeparator
  rw [Monocycle.isTokenSeparator, Bool.or_eq_false_iff] at hseparator
  exact hseparator.1

/-- A plain character ends no line. -/
theorem isLineEnd (h : IsPlain c) : isLineEnd c = false :=
  forall_ascii (P := fun c => IsPlain c → Text.isLineEnd c = false) (by decide) h.1 h

theorem ne_colon (h : IsPlain c) : c ≠ ':' := by
  rintro rfl
  exact absurd h (by decide)

theorem ne_commentSign (h : IsPlain c) : c ≠ '#' := by
  rintro rfl
  exact absurd h (by decide)

end IsPlain

/-- A **plain word**: a text of plain characters that is not empty. -/
def IsPlainWord (t : Text) : Prop :=
  t ≠ [] ∧ ∀ c ∈ t, IsPlain c

instance (t : Text) : Decidable (IsPlainWord t) :=
  decidable_of_iff (t ≠ [] ∧ t.all (fun c => decide (IsPlain c)) = true) (by
    rw [IsPlainWord, List.all_eq_true]
    simp only [decide_eq_true_eq])

/-- The ASCII letters and digits are below code point 128. -/
theorem toNat_lt_of_isAlphanum {c : Char} (h : c.isAlphanum = true) : c.toNat < 128 := by
  have hranges : ((decide (65 ≤ c.val ∧ c.val ≤ 90) ||
      decide (97 ≤ c.val) && decide (c.val ≤ 122)) ||
      decide (48 ≤ c.val) && decide (c.val ≤ 57)) = true := h
  simp only [Bool.or_eq_true, Bool.and_eq_true, decide_eq_true_eq, UInt32.le_iff_toNat_le]
    at hranges
  have hval : c.toNat = c.val.toNat := rfl
  obtain (⟨-, hle⟩ | ⟨-, hle⟩) | ⟨-, hle⟩ := hranges
  · exact Nat.lt_of_le_of_lt hle (by decide)
  · exact Nat.lt_of_le_of_lt hle (by decide)
  · exact Nat.lt_of_le_of_lt hle (by decide)

/-! ### Lower case -/

theorem lowerAfter_of_ascii {t : Text} (h : ∀ c ∈ t, c.toNat < 128) (before : Text) :
    lowerAfter before t = t.map Char.toLower := by
  induction t generalizing before with
  | nil => rfl
  | cons c rest ih =>
      have hc : c.toNat < 128 := h c List.mem_cons_self
      have hsigma : ¬(c == 'Σ') = true := by
        rw [beq_iff_eq]
        rintro rfl
        exact absurd hc (by decide)
      rw [lowerAfter, if_neg hsigma, lowerChar_of_ascii hc,
        ih (fun d hd => h d (List.mem_cons_of_mem _ hd))]
      rfl

/-- **In ASCII, lower-casing goes character by character.** -/
theorem lower_of_ascii {t : Text} (h : ∀ c ∈ t, c.toNat < 128) : lower t = t.map Char.toLower :=
  lowerAfter_of_ascii h []

end Monocycle.Text
