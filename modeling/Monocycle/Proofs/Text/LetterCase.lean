import Mathlib.Tactic.ByContra
import Monocycle.Proofs.Text.Ascii

/-!
# Letter case beyond ASCII

Letter case is ignored by comparing texts in lower case, and the lower case of a character beyond
ASCII could be a character of ASCII. There is one such character, the Kelvin sign U+212A, whose
lower case is `k`; `İ` becomes `i` with a combining dot, which is beyond ASCII again. So a text
whose lower case is in ASCII and has no `k` is in ASCII itself, and lower-casing it is a map on its
characters.

## Main results

* `exists_mem_lowerChar`: what the lower case of a character beyond ASCII has in it.
* `isAscii_of_lower`: a text is in ASCII if its lower case is, and has no `k`.
* `lower_eq_iff_map_toLower_eq`: when ignoring case is a matter of ASCII letters.
-/

namespace Monocycle.Text

/-- **The lower case of a character beyond ASCII** has a character beyond ASCII or a `k` in it. -/
theorem exists_mem_lowerChar {c : Char} (hc : ¬c.toNat < 128) :
    ∃ d ∈ lowerChar c, ¬(d.toNat < 128 ∧ d ≠ 'k') := by
  rw [lowerChar, if_neg hc]
  split
  · exact ⟨'\u0307', by simp, by decide⟩
  · split
    · next r hfind =>
        -- no run of code points leads into ASCII but that of the Kelvin sign
        have hruns : ∀ r ∈ caseRuns, r.first = r.last ∧ (r.first : Int) + r.shift = 107 ∨
            128 ≤ (r.first : Int) + r.shift ∧ (r.last : Int) + r.shift < 0xd800 ∨
            0xdfff < (r.first : Int) + r.shift ∧ (r.last : Int) + r.shift < 0x110000 := by
          decide +kernel
        have hcovers := List.find?_some hfind
        simp only [CaseRun.covers, Bool.and_eq_true, decide_eq_true_eq] at hcovers
        obtain ⟨⟨hfirst, hlast⟩, -⟩ := hcovers
        obtain ⟨hsingle, hkelvin⟩ | ⟨hlow, hhigh⟩ | ⟨hlow, hhigh⟩ :=
          hruns r (List.mem_of_find?_eq_some hfind)
        · have hcode : ((c.toNat : Int) + r.shift).toNat = 107 := by omega
          rw [hcode]
          exact ⟨'k', by decide, by decide⟩
        · have hvalid : ((c.toNat : Int) + r.shift).toNat.isValidChar := .inl (by omega)
          refine ⟨_, List.mem_singleton_self _, fun hascii => ?_⟩
          rw [toNat_ofNat hvalid] at hascii
          omega
        · have hvalid : ((c.toNat : Int) + r.shift).toNat.isValidChar :=
            .inr ⟨by omega, by omega⟩
          refine ⟨_, List.mem_singleton_self _, fun hascii => ?_⟩
          rw [toNat_ofNat hvalid] at hascii
          omega
    · exact ⟨c, List.mem_singleton_self c, fun hascii => hc hascii.1⟩

theorem isAscii_of_lowerAfter {before t : Text}
    (h : ∀ c ∈ lowerAfter before t, c.toNat < 128 ∧ c ≠ 'k') : ∀ c ∈ t, c.toNat < 128 := by
  induction t generalizing before with
  | nil => simp
  | cons c rest ih =>
      rw [lowerAfter] at h
      refine List.forall_mem_cons.mpr ⟨?_, ih fun d hd => h d (List.mem_append_right _ hd)⟩
      by_contra hc
      obtain ⟨d, hd, hno⟩ : ∃ d ∈ (if c == 'Σ' then
          [if endsWord before rest then 'ς' else 'σ'] else lowerChar c),
          ¬(d.toNat < 128 ∧ d ≠ 'k') := by
        split
        · refine ⟨_, List.mem_singleton_self _, ?_⟩
          split
          · decide
          · decide
        · exact exists_mem_lowerChar hc
      exact hno (h d (List.mem_append_left _ hd))

/-- **A text is in ASCII** if its lower case is, and has no `k`. -/
theorem isAscii_of_lower {t : Text} (h : ∀ c ∈ lower t, c.toNat < 128 ∧ c ≠ 'k') :
    ∀ c ∈ t, c.toNat < 128 :=
  isAscii_of_lowerAfter h

/-- Beyond ASCII no character is put into lower case letter by letter. -/
theorem toLower_eq_self {c : Char} (hc : ¬c.toNat < 128) : c.toLower = c :=
  dif_neg fun hupper =>
    hc (Nat.lt_of_le_of_lt (UInt32.le_iff_toNat_le.mp hupper.2) (by decide))

/-- A character that is put into ASCII letter by letter was there before. -/
theorem toNat_lt_of_toLower {c : Char} (h : c.toLower.toNat < 128) : c.toNat < 128 := by
  by_contra hc
  exact hc (toLower_eq_self hc ▸ h)

/-- **Ignoring case** is a matter of ASCII letters where a text in ASCII without a `k` is looked
for. -/
theorem lower_eq_iff_map_toLower_eq {t u : Text} (hu : ∀ c ∈ u, c.toNat < 128 ∧ c ≠ 'k') :
    lower t = u ↔ t.map Char.toLower = u := by
  constructor
  · rintro rfl
    exact (lower_of_ascii (isAscii_of_lower hu)).symm
  · rintro rfl
    refine lower_of_ascii fun c hc => toNat_lt_of_toLower ?_
    exact (hu _ (List.mem_map_of_mem hc)).1

end Monocycle.Text
