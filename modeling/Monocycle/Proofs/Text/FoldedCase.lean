import Monocycle.Proofs.Text.LetterCase
import Monocycle.Proofs.Text.Words

/-!
# Texts that differ in the case of ASCII letters

Two texts differ in the case of ASCII letters alone if they are the same text once every ASCII
letter is put into lower case, `t.map Char.toLower`. No cut that the assembler makes tells a capital
letter from a small one, so every cut goes through this map: it is the same whether the letters are
put into lower case before or after.

Lower-casing a text as a whole is more than a map on its characters, since a sigma is lower-cased by
the characters around it. But it looks at them only for being cased or being looked through, and the
two forms of an ASCII letter agree in both. So `lower` does not see whether ASCII letters have been
put into lower case before.

## Main results

* `apply_toLower`: a function of characters does not see letter case if it does not in ASCII.
* `toLower_eq_iff`, `map_toLower_eq_iff`: what is not a letter is not changed.
* `splitOn_map`, `trim_map`: cuts by a class of characters that a map keeps.
* `lines_map_toLower`: lines.
* `lower_map_toLower`: **lower-casing does not see the case of ASCII letters.**
-/

namespace Monocycle.Text

/-! ### Characters -/

/-- **A function of characters does not see letter case** if it does not in ASCII, since beyond
ASCII no character is put into lower case. -/
theorem apply_toLower {α : Type} {f : Char → α}
    (h : ∀ n < 128, f (Char.ofNat n).toLower = f (Char.ofNat n)) (c : Char) :
    f c.toLower = f c := by
  by_cases hc : c.toNat < 128
  · exact forall_ascii (P := fun c => f c.toLower = f c) h hc
  · rw [toLower_eq_self hc]

theorem isCased_toLower (c : Char) : isCased c.toLower = isCased c :=
  apply_toLower (by decide) c

theorem isCaseIgnorable_toLower (c : Char) : isCaseIgnorable c.toLower = isCaseIgnorable c :=
  apply_toLower (by decide) c

/-- A character that is no letter of ASCII is the lower-case form of itself alone. -/
theorem toLower_eq_iff {c d : Char} (hd : d.isAlpha = false) : c.toLower = d ↔ c = d := by
  have halpha : c.toLower.isAlpha = c.isAlpha := apply_toLower (by decide) c
  have hsame : c.isAlpha = false → c.toLower = c := by
    intro hc
    by_cases hascii : c.toNat < 128
    · exact forall_ascii (P := fun c => c.isAlpha = false → c.toLower = c) (by decide) hascii hc
    · exact toLower_eq_self hascii
  constructor
  · rintro rfl
    exact (hsame (halpha ▸ hd)).symm
  · rintro rfl
    exact hsame hd

/-- A text without letters of ASCII is the lower-case form of itself alone. -/
theorem map_toLower_eq_iff {t u : Text} (hu : ∀ c ∈ u, c.isAlpha = false) :
    t.map Char.toLower = u ↔ t = u := by
  induction u generalizing t with
  | nil => exact List.map_eq_nil_iff
  | cons d rest ih =>
      obtain ⟨hd, hrest⟩ := List.forall_mem_cons.mp hu
      cases t with
      | nil => simp
      | cons c t =>
          rw [List.map_cons, List.cons.injEq, List.cons.injEq, toLower_eq_iff hd, ih hrest]

/-! ### Cuts -/

section

variable {p : Char → Bool} {f : Char → Char}

/-- A map that keeps a class of characters is kept by trimming. -/
theorem trim_map (h : ∀ c, p (f c) = p c) (t : Text) : trim p (t.map f) = (trim p t).map f := by
  have hclass : p ∘ f = p := funext h
  rw [trim, trimEnd, List.dropWhile_map, hclass, ← List.map_reverse, List.dropWhile_map, hclass,
    ← List.map_reverse]
  rfl

/-- A character goes into the first field, mapped or not. -/
theorem consFirst_map (c : Char) (fields : List Text) :
    consFirst (f c) (fields.map (List.map f)) = (consFirst c fields).map (List.map f) := by
  cases fields with
  | nil => rfl
  | cons field rest => rfl

/-- A map that keeps a class of characters is kept by cutting into fields. -/
theorem splitOn_map (h : ∀ c, p (f c) = p c) (t : Text) :
    splitOn p (t.map f) = (splitOn p t).map (List.map f) := by
  induction t with
  | nil => rfl
  | cons c rest ih =>
      rw [List.map_cons, splitOn, splitOn, h, ih]
      split
      · rfl
      · exact consFirst_map c _

/-- A map that keeps a class of characters is kept by cutting into words. -/
theorem wordsBetween_map (h : ∀ c, p (f c) = p c) (t : Text) :
    wordsBetween p (t.map f) = (wordsBetween p t).map (List.map f) := by
  have hempty : (fun field : Text => !field.isEmpty) ∘ List.map f = fun field => !field.isEmpty :=
    funext fun field => by rw [Function.comp_apply, List.isEmpty_map]
  rw [wordsBetween, splitOn_map h, List.filter_map, hempty, wordsBetween]

end

/-- Letter case makes no difference to the blanks at the ends of a text. -/
theorem strip_map_toLower (t : Text) : strip (t.map Char.toLower) = (strip t).map Char.toLower :=
  trim_map (apply_toLower (by decide)) t

/-- **Letter case makes no difference to lines.** -/
theorem lines_map_toLower (t : Text) :
    lines (t.map Char.toLower) = (lines t).map (List.map Char.toLower) := by
  have hend : ∀ c : Char, isLineEnd c.toLower = isLineEnd c := apply_toLower (by decide)
  have hpair : ∀ {c : Char} {rest : Text}, (∀ rest', c = '\r' → rest = '\n' :: rest' → False) →
      ¬(c.toLower = '\r' ∧ (rest.map Char.toLower).head? = some '\n') := by
    rintro c rest hsingle ⟨hc, hhead⟩
    cases rest with
    | nil => cases hhead
    | cons d rest =>
        have hd : d = '\n' := (toLower_eq_iff (by decide)).mp (Option.some.inj hhead)
        exact hsingle rest ((toLower_eq_iff (by decide)).mp hc) (hd ▸ rfl)
  fun_induction lines t with
  | case1 => rfl
  | case2 rest ih => exact congrArg (List.cons []) ih
  | case3 c rest hsingle hc ih =>
      rw [List.map_cons, lines_cons_of_not_pair (hpair hsingle), hend, if_pos hc, ih]
      rfl
  | case4 c rest hsingle hc ih =>
      rw [List.map_cons, lines_cons_of_not_pair (hpair hsingle), hend, if_neg hc, ih, consFirst_map]

/-! ### Lower case -/

/-- Letter case makes no difference to where a word ends. -/
theorem endsWord_map_toLower (before after : Text) :
    endsWord (before.map Char.toLower) (after.map Char.toLower) = endsWord before after := by
  have hignorable : isCaseIgnorable ∘ Char.toLower = isCaseIgnorable :=
    funext isCaseIgnorable_toLower
  have hstarts : ∀ t : Text, startsCased (t.map Char.toLower) = startsCased t := by
    intro t
    rw [startsCased, startsCased, List.dropWhile_map, hignorable]
    cases t.dropWhile isCaseIgnorable with
    | nil => rfl
    | cons c rest => exact isCased_toLower c
  rw [endsWord, endsWord, hstarts, hstarts]

theorem lowerAfter_map_toLower (before t : Text) :
    lowerAfter (before.map Char.toLower) (t.map Char.toLower) = lowerAfter before t := by
  induction t generalizing before with
  | nil => rfl
  | cons c rest ih =>
      have hsigma : (c.toLower == 'Σ') = (c == 'Σ') :=
        apply_toLower (f := (· == 'Σ')) (by decide) c
      have hform : lowerChar c.toLower = lowerChar c := apply_toLower (by decide) c
      have hrest := ih (c :: before)
      rw [List.map_cons] at hrest
      rw [List.map_cons, lowerAfter, lowerAfter, hsigma, hform, endsWord_map_toLower, hrest]

/-- **Lower-casing does not see the case of ASCII letters.** -/
theorem lower_map_toLower (t : Text) : lower (t.map Char.toLower) = lower t :=
  lowerAfter_map_toLower [] t

/-- Letters of ASCII around a sigma: whether it ends the word does not depend on their case. -/
example : lower "ΣAΣ".toList = lower "ΣaΣ".toList := by decide

end Monocycle.Text
