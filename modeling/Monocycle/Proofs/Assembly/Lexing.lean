import Monocycle.Proofs.Assembly.Layout
import Monocycle.Proofs.Assembly.Lines
import Monocycle.Proofs.Text.Spacing

/-!
# Lines are cut without loss

A line has a label in front of a colon, or none, and behind it tokens. Where the line ends in a
colon, this colon ends the label; anywhere else the first colon does, if a label name stands before
it. What the cut takes away is the colon and the blanks around the two parts, and what the tokens
leave out is nothing but blanks and commas.

## Main definitions

* `IsLabelName`: the names that labels in front of an instruction may have.
* `IsCut`: a line that is cut at a colon.

## Main results

* `splitLabel_stripLine`: a line is left as it is or cut at a colon.
* `label_eq_none_iff`: when a line has no label that does not end in a colon.
* `lexing_is_lossless`: **the parts of a line**, and the texts that are cut into given tokens.
-/

namespace Monocycle

open Text

/-- A **label name** begins with a letter, an underscore, a point or a dollar sign, and goes on with
word characters, points and dollar signs. -/
def IsLabelName (t : Text) : Prop :=
  ∃ c rest, t = c :: rest ∧ (c.isAlpha = true ∨ c ∈ ['_', '.', '$']) ∧
    ∀ d ∈ rest, isWordChar d = true ∨ d ∈ ['.', '$']

theorem isLabelName_iff {t : Text} : isLabelName t = true ↔ IsLabelName t := by
  cases t with
  | nil =>
      refine iff_of_false (by simp [isLabelName]) ?_
      rintro ⟨c, rest, heq, -⟩
      cases heq
  | cons c rest =>
      have hstart : isLabelStart c = true ↔ c.isAlpha = true ∨ c ∈ ['_', '.', '$'] := by
        simp [isLabelStart, or_assoc]
      have hchar : ∀ d, isLabelChar d = true ↔ isWordChar d = true ∨ d ∈ ['.', '$'] := by
        simp [isLabelChar, or_assoc]
      rw [isLabelName, Bool.and_eq_true, List.all_eq_true, hstart]
      constructor
      · rintro ⟨hc, hrest⟩
        exact ⟨c, rest, rfl, hc, fun d hd => (hchar d).mp (hrest d hd)⟩
      · rintro ⟨c', rest', heq, hc, hrest⟩
        obtain ⟨rfl, rfl⟩ := List.cons.inj heq
        exact ⟨hc, fun d hd => (hchar d).mpr (hrest d hd)⟩

/-! ### The colon -/

/-- A text has no colon, or a first one. -/
theorem not_mem_or_first_colon (t : Text) :
    ':' ∉ t ∨ ∃ before after, t = before ++ ':' :: after ∧ ':' ∉ before := by
  by_cases hcolon : ':' ∈ t
  · exact .inr (List.eq_append_cons_of_mem hcolon)
  · exact .inl hcolon

section

variable {line before after : Text}

/-- **A line without a label** that does not end in a colon has no colon, or something else than a
label name before the first one. -/
theorem label_eq_none_iff (hend : line.getLast? ≠ some ':') :
    (splitLabel line).1 = none ↔
      ':' ∉ line ∨ ∃ before after, line = before ++ ':' :: after ∧ ':' ∉ before ∧
        ¬IsLabelName (strip before) := by
  constructor
  · intro hnone
    rcases not_mem_or_first_colon line with hcolon | ⟨before, after, rfl, hbefore⟩
    · exact .inl hcolon
    · refine .inr ⟨before, after, rfl, hbefore, fun hname => ?_⟩
      rw [splitLabel_of_first_colon hbefore hend, if_pos (isLabelName_iff.mpr hname)] at hnone
      cases hnone
  · rintro (hcolon | ⟨before, after, rfl, hbefore, hname⟩)
    · rw [splitLabel_of_forall_ne_colon fun c hc heq => hcolon (heq ▸ hc)]
    · rw [splitLabel_of_first_colon hbefore hend, if_neg (mt isLabelName_iff.mp hname)]

/-- Something is left behind the colon of a line that does not end in one. -/
theorem strip_ne_nil_of_first_colon {raw : Text} (heq : stripLine raw = before ++ ':' :: after)
    (hbefore : ':' ∉ before) (hend : (stripLine raw).getLast? ≠ some ':') : strip after ≠ [] := by
  have hdrop : (stripLine raw).dropWhile (· != ':') = ':' :: after := by
    rw [heq]
    exact (cut_at_first_colon hbefore after).2
  exact strip_ne_nil_of_dropWhile hend hdrop

/-- A line **is cut** into a label and a rest at a colon: they are what stands on the two sides of
it, without blanks around. Nothing is left for the rest exactly if the line ends in a colon.
Otherwise the colon is the first one, and the label has a label name. -/
def IsCut (line label rest : Text) : Prop :=
  ∃ before after, line = before ++ ':' :: after ∧ label = strip before ∧ rest = strip after ∧
    (rest = [] ↔ line.getLast? = some ':') ∧
    (line.getLast? ≠ some ':' → ':' ∉ before ∧ IsLabelName label)

/-- **A stripped line** is left as it is, or cut at a colon. -/
theorem splitLabel_stripLine (raw : Text) :
    splitLabel (stripLine raw) = (none, stripLine raw) ∨
      ∃ label rest, splitLabel (stripLine raw) = (some label, rest) ∧
        IsCut (stripLine raw) label rest := by
  by_cases hend : (stripLine raw).getLast? = some ':'
  · refine .inr ⟨_, _, if_pos hend, (stripLine raw).dropLast, [], ?_, rfl, rfl,
      iff_of_true rfl hend, fun h => absurd hend h⟩
    exact (List.dropLast_append_getLast? ':' hend).symm
  · rcases not_mem_or_first_colon (stripLine raw) with hcolon | ⟨before, after, heq, hbefore⟩
    · exact .inl (splitLabel_of_forall_ne_colon fun c hc heq => hcolon (heq ▸ hc))
    · have hrest : strip after ≠ [] := strip_ne_nil_of_first_colon heq hbefore hend
      have hcut := splitLabel_of_first_colon hbefore (heq ▸ hend)
      rw [← heq] at hcut
      by_cases hname : isLabelName (strip before) = true
      · rw [if_pos hname] at hcut
        exact .inr ⟨_, _, hcut, before, after, heq, rfl, rfl, iff_of_false hrest hend,
          fun _ => ⟨hbefore, isLabelName_iff.mp hname⟩⟩
      · rw [if_neg hname] at hcut
        exact .inl hcut

end

/-! ### Lines and tokens -/

/-- **Lexing loses nothing.** A stripped line is left as it is, or cut at a colon into its label and
the rest. If it does not end in a colon, it has no label exactly if it has no colon or something
else than a label name before the first one; if it does, all the rest of it is its label. A text is
cut into some tokens exactly if it is put together from them, with runs of blanks and commas between
them and at its ends; the tokens of any text are not empty and have no blank and no comma in
them. -/
theorem lexing_is_lossless :
    (∀ raw, let line := stripLine raw
      (splitLabel line = (none, line) ∨
        ∃ label rest, splitLabel line = (some label, rest) ∧ IsCut line label rest) ∧
      (line.getLast? ≠ some ':' →
        ((splitLabel line).1 = none ↔
          ':' ∉ line ∨ ∃ before after, line = before ++ ':' :: after ∧ ':' ∉ before ∧
            ¬IsLabelName (strip before))) ∧
      (line.getLast? = some ':' → splitLabel line = (some (strip line.dropLast), []))) ∧
    (∀ text words, tokens text = words ↔
      ∃ lead pieces, IsSpacing isTokenSeparator lead pieces ∧ spaced lead pieces = text ∧
        pieces.map Prod.fst = words) ∧
    ∀ text, ∀ token ∈ tokens text, token ≠ [] ∧ ∀ c ∈ token, isBlank c = false ∧ c ≠ ',' := by
  refine ⟨fun raw => ?_, fun text words => wordsBetween_eq_iff, fun text token => of_mem_tokens⟩
  intro line
  exact ⟨splitLabel_stripLine raw, label_eq_none_iff, fun hend => if_pos hend⟩

example : splitLabel (stripLine "  loop : beq x1, x2, a:b # again".toList) =
    (some "loop".toList, "beq x1, x2, a:b".toList) := by decide

end Monocycle
