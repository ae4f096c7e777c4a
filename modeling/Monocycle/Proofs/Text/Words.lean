import Monocycle.Text.Blank
import Monocycle.Text.Line
import Mathlib.Data.List.Basic
import Mathlib.Data.List.TakeWhile

/-!
# Cutting texts that were put together

The equations by which a text is trimmed, cut into words and cut into lines, for texts that were
put together from parts: a part without separators comes out whole, and a separator behind it ends
it.

## Main results

* `trim_eq_self`: a text is not trimmed if neither end is of the class.
* `trim_eq_nil_iff`, `head?_trim`, `getLast?_trim`: when nothing is left of a text, and what is not
  left at its ends.
* `wordsBetween_append`, `wordsBetween_separator`: words come out one by one.
* `lines_append`, `lines_eq_singleton`: so do lines.
* `lines_append_of_getLast?`: the lines of texts put together behind a line feed.
* `wordsBetween_intercalate`, `lines_intercalate`: joined words and lines come apart again.
* `not_isSeparator_of_mem_wordsBetween`, `not_isLineEnd_of_mem_lines`: what is not in a word or a
  line.
-/

namespace Monocycle.Text

/-! ### Trimming -/

/-- A text is left alone if neither its first nor its last character is of the class. -/
theorem trim_eq_self {p : Char → Bool} {t : Text} (hfirst : ∀ c ∈ t.head?, p c = false)
    (hlast : ∀ c ∈ t.getLast?, p c = false) : trim p t = t := by
  have hstart : t.dropWhile p = t := by
    cases t with
    | nil => rfl
    | cons c rest => rw [List.dropWhile_cons_of_neg (by simp [hfirst c rfl])]
  have hend : t.reverse.dropWhile p = t.reverse := by
    cases hr : t.reverse with
    | nil => rfl
    | cons c rest =>
        have hc : p c = false := by
          refine hlast c ?_
          rw [List.getLast?_eq_head?_reverse, hr]
          rfl
        rw [List.dropWhile_cons_of_neg (by simp [hc])]
  rw [trim, trimEnd, hstart, hend, List.reverse_reverse]

/-- Trimming leaves nothing exactly of a text that is of the class as a whole. -/
theorem trim_eq_nil_iff {p : Char → Bool} {t : Text} : trim p t = [] ↔ ∀ c ∈ t, p c = true := by
  rw [trim, trimEnd, List.reverse_eq_nil_iff, List.dropWhile_eq_nil_iff]
  constructor
  · intro h
    have hstart : t.dropWhile p = [] := by
      by_contra hne
      have hhead : p ((t.dropWhile p).head hne) = true :=
        h _ (List.mem_reverse.mpr (List.head_mem hne))
      exact Bool.noConfusion (hhead.symm.trans (List.head_dropWhile_not p hne))
    exact List.dropWhile_eq_nil_iff.mp hstart
  · intro h c hc
    exact h c ((List.dropWhile_sublist p).mem (List.mem_reverse.mp hc))

/-- A trimmed text does not end with a character of the class. -/
theorem getLast?_trim {p : Char → Bool} {t : Text} {c : Char} (h : (trim p t).getLast? = some c) :
    p c = false := by
  rw [trim, trimEnd, List.getLast?_reverse] at h
  have hhead := List.head?_dropWhile_not p (t.dropWhile p).reverse
  rw [h] at hhead
  exact hhead

/-- What is left of a trimmed text was in it in this order. -/
theorem trim_sublist (p : Char → Bool) (t : Text) : (trim p t).Sublist t := by
  have hend : ((t.dropWhile p).reverse.dropWhile p).reverse.Sublist (t.dropWhile p) := by
    simpa using (List.dropWhile_sublist (l := (t.dropWhile p).reverse) p).reverse
  exact hend.trans (List.dropWhile_sublist p)

/-- A trimmed text does not begin with a character of the class. -/
theorem head?_trim {p : Char → Bool} {t : Text} {c : Char} (h : (trim p t).head? = some c) :
    p c = false := by
  have hprefix : trim p t <+: t.dropWhile p := by
    rw [← List.reverse_suffix, trim, trimEnd, List.reverse_reverse]
    exact List.dropWhile_suffix p
  have hfirst : (t.dropWhile p).head? = some c := by
    obtain ⟨rest, hrest⟩ := hprefix
    rw [← hrest, List.head?_append, h, Option.some_or]
  have hhead := List.head?_dropWhile_not p t
  rw [hfirst] at hhead
  exact hhead

/-- A blank in front of a text is taken off. -/
theorem strip_cons_of_isBlank {c : Char} (h : isBlank c = true) (t : Text) :
    strip (c :: t) = strip t := by
  rw [strip, strip, trim, trim, List.dropWhile_cons_of_pos h]

/-! ### Joined texts -/

/-- A character of joined texts is one of a text or of the separator. -/
theorem mem_intercalate {separator : Text} {texts : List Text} {c : Char}
    (h : c ∈ separator.intercalate texts) : c ∈ separator ∨ ∃ t ∈ texts, c ∈ t := by
  induction texts with
  | nil => simp at h
  | cons t rest ih =>
      cases rest with
      | nil => exact .inr ⟨t, List.mem_cons_self, by simpa using h⟩
      | cons t' rest =>
          rw [List.intercalate_cons_cons, List.append_assoc, List.mem_append, List.mem_append] at h
          rcases h with ht | hseparator | hrest
          · exact .inr ⟨t, List.mem_cons_self, ht⟩
          · exact .inl hseparator
          · refine (ih hrest).imp_right ?_
            rintro ⟨t'', hmem, hc⟩
            exact ⟨t'', List.mem_cons_of_mem _ hmem, hc⟩

/-- Joined texts are empty only if there are none, as long as none of them is empty. -/
theorem intercalate_ne_nil {separator : Text} {texts : List Text} (h : ∀ t ∈ texts, t ≠ [])
    (hne : texts ≠ []) : separator.intercalate texts ≠ [] := by
  cases texts with
  | nil => exact absurd rfl hne
  | cons t rest =>
      have ht : t ≠ [] := h t List.mem_cons_self
      cases rest with
      | nil => simpa using ht
      | cons t' rest =>
          rw [List.intercalate_cons_cons, List.append_assoc]
          exact List.append_ne_nil_of_left_ne_nil ht _

/-- The last character of joined texts is one of a text, as long as none of them is empty. -/
theorem exists_mem_of_getLast?_intercalate {separator : Text} {texts : List Text} {c : Char}
    (hne : ∀ t ∈ texts, t ≠ []) (h : c ∈ (separator.intercalate texts).getLast?) :
    ∃ t ∈ texts, c ∈ t := by
  induction texts with
  | nil => simp at h
  | cons t rest ih =>
      cases rest with
      | nil =>
          rw [List.intercalate_singleton] at h
          exact ⟨t, List.mem_cons_self, List.mem_of_getLast? h⟩
      | cons t' rest =>
          have hrest : ∀ t'' ∈ t' :: rest, t'' ≠ [] :=
            fun t'' ht'' => hne t'' (List.mem_cons_of_mem _ ht'')
          rw [List.intercalate_cons_cons, List.getLast?_append_of_ne_nil _
            (intercalate_ne_nil hrest (List.cons_ne_nil t' rest))] at h
          obtain ⟨t'', hmem, hc⟩ := ih hrest h
          exact ⟨t'', List.mem_cons_of_mem _ hmem, hc⟩

/-- What holds of the characters of some fields, and of one that goes in front of the first, holds
of those of all fields there are then. -/
theorem forall_of_mem_consFirst {P : Char → Prop} {c : Char} {fields : List Text} {field : Text}
    (hc : P c) (hfields : ∀ field ∈ fields, ∀ d ∈ field, P d) (h : field ∈ consFirst c fields) :
    ∀ d ∈ field, P d := by
  cases fields with
  | nil =>
      obtain rfl := List.mem_singleton.mp h
      simpa using hc
  | cons first rest =>
      obtain rfl | hrest := List.mem_cons.mp h
      · exact List.forall_mem_cons.mpr ⟨hc, hfields first List.mem_cons_self⟩
      · exact hfields field (List.mem_cons_of_mem _ hrest)

/-! ### Words -/

section

variable {isSeparator : Char → Bool} {word : Text}

/-- A text without separators is one field. -/
theorem splitOn_eq_singleton (h : ∀ c ∈ word, isSeparator c = false) :
    splitOn isSeparator word = [word] := by
  induction word with
  | nil => rfl
  | cons c rest ih =>
      have hc : ¬isSeparator c = true := by simp [h c List.mem_cons_self]
      rw [splitOn, if_neg hc, ih fun d hd => h d (List.mem_cons_of_mem _ hd)]
      rfl

/-- A separator ends the field in front of it. -/
theorem splitOn_append (h : ∀ c ∈ word, isSeparator c = false) {s : Char}
    (hs : isSeparator s = true) (t : Text) :
    splitOn isSeparator (word ++ s :: t) = word :: splitOn isSeparator t := by
  induction word with
  | nil => rw [List.nil_append, splitOn, if_pos hs]
  | cons c rest ih =>
      have hc : ¬isSeparator c = true := by simp [h c List.mem_cons_self]
      rw [List.cons_append, splitOn, if_neg hc, ih fun d hd => h d (List.mem_cons_of_mem _ hd)]
      rfl

/-- There is no separator in a field. -/
theorem not_isSeparator_of_mem_splitOn {t field : Text} (h : field ∈ splitOn isSeparator t) :
    ∀ c ∈ field, isSeparator c = false := by
  induction t generalizing field with
  | nil =>
      rw [splitOn, List.mem_singleton] at h
      simp [h]
  | cons c rest ih =>
      rw [splitOn] at h
      split at h
      · obtain rfl | hrest := List.mem_cons.mp h
        · simp
        · exact ih hrest
      · next hc =>
          exact forall_of_mem_consFirst (by simpa using hc) (fun _ hfield => ih hfield) h

/-- There is no separator in a word. -/
theorem not_isSeparator_of_mem_wordsBetween {t : Text} (h : word ∈ wordsBetween isSeparator t) :
    ∀ c ∈ word, isSeparator c = false :=
  not_isSeparator_of_mem_splitOn (List.mem_filter.mp h).1

/-- A text without separators that is not empty is one word. -/
theorem wordsBetween_eq_singleton (h : ∀ c ∈ word, isSeparator c = false) (hne : word ≠ []) :
    wordsBetween isSeparator word = [word] := by
  rw [wordsBetween, splitOn_eq_singleton h, List.filter_cons_of_pos (by simpa using hne),
    List.filter_nil]

/-- **The first word** of a text ends at the first separator. -/
theorem wordsBetween_append (h : ∀ c ∈ word, isSeparator c = false) (hne : word ≠ []) {s : Char}
    (hs : isSeparator s = true) (t : Text) :
    wordsBetween isSeparator (word ++ s :: t) = word :: wordsBetween isSeparator t := by
  rw [wordsBetween, splitOn_append h hs, List.filter_cons_of_pos (by simpa using hne),
    wordsBetween]

/-- A separator in front of a text makes no word. -/
theorem wordsBetween_separator {s : Char} (hs : isSeparator s = true) (t : Text) :
    wordsBetween isSeparator (s :: t) = wordsBetween isSeparator t := by
  rw [wordsBetween, splitOn, if_pos hs, List.filter_cons_of_neg (by simp), wordsBetween]

/-- Separators in front of a text make no words. -/
theorem wordsBetween_separators {separators : Text} (h : ∀ s ∈ separators, isSeparator s = true)
    (t : Text) : wordsBetween isSeparator (separators ++ t) = wordsBetween isSeparator t := by
  induction separators with
  | nil => rfl
  | cons s rest ih =>
      rw [List.cons_append, wordsBetween_separator (h s List.mem_cons_self),
        ih fun s' hs' => h s' (List.mem_cons_of_mem _ hs')]

/-- **Joined words** come apart again. -/
theorem wordsBetween_intercalate {separator : Text} {words : List Text}
    (hseparator : ∀ s ∈ separator, isSeparator s = true) (hsome : separator ≠ [])
    (h : ∀ word ∈ words, word ≠ [] ∧ ∀ c ∈ word, isSeparator c = false) :
    wordsBetween isSeparator (separator.intercalate words) = words := by
  obtain ⟨s, more, rfl⟩ := List.exists_cons_of_ne_nil hsome
  have hs : isSeparator s = true := hseparator s List.mem_cons_self
  have hmore : ∀ s' ∈ more, isSeparator s' = true :=
    fun s' hs' => hseparator s' (List.mem_cons_of_mem _ hs')
  induction words with
  | nil => rfl
  | cons word rest ih =>
      obtain ⟨hne, hword⟩ := h word List.mem_cons_self
      have hrest := ih fun word' hword' => h word' (List.mem_cons_of_mem _ hword')
      cases rest with
      | nil => rw [List.intercalate_singleton, wordsBetween_eq_singleton hword hne]
      | cons word' rest =>
          rw [List.intercalate_cons_cons, List.append_assoc, List.cons_append,
            wordsBetween_append hword hne hs, wordsBetween_separators hmore, hrest]

end

/-! ### Lines -/

/-- The first line is ended by a character by itself, unless that is a carriage return with a line
feed behind it. -/
theorem lines_cons_of_not_pair {c : Char} {t : Text} (h : ¬(c = '\r' ∧ t.head? = some '\n')) :
    lines (c :: t) = if isLineEnd c then [] :: lines t else consFirst c (lines t) := by
  rw [lines.eq_def]
  split
  · next heq => cases heq
  · next heq =>
      cases heq
      exact absurd ⟨rfl, rfl⟩ h
  · next heq =>
      cases heq
      rfl

/-- A character that ends no line goes into the first line. -/
theorem lines_cons {c : Char} (h : isLineEnd c = false) (t : Text) :
    lines (c :: t) = consFirst c (lines t) := by
  have hsingle : ¬(c = '\r' ∧ t.head? = some '\n') := by
    rintro ⟨rfl, -⟩
    exact absurd h (by decide)
  rw [lines_cons_of_not_pair hsingle, if_neg (by simp [h])]

/-- **The first line** of a text ends at the first line feed. -/
theorem lines_append {line : Text} (h : ∀ c ∈ line, isLineEnd c = false) (t : Text) :
    lines (line ++ '\n' :: t) = line :: lines t := by
  induction line with
  | nil =>
      rw [List.nil_append, lines_cons_of_not_pair (by simp), if_pos (by decide)]
  | cons c rest ih =>
      rw [List.cons_append, lines_cons (h c List.mem_cons_self),
        ih fun d hd => h d (List.mem_cons_of_mem _ hd)]
      rfl

/-- A text without line ends that is not empty is one line. -/
theorem lines_eq_singleton {line : Text} (h : ∀ c ∈ line, isLineEnd c = false) (hne : line ≠ []) :
    lines line = [line] := by
  induction line with
  | nil => exact absurd rfl hne
  | cons c rest ih =>
      rw [lines_cons (h c List.mem_cons_self)]
      cases rest with
      | nil => rfl
      | cons d rest =>
          rw [ih (fun e he => h e (List.mem_cons_of_mem _ he)) (List.cons_ne_nil d rest)]
          rfl

/-- A character goes into the first of some fields, whatever follows them. -/
theorem consFirst_append {c : Char} {fields : List Text} (h : fields ≠ []) (more : List Text) :
    consFirst c (fields ++ more) = consFirst c fields ++ more := by
  cases fields with
  | nil => exact absurd rfl h
  | cons field rest => rfl

/-- A text that is not empty has a line. -/
theorem lines_ne_nil {t : Text} (h : t ≠ []) : lines t ≠ [] := by
  have hfirst : ∀ c fields, consFirst c fields ≠ [] := by
    intro c fields
    cases fields <;> exact List.cons_ne_nil _ _
  rw [lines.eq_def]
  split
  · exact absurd rfl h
  · exact List.cons_ne_nil _ _
  · split
    · exact List.cons_ne_nil _ _
    · exact hfirst _ _

/-- **Lines of texts put together** are those of the one and those of the other, if nothing stands
in the first behind its last line feed. -/
theorem lines_append_of_getLast? {t : Text} (h : ∀ c ∈ t.getLast?, c = '\n') (more : Text) :
    lines (t ++ more) = lines t ++ lines more := by
  have htail : ∀ {c : Char} {rest : Text}, (∀ d ∈ (c :: rest).getLast?, d = '\n') →
      ∀ d ∈ rest.getLast?, d = '\n' := by
    intro c rest h d hd
    cases rest with
    | nil => cases hd
    | cons e rest => exact h d (by rwa [List.getLast?_cons_cons])
  fun_induction lines t with
  | case1 => rfl
  | case2 rest ih =>
      rw [List.cons_append, List.cons_append, lines, ih (htail (htail h)), List.cons_append]
  | case3 c rest hpair hend ih =>
      have hsingle : ¬(c = '\r' ∧ (rest ++ more).head? = some '\n') := by
        rintro ⟨rfl, hhead⟩
        cases rest with
        | nil => cases h '\r' rfl
        | cons d rest =>
            obtain rfl := Option.some.inj hhead
            exact hpair rest rfl rfl
      rw [List.cons_append, lines_cons_of_not_pair hsingle, if_pos hend, ih (htail h),
        List.cons_append]
  | case4 c rest hpair hend ih =>
      have hsome : rest ≠ [] := by
        rintro rfl
        obtain rfl := h c rfl
        exact hend (by decide)
      rw [List.cons_append, lines_cons (by simpa using hend), ih (htail h),
        consFirst_append (lines_ne_nil hsome)]

/-- What holds of the characters of a text holds of those of its lines. -/
theorem forall_of_mem_lines {P : Char → Prop} {t line : Text} (ht : ∀ c ∈ t, P c)
    (h : line ∈ lines t) : ∀ c ∈ line, P c := by
  fun_induction lines t generalizing line with
  | case1 => cases h
  | case2 rest ih =>
      obtain rfl | hrest := List.mem_cons.mp h
      · simp
      · exact ih (fun c hc => ht c (List.mem_cons_of_mem _ (List.mem_cons_of_mem _ hc))) hrest
  | case3 c rest _ _ ih =>
      obtain rfl | hrest := List.mem_cons.mp h
      · simp
      · exact ih (fun d hd => ht d (List.mem_cons_of_mem _ hd)) hrest
  | case4 c rest _ _ ih =>
      have hrest : ∀ line ∈ lines rest, ∀ d ∈ line, P d := fun _ hline =>
        ih (fun d hd => ht d (List.mem_cons_of_mem _ hd)) hline
      exact forall_of_mem_consFirst (ht c List.mem_cons_self) hrest h

/-- There is no line end in a line. -/
theorem not_isLineEnd_of_mem_lines {t line : Text} (h : line ∈ lines t) :
    ∀ c ∈ line, isLineEnd c = false := by
  fun_induction lines t generalizing line with
  | case1 => cases h
  | case2 rest ih =>
      obtain rfl | hrest := List.mem_cons.mp h
      · simp
      · exact ih hrest
  | case3 c rest _ _ ih =>
      obtain rfl | hrest := List.mem_cons.mp h
      · simp
      · exact ih hrest
  | case4 c rest _ hc ih =>
      exact forall_of_mem_consFirst (by simpa using hc) (fun _ hline => ih hline) h

/-- **Joined lines** come apart again, with or without a line feed behind the last one. -/
theorem lines_intercalate {ls : List Text}
    (h : ∀ line ∈ ls, line ≠ [] ∧ ∀ c ∈ line, isLineEnd c = false) (hsome : ls ≠ []) :
    lines (['\n'].intercalate ls) = ls ∧ lines (['\n'].intercalate ls ++ ['\n']) = ls := by
  induction ls with
  | nil => exact absurd rfl hsome
  | cons line rest ih =>
      obtain ⟨hne, hline⟩ := h line List.mem_cons_self
      cases rest with
      | nil =>
          rw [List.intercalate_singleton]
          exact ⟨lines_eq_singleton hline hne, lines_append hline []⟩
      | cons line' rest =>
          obtain ⟨hplain, hended⟩ := ih (fun line'' hline'' => h line''
            (List.mem_cons_of_mem _ hline'')) (List.cons_ne_nil line' rest)
          rw [List.intercalate_cons_cons, List.append_assoc, List.append_assoc, List.append_assoc]
          constructor
          · rw [List.singleton_append, lines_append hline, hplain]
          · rw [List.singleton_append, lines_append hline, hended]

end Monocycle.Text
