import Monocycle.Proofs.Text.Words

/-!
# Words with runs of separators between them

A text can be put together from words and runs of separators: a run in front, and then every word
with the run behind it. Only the runs at the two ends may be empty. Cutting such a text into words
gives the words back, whatever the runs are. Every text is put together like this from its own
words, so nothing but the runs is lost.

## Main definitions

* `spaced`, `IsSpacing`: the text put together from words and runs, and when they may be.

## Main results

* `wordsBetween_spaced`: the words come out again.
* `exists_spaced`: every text is put together from words and runs.
* `wordsBetween_eq_iff`: **a text is cut into some words** exactly if it is put together from them.
-/

namespace Monocycle.Text

/-- The text of a run in front and of words, each with the run behind it. -/
def spaced (lead : Text) (pieces : List (Text × Text)) : Text :=
  lead ++ pieces.flatMap fun piece => piece.1 ++ piece.2

/-- A run in front and words with the runs behind them are a **spacing**: the words are not empty
and have no separator in them, the runs consist of separators, and every word but the last has a run
behind it that is not empty. -/
structure IsSpacing (isSeparator : Char → Bool) (lead : Text) (pieces : List (Text × Text)) :
    Prop where
  lead : ∀ c ∈ lead, isSeparator c = true
  words : ∀ piece ∈ pieces, piece.1 ≠ [] ∧ ∀ c ∈ piece.1, isSeparator c = false
  runs : ∀ piece ∈ pieces, ∀ c ∈ piece.2, isSeparator c = true
  apart : ∀ piece ∈ pieces.dropLast, piece.2 ≠ []

section

variable {isSeparator : Char → Bool} {lead word run : Text} {pieces : List (Text × Text)}

/-- What stands behind the first word is put together from the run there and the other words. -/
theorem spaced_cons (lead word run : Text) (pieces : List (Text × Text)) :
    spaced lead ((word, run) :: pieces) = lead ++ (word ++ spaced run pieces) := by
  rw [spaced, List.flatMap_cons, List.append_assoc, spaced]

/-- A run alone is a spacing without words. -/
theorem IsSpacing.of_lead (h : ∀ c ∈ lead, isSeparator c = true) : IsSpacing isSeparator lead [] :=
  ⟨h, by simp, by simp, by simp⟩

/-- **A spacing with a word more in front**: there has to be a run between the words, unless there
is no other word. -/
theorem isSpacing_cons_iff :
    IsSpacing isSeparator lead ((word, run) :: pieces) ↔
      (∀ c ∈ lead, isSeparator c = true) ∧ (word ≠ [] ∧ ∀ c ∈ word, isSeparator c = false) ∧
        (run = [] → pieces = []) ∧ IsSpacing isSeparator run pieces := by
  constructor
  · rintro ⟨hlead, hwords, hruns, hapart⟩
    obtain ⟨hword, hwords⟩ := List.forall_mem_cons.mp hwords
    obtain ⟨hrun, hruns⟩ := List.forall_mem_cons.mp hruns
    cases pieces with
    | nil => exact ⟨hlead, hword, fun _ => rfl, hrun, hwords, hruns, by simp⟩
    | cons piece more =>
        rw [List.dropLast_cons_cons] at hapart
        obtain ⟨hsome, hapart⟩ := List.forall_mem_cons.mp hapart
        exact ⟨hlead, hword, fun hnil => absurd hnil hsome, hrun, hwords, hruns, hapart⟩
  · rintro ⟨hlead, hword, hsome, hrun, hwords, hruns, hapart⟩
    refine ⟨hlead, List.forall_mem_cons.mpr ⟨hword, hwords⟩,
      List.forall_mem_cons.mpr ⟨hrun, hruns⟩, ?_⟩
    cases pieces with
    | nil => simp
    | cons piece more =>
        rw [List.dropLast_cons_cons]
        exact List.forall_mem_cons.mpr ⟨fun hnil => List.cons_ne_nil _ _ (hsome hnil), hapart⟩

/-- **The words come out again** of a text that was put together from them. -/
theorem wordsBetween_spaced (h : IsSpacing isSeparator lead pieces) :
    wordsBetween isSeparator (spaced lead pieces) = pieces.map Prod.fst := by
  induction pieces generalizing lead with
  | nil => exact wordsBetween_separators h.lead []
  | cons piece more ih =>
      obtain ⟨word, run⟩ := piece
      obtain ⟨hlead, ⟨hne, hword⟩, hlast, hmore⟩ := isSpacing_cons_iff.mp h
      have hrest := ih hmore
      rw [spaced_cons, wordsBetween_separators hlead, List.map_cons]
      cases run with
      | nil =>
          obtain rfl := hlast rfl
          exact (congrArg (wordsBetween isSeparator) (List.append_nil word)).trans
            (wordsBetween_eq_singleton hword hne)
      | cons s run =>
          have hs : isSeparator s = true := hmore.lead s List.mem_cons_self
          have hsplit : spaced (s :: run) more = s :: spaced run more := rfl
          rw [hsplit, wordsBetween_separator hs] at hrest
          rw [hsplit, wordsBetween_append hword hne hs, hrest]

/-- **Every text is put together** from words and runs of separators. From its end to its front, a
separator goes to the run in front, and any other character begins a word or goes to the first. -/
theorem exists_spaced (isSeparator : Char → Bool) (t : Text) :
    ∃ lead pieces, IsSpacing isSeparator lead pieces ∧ spaced lead pieces = t := by
  induction t with
  | nil => exact ⟨[], [], .of_lead (by simp), rfl⟩
  | cons c rest ih =>
      obtain ⟨lead, pieces, hspacing, rfl⟩ := ih
      by_cases hc : isSeparator c = true
      · exact ⟨c :: lead, pieces,
          { hspacing with lead := List.forall_mem_cons.mpr ⟨hc, hspacing.lead⟩ }, rfl⟩
      · have hother : isSeparator c = false := eq_false_of_ne_true hc
        by_cases hnew : lead = [] → pieces = []
        · -- the character is a word by itself, as a run or nothing stands behind it
          refine ⟨[], ([c], lead) :: pieces, ?_, spaced_cons [] [c] lead pieces⟩
          exact isSpacing_cons_iff.mpr ⟨by simp, by simpa using hother, hnew, hspacing⟩
        · obtain ⟨rfl, hsome⟩ := Classical.not_imp.mp hnew
          obtain ⟨⟨word, run⟩, more, rfl⟩ := List.exists_cons_of_ne_nil hsome
          obtain ⟨-, ⟨-, hword⟩, hlast, hmore⟩ := isSpacing_cons_iff.mp hspacing
          refine ⟨[], (c :: word, run) :: more, ?_, rfl⟩
          exact isSpacing_cons_iff.mpr ⟨by simp,
            ⟨List.cons_ne_nil _ _, List.forall_mem_cons.mpr ⟨hother, hword⟩⟩, hlast, hmore⟩

/-- **A text is cut into some words** exactly if it is put together from them. -/
theorem wordsBetween_eq_iff {t : Text} {words : List Text} :
    wordsBetween isSeparator t = words ↔
      ∃ lead pieces, IsSpacing isSeparator lead pieces ∧ spaced lead pieces = t ∧
        pieces.map Prod.fst = words := by
  constructor
  · rintro rfl
    obtain ⟨lead, pieces, hspacing, rfl⟩ := exists_spaced isSeparator t
    exact ⟨lead, pieces, hspacing, rfl, (wordsBetween_spaced hspacing).symm⟩
  · rintro ⟨lead, pieces, hspacing, rfl, rfl⟩
    exact wordsBetween_spaced hspacing

end

end Monocycle.Text
