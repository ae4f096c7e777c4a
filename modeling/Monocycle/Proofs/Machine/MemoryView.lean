import Mathlib.Data.List.Induction
import Monocycle.Proofs.Machine.Window

/-!
# The view of a memory

A memory by itself is written to and cleared, and it is looked at through windows. What a window
shows is a matter of the history of the memory: at each address the value that was written there
last, as a word, unless the memory was cleared since, and zero otherwise.

Windows are cut to the memory and begin at a multiple of four, so their ends need not be where they
were asked for. All the same two windows that meet at an address make one, whatever the address is:
a multiple of four at or above it belongs to the second window, and any other to the first.

## Main definitions

* `DataMemory.Change`, `DataMemory.changed`: a history of writes and clears.

## Main results

* `read_changed_of_last`, `read_changed_of_cleared`: what a history leaves at an address.
* `words_append`: two windows that meet are one.
* `words_of_history`: **the view of a memory is exact, and it composes.**
-/

namespace Monocycle.DataMemory

/-! ### Histories -/

/-- A **change** of a memory: a value is written at an address, or the memory is cleared. -/
inductive Change where
  | write (address v : Int)
  | clear
  deriving DecidableEq, Repr

namespace Change

/-- A change **fits** a memory of a size if it does not write outside. -/
def Fits (size : Int) : Change → Prop
  | write address _ => 0 ≤ address ∧ address < size
  | clear => True

/-- A change **spares** an address if it writes at another one. -/
def Spares (a : Int) : Change → Prop
  | write address _ => address ≠ a
  | clear => False

end Change

/-- A memory after a change. -/
def change (m : DataMemory) : Change → DataMemory
  | .write address v => m.write address v
  | .clear => m.cleared

/-- A memory after a **history** of changes. -/
def changed (m : DataMemory) (history : List Change) : DataMemory :=
  history.foldl change m

section

variable {m : DataMemory} {history : List Change} {a : Int}

theorem changed_append (m : DataMemory) (earlier later : List Change) :
    m.changed (earlier ++ later) = (m.changed earlier).changed later :=
  List.foldl_append

/-- No change takes an address away or adds one. -/
@[simp] theorem size_changed (m : DataMemory) (history : List Change) :
    (m.changed history).size = m.size := by
  induction history generalizing m with
  | nil => rfl
  | cons c rest ih =>
      refine (ih (m.change c)).trans ?_
      cases c with
      | write address v => exact size_write m address v
      | clear => rfl

theorem Sized.change (h : m.Sized) (c : Change) : (m.change c).Sized := by
  cases c with
  | write address v => exact h.write address v
  | clear => exact sized_ofSize m.size

theorem Sized.changed (h : m.Sized) (history : List Change) : (m.changed history).Sized := by
  induction history generalizing m with
  | nil => exact h
  | cons c rest ih => exact ih (h.change c)

/-- A write elsewhere leaves the word at an address alone, inside the memory or outside. -/
theorem Sized.read_change_of_spares (h : m.Sized) {c : Change} (hspares : c.Spares a) :
    (m.change c).read a = m.read a := by
  cases c with
  | write address v =>
      have hne : a ≠ address := Ne.symm hspares
      rw [DataMemory.change]
      by_cases hin : m.inRange address = true
      · rw [h.read_write hin, if_neg hne]
      · rw [DataMemory.write, if_neg hin]
  | clear => exact hspares.elim

/-- Changes that spare an address leave the word there alone. -/
theorem Sized.read_changed_of_spares (h : m.Sized) (hspares : ∀ c ∈ history, c.Spares a) :
    (m.changed history).read a = m.read a := by
  induction history generalizing m with
  | nil => rfl
  | cons c rest ih =>
      obtain ⟨hc, hrest⟩ := List.forall_mem_cons.mp hspares
      exact (ih (h.change c) hrest).trans (h.read_change_of_spares hc)

/-- **The last write counts**: an address holds the word of the value that was written there last,
if the memory was not cleared since. -/
theorem read_changed_of_last {size v : Int} {before after : List Change}
    (hfits : (Change.write a v).Fits size) (hspares : ∀ c ∈ after, c.Spares a) :
    ((ofSize size).changed (before ++ .write a v :: after)).read a = Word.wrap v := by
  have hsized : ((ofSize size).changed before).Sized := (sized_ofSize size).changed before
  have hin : ((ofSize size).changed before).inRange a = true := by
    rw [inRange_iff, size_changed]
    exact hfits
  rw [changed_append]
  calc (((ofSize size).changed before).changed (.write a v :: after)).read a
      = (((ofSize size).changed before).write a v).read a :=
        (hsized.write a v).read_changed_of_spares hspares
    _ = Word.wrap v := by rw [hsized.read_write hin, if_pos rfl]

/-- **Without a write there is zero**: an address holds zero if the memory was cleared after every
write to it. -/
theorem read_changed_of_cleared {size : Int}
    (h : ∀ before v after, history = before ++ .write a v :: after → .clear ∈ after) :
    ((ofSize size).changed history).read a = 0 := by
  induction history using List.reverseRecOn with
  | nil => exact read_ofSize size a
  | append_singleton earlier c ih =>
      rw [changed_append]
      cases c with
      | clear => exact read_ofSize _ a
      | write address v =>
          have hne : address ≠ a := by
            rintro rfl
            cases h earlier v [] rfl
          have hspares : (Change.write address v).Spares a := hne
          have hsized : ((ofSize size).changed earlier).Sized := (sized_ofSize size).changed earlier
          refine (hsized.read_change_of_spares hspares).trans (ih fun before v' after heq => ?_)
          have hclear := h before v' (after ++ [.write address v]) (by simp [heq])
          simpa using hclear

end

/-! ### Windows that meet -/

section

variable {m : DataMemory}

/-- Two windows one behind the other are one, if together they have the addresses of the one. -/
theorem IsWindow.append {start stop start' stop' last : Int} {window window' : List (Int × Int)}
    (h : m.IsWindow start stop window) (h' : m.IsWindow start' stop' window')
    (hle : stop ≤ start')
    (hseam : ∀ a, start ≤ a ∧ a < last ↔ (start ≤ a ∧ a < stop) ∨ (start' ≤ a ∧ a < stop')) :
    m.IsWindow start last (window ++ window') where
  ascending := by
    refine List.pairwise_append.mpr ⟨h.ascending, h'.ascending, fun x hx y hy => ?_⟩
    obtain ⟨⟨-, -, hlt⟩, -⟩ := (h.mem_iff x.1 x.2).mp hx
    obtain ⟨⟨-, hge, -⟩, -⟩ := (h'.mem_iff y.1 y.2).mp hy
    omega
  mem_iff a v := by
    rw [List.mem_append, h.mem_iff, h'.mem_iff, hseam]
    rw [← or_and_right, ← and_or_left]

/-- **Two windows that meet are one**, whether or not they meet at a multiple of four, and wherever
the memory begins and ends. -/
theorem words_append (m : DataMemory) {start mid : Int} {stop? : Option Int} (hmid : start ≤ mid)
    (hstop : mid ≤ stop?.getD m.size) :
    m.words start stop? = m.words start (some mid) ++ m.words mid stop? := by
  refine (m.isWindow_words start stop?).unique ?_
  refine (m.isWindow_words start (some mid)).append (m.isWindow_words mid stop?) ?_ fun a => ?_
  · rw [Option.getD_some]
    omega
  · rw [Option.getD_some]
    omega

end

/-- **The view of a memory is exact, and it composes.** Let a memory of any size have a history of
changes that fit. A window of it consists of the multiples of four that are asked for and in the
memory, in ascending order and each with the word that is read there. That word is the wrapped value
of the last write at the address, if the memory was not cleared since, and zero if it was cleared
after every write there. And two windows that meet are one. -/
theorem words_of_history {size : Int} {history : List Change} (h : ∀ c ∈ history, c.Fits size) :
    let m := (ofSize size).changed history
    (∀ start stop?,
      m.IsWindow (max 0 start) (min (stop?.getD size) size) (m.words start stop?)) ∧
    (∀ before a v after, history = before ++ .write a v :: after → (∀ c ∈ after, c.Spares a) →
      m.read a = Word.wrap v) ∧
    (∀ a, (∀ before v after, history = before ++ .write a v :: after → .clear ∈ after) →
      m.read a = 0) ∧
    ∀ start mid stop?, start ≤ mid → mid ≤ stop?.getD size →
      m.words start stop? = m.words start (some mid) ++ m.words mid stop? := by
  intro m
  have hsize : m.size = size := size_changed (ofSize size) history
  refine ⟨fun start stop? => ?_, fun before a v after heq hspares => ?_,
    fun a hcleared => read_changed_of_cleared hcleared,
    fun start mid stop? hmid hstop => m.words_append hmid (hsize.symm ▸ hstop)⟩
  · have hwindow := m.isWindow_words start stop?
    rwa [hsize] at hwindow
  · subst heq
    have hfits : (Change.write a v).Fits size := h _ (by simp)
    exact read_changed_of_last hfits hspares

/-- A memory of ten bytes, written to at a multiple of four and beside it, and cleared in between:
two windows that meet at five, the first from below the memory and the second to behind it. -/
theorem words_of_history_seam :
    let history : List Change := [.write 0 7, .clear, .write 8 2147483648, .write 3 1, .write 4 6]
    let m := (ofSize 10).changed history
    (∀ c ∈ history, c.Fits 10) ∧
      m.words (-3) (some 50) = m.words (-3) (some 5) ++ m.words 5 (some 50) ∧
      m.words (-3) (some 5) = [(0, 0), (4, 6)] ∧ m.words 5 (some 50) = [(8, -2147483648)] ∧
      m.read 8 = Word.wrap 2147483648 ∧ m.read 0 = 0 := by
  intro history m
  have hfits : ∀ c ∈ history, c.Fits 10 := by
    simp [history, Change.Fits]
  obtain ⟨-, hlast, hcleared, hseam⟩ := words_of_history hfits
  refine ⟨hfits, hseam (-3) 5 (some 50) (by decide) (by decide), by decide, by decide, ?_, ?_⟩
  · refine hlast [.write 0 7, .clear] 8 2147483648 [.write 3 1, .write 4 6] rfl ?_
    simp [Change.Spares]
  · refine hcleared 0 fun before v after heq => ?_
    simp only [history, List.cons_eq_append_iff, List.cons.injEq, Change.write.injEq] at heq
    simp_all

end Monocycle.DataMemory
