import Monocycle.Text.Basic

/-!
# Last definitions

A program is written as a list of entries. An entry may define a name, and it may take four bytes.
A name stands for the address of its last definition, and the address of an entry is told by the
number of entries before it that take bytes.

What an entry is, the statements below leave open: they hold of the items of an abstract program
and of the lines of a source text alike.

## Main results

* `lastDefinition?_eq_none_iff`: a name without a definition has no address.
* `lastDefinition?_eq_some_iff`: what it means to be the last definition.
-/

namespace Monocycle

section

variable {α : Type} {name? : α → Option Text} {takesBytes : α → Bool} {name : Text}

/-- The address of the **last definition** of a name among some entries, the first of them at
`address`. -/
def lastDefinition? (name? : α → Option Text) (takesBytes : α → Bool) (name : Text)
    (address : Int) : List α → Option Int
  | [] => none
  | entry :: rest =>
    (lastDefinition? name? takesBytes name
      (if takesBytes entry then address + 4 else address) rest).or
        (if name? entry = some name then some address else none)

/-- A name has no address exactly if no entry defines it. -/
theorem lastDefinition?_eq_none_iff {entries : List α} {address : Int} :
    lastDefinition? name? takesBytes name address entries = none ↔
      ∀ entry ∈ entries, name? entry ≠ some name := by
  induction entries generalizing address with
  | nil => simp [lastDefinition?]
  | cons entry rest ih =>
      rw [lastDefinition?, Option.or_eq_none_iff, ih, List.forall_mem_cons, and_comm]
      by_cases h : name? entry = some name <;> simp [h]

/-- The bytes of an entry and of those behind it. -/
theorem add_countP_takesBytes (entry : α) (rest : List α) (address : Int) :
    (if takesBytes entry then address + 4 else address) + 4 * (rest.countP takesBytes : Int) =
      address + 4 * ((entry :: rest).countP takesBytes : Int) := by
  rw [List.countP_cons]
  split
  · omega
  · omega

/-- **What it means to be the last definition**: no later entry defines the name, and every entry
before the definition that takes bytes takes four. -/
theorem lastDefinition?_eq_some_iff {entries : List α} {address a : Int} :
    lastDefinition? name? takesBytes name address entries = some a ↔
      ∃ before entry after, entries = before ++ entry :: after ∧ name? entry = some name ∧
        (∀ other ∈ after, name? other ≠ some name) ∧
        a = address + 4 * (before.countP takesBytes : Int) := by
  induction entries generalizing address with
  | nil => simp [lastDefinition?]
  | cons head rest ih =>
      rw [lastDefinition?]
      constructor
      · intro h
        cases hlater : lastDefinition? name? takesBytes name
            (if takesBytes head then address + 4 else address) rest with
        | some b =>
            rw [hlater, Option.some_or] at h
            cases h
            obtain ⟨before, entry, after, rfl, hname, hafter, ha⟩ := ih.mp hlater
            refine ⟨head :: before, entry, after, rfl, hname, hafter, ?_⟩
            rw [ha, add_countP_takesBytes]
        | none =>
            rw [hlater, Option.none_or] at h
            split at h
            · next hname =>
                cases h
                exact ⟨[], head, rest, rfl, hname, lastDefinition?_eq_none_iff.mp hlater,
                  by simp⟩
            · cases h
      · rintro ⟨before, entry, after, heq, hname, hafter, ha⟩
        cases before with
        | nil =>
            cases heq
            rw [lastDefinition?_eq_none_iff.mpr hafter, Option.none_or, if_pos hname, ha]
            simp
        | cons first before =>
            rw [List.cons_append] at heq
            obtain ⟨rfl, rfl⟩ := List.cons.inj heq
            have hlater : lastDefinition? name? takesBytes name
                (if takesBytes head then address + 4 else address)
                (before ++ entry :: after) = some a := by
              refine ih.mpr ⟨before, entry, after, rfl, hname, hafter, ?_⟩
              rw [ha, add_countP_takesBytes]
            rw [hlater, Option.some_or]

end

end Monocycle
