import Monocycle.Assembly.Label
import Monocycle.Proofs.Assembly.LastDefinition

/-!
# Looking up labels

The label table is made by entering the definitions of the source one after the other, a later one
in place of an earlier one. Looking a name up in the table therefore finds its last definition.

## Main results

* `address?_labelTable`: a look-up in the table is one in the definitions from the last to the
  first.
* `lookup_reverse_labelDefinitions`: that look-up finds the last definition among the source lines.
* `nodup_labelTable`: the table has every name once.
* `mem_iff_address?_eq_some`: the entries of such a table are what is found in it.
-/

namespace Monocycle

/-- Definitions entered into a table hide what it had, and the last one of a name counts. -/
theorem address?_foldl_define (definitions : List (Text × Int)) (table : LabelTable)
    (name : Text) :
    (definitions.foldl (fun table entry => table.define entry.1 entry.2) table).address? name =
      (definitions.reverse.lookup name).or (table.address? name) := by
  induction definitions generalizing table with
  | nil => rfl
  | cons entry rest ih =>
      obtain ⟨known, address⟩ := entry
      rw [List.foldl_cons, ih, LabelTable.address?_define, List.reverse_cons, List.lookup_append]
      by_cases h : name = known
      · subst h
        rw [if_pos rfl, List.lookup_cons_self, Option.or_assoc, Option.some_or]
      · rw [if_neg h, List.lookup_cons, beq_false_of_ne h, List.lookup_nil, Option.or_none]

/-- **A look-up in the label table** finds the last definition of a name. -/
theorem address?_labelTable (ls : List SourceLine) (name : Text) :
    (labelTable ls).address? name = (labelDefinitions 0 ls).reverse.lookup name := by
  rw [labelTable, address?_foldl_define]
  exact Option.or_none

/-- **The last definition** of a name among source lines is the one found from their end. -/
theorem lookup_reverse_labelDefinitions (name : Text) (ls : List SourceLine) (address : Int) :
    (labelDefinitions address ls).reverse.lookup name =
      lastDefinition? SourceLine.label? SourceLine.isInstruction name address ls := by
  induction ls generalizing address with
  | nil => rfl
  | cons line rest ih =>
      rw [labelDefinitions, lastDefinition?]
      cases hlabel : line.label? with
      | none =>
          simp only [reduceCtorEq, if_false, Option.or_none]
          exact ih _
      | some known =>
          simp only [List.reverse_cons, List.lookup_append, ih, Option.some.injEq]
          by_cases h : known = name
          · subst h
            simp [SourceLine.nextAddress]
          · rw [List.lookup_cons, beq_false_of_ne (Ne.symm h), if_neg h]
            rfl

/-! ### Names in the table -/

/-- A label that is defined among some lines is that of one of them. -/
theorem exists_label?_of_mem_labelDefinitions {ls : List SourceLine} {address : Int}
    {entry : Text × Int} (h : entry ∈ labelDefinitions address ls) :
    ∃ line ∈ ls, line.label? = some entry.1 := by
  induction ls generalizing address with
  | nil => cases h
  | cons line rest ih =>
      have hlater : entry ∈ labelDefinitions (line.nextAddress address) rest →
          ∃ line' ∈ line :: rest, line'.label? = some entry.1 := by
        intro hentry
        obtain ⟨line', hmem, hlabel⟩ := ih hentry
        exact ⟨line', List.mem_cons_of_mem _ hmem, hlabel⟩
      rw [labelDefinitions] at h
      split at h
      · next name hname =>
          obtain rfl | hrest := List.mem_cons.mp h
          · exact ⟨line, List.mem_cons_self, hname⟩
          · exact hlater hrest
      · exact hlater h

/-- A definition adds its name to those of the table, if it is not there. -/
theorem mem_names_define {table : LabelTable} {name other : Text} {address : Int} :
    other ∈ (table.define name address).map Prod.fst ↔
      other = name ∨ other ∈ table.map Prod.fst := by
  induction table with
  | nil => simp [LabelTable.define]
  | cons entry rest ih =>
      obtain ⟨known, value⟩ := entry
      rw [LabelTable.define]
      split
      · next h =>
          subst h
          simp
      · rw [List.map_cons, List.mem_cons, ih, List.map_cons, List.mem_cons]
        exact or_left_comm

/-- A definition keeps the names of a table apart. -/
theorem nodup_define {table : LabelTable} (h : (table.map Prod.fst).Nodup) (name : Text)
    (address : Int) : ((table.define name address).map Prod.fst).Nodup := by
  induction table with
  | nil => simp [LabelTable.define]
  | cons entry rest ih =>
      obtain ⟨known, value⟩ := entry
      rw [List.map_cons, List.nodup_cons] at h
      obtain ⟨hknown, hrest⟩ := h
      rw [LabelTable.define]
      split
      · next heq =>
          subst heq
          exact List.nodup_cons.mpr ⟨hknown, hrest⟩
      · next hne =>
          refine List.nodup_cons.mpr ⟨?_, ih hrest⟩
          rw [mem_names_define]
          rintro (heq | hmem)
          · exact hne heq
          · exact hknown hmem

/-- **The label table** has every name once. -/
theorem nodup_labelTable (ls : List SourceLine) : ((labelTable ls).map Prod.fst).Nodup := by
  have hfold : ∀ (definitions : List (Text × Int)) (table : LabelTable),
      (table.map Prod.fst).Nodup →
      ((definitions.foldl (fun table entry => table.define entry.1 entry.2) table).map
        Prod.fst).Nodup := by
    intro definitions
    induction definitions with
    | nil => exact fun _ h => h
    | cons entry rest ih => exact fun table h => ih _ (nodup_define h entry.1 entry.2)
  exact hfold _ [] List.nodup_nil

/-- In a table that has every name once, the entries are what is found. -/
theorem mem_iff_address?_eq_some {table : LabelTable} (h : (table.map Prod.fst).Nodup)
    {name : Text} {address : Int} :
    (name, address) ∈ table ↔ table.address? name = some address := by
  constructor
  · intro hmem
    obtain ⟨before, after, rfl⟩ := List.append_of_mem hmem
    refine List.lookup_eq_some_iff.mpr ⟨before, after, rfl, fun entry hentry => ?_⟩
    rw [List.map_append, List.map_cons, List.nodup_append] at h
    rw [bne_iff_ne]
    exact (h.2.2 entry.1 (List.mem_map_of_mem hentry) name List.mem_cons_self).symm
  · intro hfound
    obtain ⟨before, after, rfl, -⟩ := List.lookup_eq_some_iff.mp hfound
    exact List.mem_append_right _ List.mem_cons_self

end Monocycle
