import Monocycle.Value.Basic
import Mathlib.Data.List.Infix
import Mathlib.Data.List.Nodup

/-!
# Entries put over others

What comes of putting the entries of one map over those of another. To a look-up the entries on top
come first, and the ones below fill in what these leave open, whatever the values are. The names
keep their places: first those below, then those that only the entries on top have. So the outcome
put over the same entries again is the outcome, in the same order.

## Main definitions

* `Entries.names`, `Entries.Distinct`: the names of entries, and that none occurs twice.

## Main results

* `Entries.get?_eq_some_iff`: a look-up among distinct entries.
* `Entries.get?_override`: a look-up after entries were put over others.
* `Entries.names_prefix_override`, `Entries.distinct_override`: the names there are then.
* `Entries.override_override`: **putting the outcome over the same entries changes nothing.**
-/

namespace Monocycle.Entries

/-- The **names** of some entries, in order. -/
def names (entries : Entries) : List String :=
  entries.map Prod.fst

/-- Entries are **distinct** if no name occurs twice among them. -/
def Distinct (entries : Entries) : Prop :=
  entries.names.Nodup

instance (entries : Entries) : Decidable entries.Distinct :=
  inferInstanceAs (Decidable (List.Nodup _))

/-! ### One entry -/

/-- A look-up asks one entry after the other. -/
theorem get?_cons (known : String) (w : Value) (rest : Entries) (name : String) :
    get? ((known, w) :: rest) name = if name = known then some w else rest.get? name := by
  rw [get?, List.lookup_cons]
  by_cases h : name = known
  · rw [if_pos h, beq_iff_eq.mpr h]
  · rw [if_neg h, beq_false_of_ne h, get?]

/-- Nothing is found exactly under a name that does not occur. -/
theorem get?_eq_none_iff {entries : Entries} {name : String} :
    entries.get? name = none ↔ name ∉ entries.names := by
  rw [get?, List.lookup_eq_none_iff, names, List.mem_map]
  constructor
  · rintro h ⟨entry, hmem, rfl⟩
    simpa using h entry hmem
  · intro h entry hmem
    rw [bne_iff_ne]
    rintro rfl
    exact h ⟨entry, hmem, rfl⟩

/-- **A look-up among distinct entries** finds the entries themselves. -/
theorem get?_eq_some_iff {entries : Entries} (h : entries.Distinct) {name : String} {v : Value} :
    entries.get? name = some v ↔ (name, v) ∈ entries := by
  induction entries with
  | nil => simp [get?]
  | cons entry rest ih =>
      obtain ⟨known, w⟩ := entry
      obtain ⟨hknown, hrest⟩ := List.nodup_cons.mp h
      rw [get?_cons, List.mem_cons, Prod.mk.injEq]
      by_cases hname : name = known
      · subst hname
        have hnot : (name, v) ∉ rest := fun hmem => hknown (List.mem_map.mpr ⟨_, hmem, rfl⟩)
        rw [if_pos rfl, Option.some.injEq, or_iff_left hnot, and_iff_right rfl, eq_comm]
      · rw [if_neg hname, ih hrest, or_iff_right fun heq => hname heq.1]

/-- A name that was just given a value has it, and no other name changes. -/
theorem get?_put (entries : Entries) (name other : String) (v : Value) :
    (entries.put name v).get? other = if other = name then some v else entries.get? other := by
  induction entries with
  | nil => rw [put, get?_cons]
  | cons entry rest ih =>
      obtain ⟨known, w⟩ := entry
      rw [put, get?_cons]
      split
      · next hknown =>
          subst hknown
          rw [get?_cons]
          split
          · rfl
          · rfl
      · next hknown =>
          rw [get?_cons, ih]
          by_cases h : other = known
          · rw [if_pos h, if_pos h, if_neg fun heq => hknown (h.symm.trans heq)]
          · rw [if_neg h, if_neg h]

/-- A name that was just given a value keeps its place, and a new one goes to the end. -/
theorem names_put (entries : Entries) (name : String) (v : Value) :
    (entries.put name v).names =
      if name ∈ entries.names then entries.names else entries.names ++ [name] := by
  induction entries with
  | nil => rfl
  | cons entry rest ih =>
      obtain ⟨known, w⟩ := entry
      have hnames : names ((known, w) :: rest) = known :: names rest := rfl
      rw [put, hnames]
      split
      · next hknown =>
          subst hknown
          rw [if_pos List.mem_cons_self]
          rfl
      · next hknown =>
          have hput : names ((known, w) :: put rest name v) = known :: names (put rest name v) :=
            rfl
          have hmem : name ∈ known :: names rest ↔ name ∈ names rest := by
            rw [List.mem_cons, or_iff_right (Ne.symm hknown)]
          rw [hput, ih]
          by_cases h : name ∈ names rest
          · rw [if_pos h, if_pos (hmem.mpr h)]
          · rw [if_neg h, if_neg (mt hmem.mp h), List.cons_append]

/-- A value for a name that does not occur among the first entries goes to the others. -/
theorem put_append {first : Entries} {name : String} (h : name ∉ first.names) (rest : Entries)
    (v : Value) : put (first ++ rest) name v = first ++ rest.put name v := by
  induction first with
  | nil => rfl
  | cons entry more ih =>
      obtain ⟨known, w⟩ := entry
      have hsplit : name ∉ known :: names more := h
      rw [List.mem_cons, not_or] at hsplit
      obtain ⟨hne, hmore⟩ := hsplit
      rw [List.cons_append, put, if_neg (Ne.symm hne), ih hmore, List.cons_append]

/-! ### All entries of a map -/

/-- **A look-up after entries were put over others** finds what it finds in the entries on top, and
otherwise what it finds in those below. -/
theorem get?_override {given : Entries} (h : given.Distinct) (base : Entries) (name : String) :
    (base.override given).get? name = (given.get? name).or (base.get? name) := by
  induction given generalizing base with
  | nil => rfl
  | cons entry rest ih =>
      obtain ⟨known, v⟩ := entry
      obtain ⟨hknown, hrest⟩ := List.nodup_cons.mp h
      have hput : base.override ((known, v) :: rest) = (base.put known v).override rest := rfl
      rw [hput, ih hrest, get?_put, get?_cons]
      by_cases hname : name = known
      · subst hname
        have hnone : get? rest name = none := get?_eq_none_iff.mpr hknown
        rw [hnone, Option.none_or, if_pos rfl, if_pos rfl, Option.some_or]
      · rw [if_neg hname, if_neg hname]

/-- The names below keep their places in front. -/
theorem names_prefix_override (base given : Entries) :
    base.names <+: (base.override given).names := by
  induction given generalizing base with
  | nil => exact List.prefix_rfl
  | cons entry rest ih =>
      have hput : base.names <+: (base.put entry.1 entry.2).names := by
        rw [names_put]
        split
        · exact List.prefix_rfl
        · exact List.prefix_append _ _
      exact hput.trans (ih (base.put entry.1 entry.2))

/-- No name occurs twice if none occurs twice below. -/
theorem distinct_override {base : Entries} (h : base.Distinct) (given : Entries) :
    (base.override given).Distinct := by
  induction given generalizing base with
  | nil => exact h
  | cons entry rest ih =>
      refine ih ?_
      rw [Distinct, names_put]
      split
      · exact h
      · next hnew =>
          refine List.nodup_append.mpr
            ⟨h, List.nodup_singleton _, fun known hknown name hname => ?_⟩
          rw [List.mem_singleton.mp hname]
          rintro rfl
          exact hnew hknown

/-- Entries put over others with the same names in front come out as they are. In the induction some
entries are through already, and the names of those still below are the next ones on top. -/
theorem override_of_prefix {first base given : Entries} (hdistinct : Distinct (first ++ given))
    (hfront : base.names <+: given.names) :
    override (first ++ base) given = first ++ given := by
  induction given generalizing first base with
  | nil =>
      have hbase : base = [] := List.map_eq_nil_iff.mp (List.prefix_nil.mp hfront)
      rw [hbase]
      rfl
  | cons entry rest ih =>
      obtain ⟨name, v⟩ := entry
      have hnames : names (first ++ (name, v) :: rest) = names first ++ name :: names rest :=
        List.map_append
      have hnew : name ∉ first.names := by
        intro hmem
        rw [Distinct, hnames, List.nodup_append] at hdistinct
        exact hdistinct.2.2 name hmem name List.mem_cons_self rfl
      have hmoved : first ++ (name, v) :: rest = first ++ [(name, v)] ++ rest := by
        rw [List.append_assoc, List.singleton_append]
      have hput : override (first ++ base) ((name, v) :: rest) =
          override (first ++ base.put name v) rest := by
        rw [← put_append hnew base v]
        rfl
      -- what is below begins with the same name, or there is nothing left below
      obtain ⟨below, hbelow, hlater⟩ : ∃ below : Entries,
          base.put name v = (name, v) :: below ∧ names below <+: names rest := by
        cases base with
        | nil => exact ⟨[], rfl, List.nil_prefix⟩
        | cons entry below =>
            obtain ⟨known, w⟩ := entry
            obtain ⟨hknown, hlater⟩ : known = name ∧ names below <+: names rest :=
              List.cons_prefix_cons.mp hfront
            exact ⟨below, by rw [put, if_pos hknown], hlater⟩
      rw [hmoved] at hdistinct ⊢
      rw [hput, hbelow, ← ih hdistinct hlater, List.append_assoc, List.singleton_append]

/-- **Putting the outcome over the same entries** once more changes nothing. -/
theorem override_override {base : Entries} (h : base.Distinct) (given : Entries) :
    base.override (base.override given) = base.override given := by
  have hdistinct : Distinct ([] ++ base.override given) := distinct_override h given
  exact override_of_prefix hdistinct (names_prefix_override base given)

end Monocycle.Entries
