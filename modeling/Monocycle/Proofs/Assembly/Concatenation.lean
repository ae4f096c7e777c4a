import Monocycle.Proofs.Assembly.Append
import Monocycle.Proofs.Assembly.Relocation

/-!
# Sources one after the other

Two sources that assemble, put one after the other, assemble into their two programs one after the
other. The records of the second follow those of the first, at addresses that are farther by the
four bytes of each instruction of the first, and from lines that are numbered on from those of the
first; the labels of the second move as far.

This needs that the first source ends where a line ends, so that no line goes across the seam, and
that the sources have nothing to do with each other: no label is defined in both, for the last
definition of a label hides those before it, and no operand that may be a label is one of the other
source, for a label goes before a literal.

## Main definitions

* `DefinesLabel`, `RefersTo`: the labels of a source, and the operands that may be labels.
* `Independent`: sources that have nothing to do with each other.
* `Program.followedBy`: programs one after the other.

## Main results

* `sourceLines_append`, `labelTable_append`: the lines and the labels of the two sources.
* `assemble_append`: **independent sources assemble into their programs one after the other.**
-/

namespace Monocycle

/-- A source **defines a label** on one of its lines. -/
def DefinesLabel (source name : Text) : Prop :=
  ∃ raw ∈ Text.lines source, lineLabel? raw = some name

/-- A source **refers to a name**: it is the operand of one of its lines that may be a label. -/
def RefersTo (source name : Text) : Prop :=
  ∃ line ∈ sourceLines source, line.immediateOperand? = some name

/-- **Independent sources**: no label is defined in both, and neither refers to a label of the
other. -/
structure Independent (s₁ s₂ : Text) : Prop where
  labels (name : Text) : DefinesLabel s₁ name → ¬DefinesLabel s₂ name
  first (name : Text) : RefersTo s₁ name → ¬DefinesLabel s₂ name
  second (name : Text) : RefersTo s₂ name → ¬DefinesLabel s₁ name

theorem definesLabel_iff_mem {source name : Text} :
    DefinesLabel source name ↔ name ∈ (Text.lines source).filterMap lineLabel? := by
  rw [DefinesLabel, List.mem_filterMap]

theorem refersTo_iff_mem {source name : Text} :
    RefersTo source name ↔ name ∈ (sourceLines source).filterMap (·.immediateOperand?) := by
  rw [RefersTo, List.mem_filterMap]

/-- Sources are independent if the names on their lines are apart. -/
theorem independent_iff {s₁ s₂ : Text} :
    Independent s₁ s₂ ↔
      (∀ name ∈ (Text.lines s₁).filterMap lineLabel?,
        name ∉ (Text.lines s₂).filterMap lineLabel?) ∧
      (∀ name ∈ (sourceLines s₁).filterMap (·.immediateOperand?),
        name ∉ (Text.lines s₂).filterMap lineLabel?) ∧
      ∀ name ∈ (sourceLines s₂).filterMap (·.immediateOperand?),
        name ∉ (Text.lines s₁).filterMap lineLabel? := by
  simp only [← definesLabel_iff_mem, ← refersTo_iff_mem]
  exact ⟨fun h => ⟨h.labels, h.first, h.second⟩, fun ⟨labels, first, second⟩ =>
    ⟨labels, first, second⟩⟩

instance (s₁ s₂ : Text) : Decidable (Independent s₁ s₂) :=
  decidable_of_iff _ independent_iff.symm

/-- **Programs one after the other.** The records and labels of the second are behind those of the
first, whose source has `lineCount` lines. -/
def Program.followedBy (p : Program) (lineCount : Nat) (q : Program) : Program where
  instructions := p.instructions ++
    q.instructions.map (·.relocate (4 * (p.instructions.length : Int)) (· + lineCount))
  labels := p.labels ++ q.labels.shift (4 * (p.instructions.length : Int))

/-! ### Lines -/

/-- Lines that are numbered from farther on have numbers that are farther on. -/
theorem numberedLines_add (number count : Nat) (raws : List Text) :
    numberedLines (number + count) raws =
      (numberedLines number raws).map (·.renumber (· + count)) := by
  induction raws generalizing number with
  | nil => rfl
  | cons raw rest ih =>
      have hrest : numberedLines (number + count + 1) rest =
          (numberedLines (number + 1) rest).map (·.renumber (· + count)) := by
        rw [Nat.add_right_comm, ih]
      rw [numberedLines_cons, numberedLines_cons, hrest]
      split
      · rfl
      · rfl

/-- **The lines of the two sources**: those of the second are numbered on. -/
theorem sourceLines_append {s₁ : Text} (hend : ∀ c ∈ s₁.getLast?, c = '\n') (s₂ : Text) :
    sourceLines (s₁ ++ s₂) =
      sourceLines s₁ ++ (sourceLines s₂).map (·.renumber (· + (Text.lines s₁).length)) := by
  rw [sourceLines_eq_numberedLines, Text.lines_append_of_getLast? hend, numberedLines_append,
    numberedLines_add]
  rfl

/-! ### Labels -/

/-- A label that is defined among the source lines is a label of the source. -/
theorem definesLabel_of_mem_labelDefinitions {source : Text} {address : Int}
    {entry : Text × Int} (h : entry ∈ labelDefinitions address (sourceLines source)) :
    DefinesLabel source entry.1 := by
  obtain ⟨line, hline, hlabel⟩ := exists_label?_of_mem_labelDefinitions h
  obtain ⟨k, raw, hraw, rfl⟩ := exists_of_mem_sourceLines hline
  exact ⟨raw, List.mem_of_getElem? hraw, hlabel⟩

/-- What is found in the label table of a source is a label of it. -/
theorem definesLabel_of_address? {source name : Text} {address : Int}
    (h : (labelTable (sourceLines source)).address? name = some address) :
    DefinesLabel source name := by
  obtain ⟨before, raw, after, hlines, hlabel, -, -⟩ := address?_labelTable_eq_some_iff.mp h
  exact ⟨raw, hlines ▸ List.mem_append_right _ List.mem_cons_self, hlabel⟩

/-- A name that is no label of a source has no address. -/
theorem address?_eq_none_of_not_definesLabel {source name : Text} (h : ¬DefinesLabel source name) :
    (labelTable (sourceLines source)).address? name = none :=
  Option.eq_none_iff_forall_ne_some.mpr fun _ haddress => h (definesLabel_of_address? haddress)

/-- The names in the label table of a source are labels of it. -/
theorem definesLabel_of_mem_names {source name : Text}
    (h : name ∈ (labelTable (sourceLines source)).map Prod.fst) : DefinesLabel source name := by
  obtain ⟨⟨_, address⟩, hentry, rfl⟩ := List.mem_map.mp h
  exact definesLabel_of_address? ((mem_iff_address?_eq_some (nodup_labelTable _)).mp hentry)

/-- **The labels of the two sources**: those of the second are farther by the instructions of the
first. -/
theorem labelTable_append {s₁ s₂ : Text}
    (hlabels : ∀ name, DefinesLabel s₁ name → ¬DefinesLabel s₂ name) (f : Nat → Nat) :
    labelTable (sourceLines s₁ ++ (sourceLines s₂).map (·.renumber f)) =
      labelTable (sourceLines s₁) ++ (labelTable (sourceLines s₂)).shift
        (4 * ((sourceLines s₁).countP (·.isInstruction) : Int)) := by
  have hapart : ∀ entry ∈ labelDefinitions 0 (sourceLines s₂),
      entry.1 ∉ (labelTable (sourceLines s₁)).map Prod.fst := fun entry hentry hmem =>
    hlabels _ (definesLabel_of_mem_names hmem) (definesLabel_of_mem_labelDefinitions hentry)
  rw [labelTable, labelDefinitions_append, labelDefinitions_relocate, List.foldl_append,
    ← labelTable, ← List.append_nil (labelTable (sourceLines s₁)),
    LabelTable.foldl_define_append, List.append_nil]
  · exact congrArg _ (LabelTable.foldl_define_shift _ _ [])
  · intro entry hentry
    obtain ⟨entry', hentry', rfl⟩ := List.mem_map.mp hentry
    exact hapart entry' hentry'

/-! ### Programs -/

/-- A program has as many instructions as its source has instruction lines. -/
theorem length_instructions_eq_countP {source : Text} {p : Program}
    (h : assemble source = .ok p) :
    p.instructions.length = (sourceLines source).countP (·.isInstruction) := by
  rw [List.countP_eq_length_filter, ← map_sourceLine_instructions h, List.length_map]

section

variable {s₁ s₂ : Text}

/-- **The second pass over the first source** does not see that there is another behind it. -/
theorem decodeLines_of_append (h : ∀ name, RefersTo s₁ name → ¬DefinesLabel s₂ name) (d : Int) :
    decodeLines (labelTable (sourceLines s₁) ++ (labelTable (sourceLines s₂)).shift d) 0
        (sourceLines s₁) =
      decodeLines (labelTable (sourceLines s₁)) 0 (sourceLines s₁) := by
  refine decodeLines_congr fun line hline token htoken => ?_
  rw [LabelTable.address?_append, LabelTable.address?_shift,
    address?_eq_none_of_not_definesLabel (h token ⟨line, hline, htoken⟩)]
  exact Option.or_none

/-- **The second pass over the second source** makes the records it makes, moved behind those of
the first. -/
theorem decodeLines_behind (h : ∀ name, RefersTo s₂ name → ¬DefinesLabel s₁ name) (d : Int)
    (f : Nat → Nat) :
    decodeLines (labelTable (sourceLines s₁) ++ (labelTable (sourceLines s₂)).shift d) (0 + d)
        ((sourceLines s₂).map (·.renumber f)) =
      ((decodeLines (labelTable (sourceLines s₂)) 0 (sourceLines s₂)).1.map (·.relocate d f),
        (decodeLines (labelTable (sourceLines s₂)) 0 (sourceLines s₂)).2.map (·.renumber f)) := by
  refine decodeLines_relocate fun line hline token htoken => ?_
  rw [LabelTable.address?_append, LabelTable.address?_shift,
    address?_eq_none_of_not_definesLabel (h token ⟨line, hline, htoken⟩), Option.none_or]

/-- **Independent sources assemble into their programs one after the other.** -/
theorem assemble_append {p₁ p₂ : Program} (h₁ : assemble s₁ = .ok p₁) (h₂ : assemble s₂ = .ok p₂)
    (hend : s₁ = [] ∨ s₁.getLast? = some '\n') (hindependent : Independent s₁ s₂) :
    assemble (s₁ ++ s₂) = .ok (p₁.followedBy (Text.lines s₁).length p₂) := by
  have hfeed : ∀ c ∈ s₁.getLast?, c = '\n' := by
    intro c hc
    rcases hend with rfl | hlast
    · cases hc
    · exact Option.some.inj (hc.symm.trans hlast)
  have hcount := length_instructions_eq_countP h₁
  obtain ⟨hnone₁, hp₁⟩ := assemble_eq_ok_iff.mp h₁
  obtain ⟨hnone₂, hp₂⟩ := assemble_eq_ok_iff.mp h₂
  have hfirst := decodeLines_of_append hindependent.first
    (4 * ((sourceLines s₁).countP (·.isInstruction) : Int))
  have hgoes : (decodeLines _ 0 (sourceLines s₁)).2 = none :=
    (congrArg Prod.snd hfirst).trans hnone₁
  have hpass := decodeLines_append hgoes
    ((sourceLines s₂).map (·.renumber (· + (Text.lines s₁).length)))
  rw [decodeLines_behind hindependent.second, hfirst] at hpass
  rw [assemble_eq_ok_iff, attempt, sourceLines_append hfeed, labelTable_append hindependent.labels,
    hpass]
  refine ⟨?_, ?_⟩
  · have hnone : Option.map (AssemblyError.renumber (· + (Text.lines s₁).length))
        (attempt s₂).error? = none := by rw [hnone₂, Option.map_none]
    exact hnone
  · rw [Program.followedBy, hcount, hp₁, hp₂]
    rfl

end

/-- A loop, and a branch to the end behind it. -/
theorem assemble_append_loop :
    let s₁ := "loop: addi x1, x1, 1\nbeq x1, x0, loop\n".toList
    let s₂ := "bne x2, x0, end # 8\nend:".toList
    ∃ p₁ p₂, assemble s₁ = .ok p₁ ∧ assemble s₂ = .ok p₂ ∧ Independent s₁ s₂ ∧
      assemble (s₁ ++ s₂) = .ok (p₁.followedBy 2 p₂) ∧
      (p₁.followedBy 2 p₂).labels = [("loop".toList, 0), ("end".toList, 12)] := by
  intro s₁ s₂
  obtain ⟨p₁, h₁, hlabels₁, hlength₁⟩ :
      ∃ p₁, assemble s₁ = .ok p₁ ∧ p₁.labels = [("loop".toList, 0)] ∧
        p₁.instructions.length = 2 := ⟨_, rfl, rfl, rfl⟩
  obtain ⟨p₂, h₂, hlabels₂⟩ :
      ∃ p₂, assemble s₂ = .ok p₂ ∧ p₂.labels = [("end".toList, 4)] := ⟨_, rfl, rfl⟩
  have hindependent : Independent s₁ s₂ := by decide
  refine ⟨p₁, p₂, h₁, h₂, hindependent, assemble_append h₁ h₂ (by decide) hindependent, ?_⟩
  rw [Program.followedBy, hlabels₁, hlength₁, hlabels₂]
  rfl

end Monocycle
