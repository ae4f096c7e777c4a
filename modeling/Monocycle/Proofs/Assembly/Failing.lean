import Monocycle.Proofs.Assembly.LastDefinition
import Monocycle.Proofs.Assembly.Records

/-!
# Sources that do not assemble

A source that does not assemble has a first line that does not decode, and the error of the source
is that of this line. The labels are all known by then, and the lines before it have their records
already, so that something has been made that must not be used.

## Main definitions

* `DecodesAll`: every instruction line among some lines decodes for the address it has.
* `FailsAt`: the first line of a source that does not decode, with its error.

## Main results

* `assemble_eq_error_iff`: a source has an error exactly if it fails at some line with it.
-/

namespace Monocycle

/-- **All of some lines decode**, the first of them at `address`: every instruction line has a
record for the address that the instruction lines before it leave it. -/
def DecodesAll (labels : LabelTable) (address : Int) (ls : List SourceLine) : Prop :=
  ∀ before line after, ls = before ++ line :: after → line.isInstruction = true →
    ∃ i, decode labels (address + 4 * (before.countP (·.isInstruction) : Int)) line = .ok i

/-- A source **fails at a line** with an error: the line does not decode for the address it has in
the source, and all lines before it do. -/
def FailsAt (source : Text) (line : SourceLine) (e : AssemblyError) : Prop :=
  ∃ before after, sourceLines source = before ++ line :: after ∧ line.isInstruction = true ∧
    DecodesAll (labelTable (sourceLines source)) 0 before ∧
    decode (labelTable (sourceLines source)) (4 * (before.countP (·.isInstruction) : Int)) line =
      .error e

section

variable {labels : LabelTable} {address : Int}

theorem decodesAll_nil : DecodesAll labels address [] := by
  intro before line after h
  simp at h

/-- All of some lines decode if the first does and all behind it. -/
theorem decodesAll_cons_iff {head : SourceLine} {rest : List SourceLine} :
    DecodesAll labels address (head :: rest) ↔
      (head.isInstruction = true → ∃ i, decode labels address head = .ok i) ∧
        DecodesAll labels (if head.isInstruction then address + 4 else address) rest := by
  constructor
  · intro h
    refine ⟨fun hhead => by simpa using h [] head rest rfl hhead, ?_⟩
    rintro before line after rfl hline
    rw [add_countP_takesBytes]
    exact h (head :: before) line after rfl hline
  · rintro ⟨hhead, hrest⟩ before line after heq hline
    cases before with
    | nil =>
        obtain ⟨rfl, rfl⟩ := List.cons.inj heq
        simpa using hhead hline
    | cons first before =>
        rw [List.cons_append] at heq
        obtain ⟨rfl, rfl⟩ := List.cons.inj heq
        rw [← add_countP_takesBytes]
        exact hrest before line after rfl hline

/-- **The second pass fails** at the first of some lines, or it gets over that line and fails behind
it. -/
theorem error_decodeLines_cons_iff {head : SourceLine} {rest : List SourceLine}
    {e : AssemblyError} :
    (decodeLines labels address (head :: rest)).2 = some e ↔
      (head.isInstruction = true ∧ decode labels address head = .error e) ∨
        (head.isInstruction = true → ∃ i, decode labels address head = .ok i) ∧
          (decodeLines labels (if head.isInstruction then address + 4 else address) rest).2 =
            some e := by
  rw [decodeLines]
  by_cases hhead : head.isInstruction = true
  · cases hdecode : decode labels address head <;> simp [hhead]
  · simp [hhead]

/-- **The second pass ends** at the first line that does not decode, with the error of that line. -/
theorem error_decodeLines_eq_some_iff {ls : List SourceLine} {e : AssemblyError} :
    (decodeLines labels address ls).2 = some e ↔
      ∃ before line after, ls = before ++ line :: after ∧ line.isInstruction = true ∧
        DecodesAll labels address before ∧
        decode labels (address + 4 * (before.countP (·.isInstruction) : Int)) line = .error e := by
  induction ls generalizing address with
  | nil => simp [decodeLines]
  | cons head rest ih =>
      rw [error_decodeLines_cons_iff, ih]
      constructor
      · rintro (⟨hhead, hdecode⟩ | ⟨hhead, before, line, after, rfl, hline, hbefore, hdecode⟩)
        · exact ⟨[], head, rest, rfl, hhead, decodesAll_nil, by simpa using hdecode⟩
        · rw [add_countP_takesBytes] at hdecode
          exact ⟨head :: before, line, after, rfl, hline,
            decodesAll_cons_iff.mpr ⟨hhead, hbefore⟩, hdecode⟩
      · rintro ⟨before, line, after, heq, hline, hbefore, hdecode⟩
        cases before with
        | nil =>
            obtain ⟨rfl, rfl⟩ := List.cons.inj heq
            exact .inl ⟨hline, by simpa using hdecode⟩
        | cons first before =>
            rw [List.cons_append] at heq
            obtain ⟨rfl, rfl⟩ := List.cons.inj heq
            obtain ⟨hhead, hrest⟩ := decodesAll_cons_iff.mp hbefore
            rw [← add_countP_takesBytes] at hdecode
            exact .inr ⟨hhead, before, line, after, rfl, hline, hrest, hdecode⟩

end

/-- The error of a source is that of its attempt. -/
theorem assemble_eq_error_iff_attempt {source : Text} {e : AssemblyError} :
    assemble source = .error e ↔ (attempt source).error? = some e := by
  rw [assemble, Attempt.result]
  cases (attempt source).error? with
  | none => simp
  | some e' => simp

/-- **A source has an error** exactly if it fails at some line with it. -/
theorem assemble_eq_error_iff {source : Text} {e : AssemblyError} :
    assemble source = .error e ↔ ∃ line, FailsAt source line e := by
  rw [assemble_eq_error_iff_attempt, attempt, error_decodeLines_eq_some_iff]
  simp only [Int.zero_add]
  constructor
  · rintro ⟨before, line, after, h⟩
    exact ⟨line, before, after, h⟩
  · rintro ⟨line, before, after, h⟩
    exact ⟨before, line, after, h⟩

end Monocycle
