import Monocycle.CommandLine.Session
import Monocycle.Proofs.Value.Entries
import Mathlib.Data.Nat.Find

/-!
# Merging settings

What comes of a settings file. Each section of the settings is settled by itself: by the built-in
values, and by what the file has under the name of the section. So there is one lemma about a
section, `mergeSection_cases`, with the three ways it can go, and the file as a whole goes wrong in
the first section that does.

A value that is null, false, zero or empty counts as nothing given where a map of sections or a
section is looked for. Under a name inside a section it is a value like any other, so that a null
hides the built-in value. This is why merged settings, written into a file, are merged into
themselves: whatever a section has, be it null or a name without a built-in value, is on top again.

## Main definitions

* `Value.Void`: the values that count as nothing given.
* `Section`, `Settings.entries`: the sections of settings.
* `Value.GivesSection`, `Value.Gives`: what a value has in a section, and under a name there.
* `Entries.FirstFault`: the first section that can not be merged.

## Main results

* `merge_map_cases`, `merge_cases`: how a map of sections goes, and how a value as a whole does.
* `merge_toValue`: settings are merged into themselves.
* `loadSettings_merges_sections`: **what a settings file comes to.**
-/

namespace Monocycle

/-! ### What counts as given -/

/-- A value is **void** if it counts as nothing given: null, false, zero, or empty. -/
inductive Value.Void : Value → Prop
  | null : Void .null
  | no : Void (.bool false)
  | zero : Void (.int 0)
  | realZero (exponent : Int) : Void (.real (.finite 0 exponent))
  | emptyText : Void (.text "")
  | emptyList : Void (.list [])
  | emptyMap : Void (.map [])

theorem Value.isTruthy_eq_false_iff {v : Value} : v.isTruthy = false ↔ v.Void := by
  constructor
  · intro h
    cases v with
    | null => exact .null
    | bool b =>
        obtain rfl : b = false := h
        exact .no
    | int i =>
        obtain rfl : i = 0 := by simpa [isTruthy] using h
        exact .zero
    | real r =>
        cases r with
        | notANumber => cases h
        | infinite negative => cases h
        | finite significand exponent =>
            obtain rfl : significand = 0 := by simpa [isTruthy, Real64.isZero] using h
            exact .realZero exponent
    | text s =>
        obtain rfl : s = "" := by simpa [isTruthy] using h
        exact .emptyText
    | list items =>
        obtain rfl : items = [] := by simpa [isTruthy] using h
        exact .emptyList
    | map entries =>
        obtain rfl : entries = [] := by simpa [isTruthy] using h
        exact .emptyMap
  · intro h
    cases h <;> rfl

theorem Value.isTruthy_iff {v : Value} : v.isTruthy = true ↔ ¬v.Void := by
  rw [← isTruthy_eq_false_iff, Bool.not_eq_false]

/-! ### Sections -/

/-- The **sections** of settings. -/
inductive Section where
  | memory
  | run
  | server
  | logging
  deriving DecidableEq, Repr

namespace Section

/-- All sections, in the order in which they are merged. -/
def all : List Section :=
  [memory, run, server, logging]

/-- The name of a section. -/
def name : Section → String
  | memory => "memory"
  | run => "run"
  | server => "server"
  | logging => "logging"

theorem mem_all (x : Section) : x ∈ all := by
  cases x <;> decide

/-- The place of a section in their order. -/
def position (x : Section) : Nat :=
  all.idxOf x

theorem position_inj {x y : Section} : x.position = y.position ↔ x = y :=
  List.idxOf_inj x.mem_all

end Section

/-- The entries of a section. -/
def Settings.entries (s : Settings) : Section → Entries
  | .memory => s.memory
  | .run => s.run
  | .server => s.server
  | .logging => s.logging

/-- A value **gives** a section if it is a map that has a map under the name of the section. -/
def Value.GivesSection (v : Value) (x : Section) (told : Entries) : Prop :=
  ∃ given : Entries, v = .map given ∧ given.get? x.name = some (.map told)

/-- A value **gives** a value for a name of a section if it gives the section, with that value under
the name. -/
def Value.Gives (v : Value) (x : Section) (name : String) (w : Value) : Prop :=
  ∃ told, v.GivesSection x told ∧ told.get? name = some w

/-- A value gives a section in one way. -/
theorem Value.GivesSection.unique {v : Value} {x : Section} {told told' : Entries}
    (h : v.GivesSection x told) (h' : v.GivesSection x told') : told = told' := by
  obtain ⟨given, rfl, htold⟩ := h
  obtain ⟨given', heq, htold'⟩ := h'
  obtain rfl := Value.map.inj heq
  exact Value.map.inj (Option.some.inj (htold.symm.trans htold'))

/-- A map of sections is **at fault** in a section if what it has there is neither void nor a
map. -/
def Entries.FaultIn (given : Entries) (x : Section) (w : Value) : Prop :=
  given.get? x.name = some w ∧ ¬w.Void ∧ ∀ told, w ≠ .map told

/-- The **first fault** of a map of sections: one in a section with none in the sections before. -/
def Entries.FirstFault (given : Entries) (x : Section) (w : Value) : Prop :=
  given.FaultIn x w ∧ ∀ y, y.position < x.position → ∀ w', ¬given.FaultIn y w'

namespace Settings

section

variable {given : Entries} {s : Settings} {x : Section}

/-- No name occurs twice in a section of the built-in values. -/
theorem distinct_builtIn (x : Section) : (builtIn.entries x).Distinct := by
  cases x <;> decide

/-- Settings as a value have each section under its name. -/
theorem givesSection_toValue (s : Settings) (x : Section) :
    s.toValue.GivesSection x (s.entries x) :=
  ⟨_, rfl, by cases x <;> rfl⟩

/-! ### One section -/

/-- **How a section goes**: it is given as a map, which is put over the built-in values; or nothing
is given, and the built-in values stay; or it is at fault. -/
theorem mergeSection_cases (given : Entries) (x : Section) :
    (∃ told : Entries, given.get? x.name = some (.map told) ∧
      mergeSection given x.name (builtIn.entries x) = .ok ((builtIn.entries x).override told)) ∨
    ((∀ told, given.get? x.name ≠ some (.map told)) ∧ (∀ w, ¬given.FaultIn x w) ∧
      mergeSection given x.name (builtIn.entries x) = .ok (builtIn.entries x)) ∨
    ∃ w, given.FaultIn x w ∧
      mergeSection given x.name (builtIn.entries x) = .error (.notSection w.kindName) := by
  rw [mergeSection]
  split
  · next hnone =>
      refine .inr (.inl ⟨fun told h => ?_, fun w hfault => ?_, rfl⟩)
      · rw [hnone] at h
        cases h
      · rw [Entries.FaultIn, hnone] at hfault
        cases hfault.1
  · next told htold => exact .inl ⟨told, htold, rfl⟩
  · next w hnomap hw =>
      have hnone : ∀ told, given.get? x.name ≠ some (.map told) := fun told htold =>
        hnomap told (Option.some.inj (hw.symm.trans htold))
      split
      · next htruthy =>
          exact .inr (.inr ⟨w, ⟨hw, Value.isTruthy_iff.mp htruthy, hnomap⟩, rfl⟩)
      · next htruthy =>
          refine .inr (.inl ⟨hnone, fun w' hfault => htruthy ?_, rfl⟩)
          obtain rfl : w = w' := Option.some.inj (hw.symm.trans hfault.1)
          exact Value.isTruthy_iff.mpr hfault.2.1

/-- **Nothing is at fault** in a section if what is there, if anything, is void or a map. -/
theorem forall_not_faultIn_iff :
    (∀ w, ¬given.FaultIn x w) ↔
      ∀ w, given.get? x.name = some w → w.Void ∨ ∃ told, w = .map told := by
  refine forall_congr' fun w => ?_
  rw [Entries.FaultIn, not_and, not_and_or, not_not, not_forall]
  simp only [ne_eq, not_not]

/-- Nothing is at fault in a section that is given as a map. -/
theorem not_faultIn_of_map {told : Entries} (h : given.get? x.name = some (.map told)) (w : Value) :
    ¬given.FaultIn x w := by
  rintro ⟨hw, -, hother⟩
  exact hother told (Option.some.inj (hw.symm.trans h))

/-- A section can be merged if it is not at fault. -/
theorem exists_mergeSection (h : ∀ w, ¬given.FaultIn x w) :
    ∃ es, mergeSection given x.name (builtIn.entries x) = .ok es := by
  rcases mergeSection_cases given x with ⟨told, -, hmerge⟩ | ⟨-, -, hmerge⟩ | ⟨w, hfault, -⟩
  · exact ⟨_, hmerge⟩
  · exact ⟨_, hmerge⟩
  · exact absurd hfault (h w)

/-- **A look-up in a merged section** finds what is given, and otherwise the built-in value. -/
theorem get?_of_mergeSection {es : Entries}
    (h : mergeSection given x.name (builtIn.entries x) = .ok es)
    (hdistinct : ∀ told : Entries, given.get? x.name = some (.map told) → told.Distinct)
    (name : String) :
    (∀ w, (Value.map given).Gives x name w → es.get? name = some w) ∧
      ((∀ w, ¬(Value.map given).Gives x name w) →
        es.get? name = (builtIn.entries x).get? name) := by
  rcases mergeSection_cases given x with
    ⟨told, htold, hmerge⟩ | ⟨hnone, -, hmerge⟩ | ⟨w, -, hmerge⟩
  · obtain rfl := Except.ok.inj (h.symm.trans hmerge)
    have hlookup := Entries.get?_override (hdistinct told htold) (builtIn.entries x) name
    constructor
    · rintro w ⟨told', htold', hw⟩
      obtain rfl := htold'.unique ⟨given, rfl, htold⟩
      rw [hlookup, hw, Option.some_or]
    · intro hnot
      have hmissing : told.get? name = none := by
        rw [Option.eq_none_iff_forall_ne_some]
        exact fun w hw => hnot w ⟨told, ⟨given, rfl, htold⟩, hw⟩
      rw [hlookup, hmissing, Option.none_or]
  · obtain rfl := Except.ok.inj (h.symm.trans hmerge)
    refine ⟨?_, fun _ => rfl⟩
    rintro w ⟨told, ⟨given', heq, htold⟩, -⟩
    obtain rfl := Value.map.inj heq
    exact absurd htold (hnone told)
  · cases h.symm.trans hmerge

/-- A merged section is the built-in values with something put over them, if only nothing. -/
theorem exists_override_of_mergeSection {es : Entries}
    (h : mergeSection given x.name (builtIn.entries x) = .ok es) :
    ∃ told, es = (builtIn.entries x).override told := by
  rcases mergeSection_cases given x with ⟨told, -, hmerge⟩ | ⟨-, -, hmerge⟩ | ⟨w, -, hmerge⟩
  · exact ⟨told, Except.ok.inj (h.symm.trans hmerge)⟩
  · exact ⟨[], Except.ok.inj (h.symm.trans hmerge)⟩
  · cases h.symm.trans hmerge

/-! ### All sections -/

/-- Sections that can all be merged make settings. -/
theorem merge_map_of_ok
    (h : ∀ x, mergeSection given x.name (builtIn.entries x) = .ok (s.entries x)) :
    merge (.map given) = .ok s := by
  have hmemory : mergeSection given "memory" builtIn.memory = .ok s.memory := h .memory
  have hrun : mergeSection given "run" builtIn.run = .ok s.run := h .run
  have hserver : mergeSection given "server" builtIn.server = .ok s.server := h .server
  have hlogging : mergeSection given "logging" builtIn.logging = .ok s.logging := h .logging
  rw [merge, hmemory, hrun, hserver, hlogging]
  rfl

/-- The first section that can not be merged tells the error. -/
theorem merge_map_of_error {e : MergeError}
    (hbefore : ∀ y, y.position < x.position →
      ∃ es, mergeSection given y.name (builtIn.entries y) = .ok es)
    (h : mergeSection given x.name (builtIn.entries x) = .error e) :
    merge (.map given) = .error e := by
  have hmemory : Section.memory.position < x.position →
      ∃ es, mergeSection given "memory" builtIn.memory = .ok es := hbefore .memory
  have hrun : Section.run.position < x.position →
      ∃ es, mergeSection given "run" builtIn.run = .ok es := hbefore .run
  have hserver : Section.server.position < x.position →
      ∃ es, mergeSection given "server" builtIn.server = .ok es := hbefore .server
  cases x with
  | memory =>
      have hmemory : mergeSection given "memory" builtIn.memory = .error e := h
      rw [merge, hmemory]
      rfl
  | run =>
      have hrun : mergeSection given "run" builtIn.run = .error e := h
      obtain ⟨memory, hmemory⟩ := hmemory (by decide)
      rw [merge, hmemory, hrun]
      rfl
  | server =>
      have hserver : mergeSection given "server" builtIn.server = .error e := h
      obtain ⟨memory, hmemory⟩ := hmemory (by decide)
      obtain ⟨run, hrun⟩ := hrun (by decide)
      rw [merge, hmemory, hrun, hserver]
      rfl
  | logging =>
      have hlogging : mergeSection given "logging" builtIn.logging = .error e := h
      obtain ⟨memory, hmemory⟩ := hmemory (by decide)
      obtain ⟨run, hrun⟩ := hrun (by decide)
      obtain ⟨server, hserver⟩ := hserver (by decide)
      rw [merge, hmemory, hrun, hserver, hlogging]
      rfl

/-- There is a first fault if there is one at all. -/
theorem exists_firstFault {w : Value} (h : given.FaultIn x w) : ∃ y w', given.FirstFault y w' := by
  classical
  have hsome : ∃ n x w, Section.position x = n ∧ given.FaultIn x w := ⟨_, x, w, rfl, h⟩
  obtain ⟨y, w', hposition, hfault⟩ := Nat.find_spec hsome
  refine ⟨y, w', hfault, fun z hz w'' hfault' => ?_⟩
  exact Nat.find_min hsome (hposition ▸ hz) ⟨z, w'', rfl, hfault'⟩

/-- There is at most one first fault. -/
theorem firstFault_unique {y : Section} {w w' : Value} (h : given.FirstFault x w)
    (h' : given.FirstFault y w') : w = w' := by
  obtain ⟨hfault, hbefore⟩ := h
  obtain ⟨hfault', hbefore'⟩ := h'
  rcases Nat.lt_trichotomy x.position y.position with hlt | heq | hgt
  · exact absurd hfault (hbefore' x hlt w)
  · obtain rfl := Section.position_inj.mp heq
    exact Option.some.inj (hfault.1.symm.trans hfault'.1)
  · exact absurd hfault' (hbefore y hgt w')

/-- **How a map of sections goes**: no section is at fault, and there are settings with every
section merged; or there is a first fault, which tells the error. -/
theorem merge_map_cases (given : Entries) :
    ((∀ x w, ¬given.FaultIn x w) ∧ ∃ s, merge (.map given) = .ok s ∧
      ∀ x, mergeSection given x.name (builtIn.entries x) = .ok (s.entries x)) ∨
    ∃ x w, given.FirstFault x w ∧ merge (.map given) = .error (.notSection w.kindName) := by
  by_cases hfault : ∃ x w, given.FaultIn x w
  · obtain ⟨x, w, hfault⟩ := hfault
    obtain ⟨y, w', hfirst⟩ := exists_firstFault hfault
    refine .inr ⟨y, w', hfirst, ?_⟩
    refine merge_map_of_error (fun z hz => exists_mergeSection (hfirst.2 z hz)) ?_
    rcases mergeSection_cases given y with ⟨told, htold, -⟩ | ⟨-, hnot, -⟩ | ⟨w'', hw'', hmerge⟩
    · exact absurd hfirst.1 (not_faultIn_of_map htold w')
    · exact absurd hfirst.1 (hnot w')
    · obtain rfl : w'' = w' := Option.some.inj (hw''.1.symm.trans hfirst.1.1)
      exact hmerge
  · have hnone : ∀ x w, ¬given.FaultIn x w := fun x w h => hfault ⟨x, w, h⟩
    obtain ⟨memory, hmemory⟩ := exists_mergeSection (hnone .memory)
    obtain ⟨run, hrun⟩ := exists_mergeSection (hnone .run)
    obtain ⟨server, hserver⟩ := exists_mergeSection (hnone .server)
    obtain ⟨logging, hlogging⟩ := exists_mergeSection (hnone .logging)
    have hall : ∀ x, mergeSection given x.name (builtIn.entries x) =
        .ok (entries ⟨memory, run, server, logging⟩ x) := by
      intro x
      cases x with
      | memory => exact hmemory
      | run => exact hrun
      | server => exact hserver
      | logging => exact hlogging
    exact .inl ⟨hnone, _, merge_map_of_ok hall, hall⟩

/-- Other sections than the four have no influence. -/
theorem merge_map_congr {other : Entries}
    (h : ∀ x : Section, other.get? x.name = given.get? x.name) :
    merge (.map other) = merge (.map given) := by
  have hsection : ∀ x, mergeSection other x.name (builtIn.entries x) =
      mergeSection given x.name (builtIn.entries x) := fun x => by
    rw [mergeSection, mergeSection, h]
  have hmemory : mergeSection other "memory" builtIn.memory = _ := hsection .memory
  have hrun : mergeSection other "run" builtIn.run = _ := hsection .run
  have hserver : mergeSection other "server" builtIn.server = _ := hsection .server
  have hlogging : mergeSection other "logging" builtIn.logging = _ := hsection .logging
  rw [merge, hmemory, hrun, hserver, hlogging]
  rfl

/-! ### Values as a whole -/

/-- What comes of a value that is no map: an error if it counts as given, and otherwise the built-in
values. -/
theorem merge_of_ne_map {v : Value} (h : ∀ given, v ≠ .map given) :
    merge v = if v.isTruthy then .error (.notSettings v.kindName) else .ok builtIn := by
  cases v with
  | map given => exact absurd rfl (h given)
  | null | bool b | int i | real r | text t | list items => rfl

/-- **How a value goes**: it is a map of sections that can all be merged; or a map with a first
fault; or it is void and no map, and the built-in values stay; or it is neither void nor a map. -/
theorem merge_cases (v : Value) :
    (∃ given, v = .map given ∧ (∀ x w, ¬Entries.FaultIn given x w) ∧ ∃ s, merge v = .ok s ∧
      ∀ x, mergeSection given x.name (builtIn.entries x) = .ok (s.entries x)) ∨
    (∃ given x w, v = .map given ∧ Entries.FirstFault given x w ∧
      merge v = .error (.notSection w.kindName)) ∨
    ((∀ given, v ≠ .map given) ∧ v.Void ∧ merge v = .ok builtIn) ∨
    ((∀ given, v ≠ .map given) ∧ ¬v.Void ∧ merge v = .error (.notSettings v.kindName)) := by
  by_cases hmap : ∃ given, v = .map given
  · obtain ⟨given, rfl⟩ := hmap
    rcases merge_map_cases given with ⟨hnone, hmerge⟩ | ⟨x, w, hfirst, hmerge⟩
    · exact .inl ⟨given, rfl, hnone, hmerge⟩
    · exact .inr (.inl ⟨given, x, w, rfl, hfirst, hmerge⟩)
  · have hother : ∀ given, v ≠ .map given := fun given heq => hmap ⟨given, heq⟩
    have hmerge := merge_of_ne_map hother
    by_cases hvoid : v.Void
    · rw [if_neg fun h => Value.isTruthy_iff.mp h hvoid] at hmerge
      exact .inr (.inr (.inl ⟨hother, hvoid, hmerge⟩))
    · rw [if_pos (Value.isTruthy_iff.mpr hvoid)] at hmerge
      exact .inr (.inr (.inr ⟨hother, hvoid, hmerge⟩))

/-- Settings **come of** a value: they are four sections, in which every name has the value it is
given, and without one the built-in value, if there is one. -/
structure ComesOf (s : Settings) (v : Value) : Prop where
  sections : s.toValue = .map (Section.all.map fun x => (x.name, .map (s.entries x)))
  given : ∀ x name w, v.Gives x name w → (s.entries x).get? name = some w
  builtIn : ∀ x name, (∀ w, ¬v.Gives x name w) →
    (s.entries x).get? name = (Settings.builtIn.entries x).get? name

/-- A value **tells** settings if it gives every section with what the section has under each name,
in whatever order. -/
def IsToldBy (s : Settings) (v : Value) : Prop :=
  ∀ x, ∃ told, v.GivesSection x told ∧ told.Distinct ∧
    ∀ name, told.get? name = (s.entries x).get? name

/-- **What a value is merged to** comes of it. -/
theorem comesOf_of_merge {v : Value} (h : merge v = .ok s)
    (hdistinct : ∀ x told, v.GivesSection x told → told.Distinct) : s.ComesOf v := by
  rcases merge_cases v with ⟨given, rfl, -, s', hmerge, hsections⟩ | ⟨given, x, w, -, -, hmerge⟩ |
    ⟨hother, -, hmerge⟩ | ⟨-, -, hmerge⟩
  · obtain rfl : s = s' := Except.ok.inj (h.symm.trans hmerge)
    have hlookup := fun x => get?_of_mergeSection (hsections x)
      fun told htold => hdistinct x told ⟨given, rfl, htold⟩
    exact ⟨rfl, fun x name => (hlookup x name).1, fun x name => (hlookup x name).2⟩
  · cases h.symm.trans hmerge
  · obtain rfl := Except.ok.inj (h.symm.trans hmerge)
    refine ⟨rfl, fun x name w hgives => ?_, fun _ _ _ => rfl⟩
    obtain ⟨told, ⟨given, heq, -⟩, -⟩ := hgives
    exact absurd heq (hother given)
  · cases h.symm.trans hmerge

/-- **A value can be merged** exactly if it is void, or a map in which every section is missing,
void or a map. -/
theorem exists_merge_iff {v : Value} :
    (∃ s, merge v = .ok s) ↔
      v.Void ∨ ∃ given : Entries, v = .map given ∧
        ∀ (x : Section) w, given.get? x.name = some w → w.Void ∨ ∃ told, w = .map told := by
  rcases merge_cases v with ⟨given, rfl, hnone, s, hmerge, -⟩ | ⟨given, x, w, rfl, hfirst, hmerge⟩ |
    ⟨-, hvoid, hmerge⟩ | ⟨hother, hgiven, hmerge⟩
  · exact iff_of_true ⟨s, hmerge⟩ (.inr ⟨given, rfl, fun x => forall_not_faultIn_iff.mp (hnone x)⟩)
  · refine iff_of_false (by simp [hmerge]) ?_
    rintro (hvoid | ⟨given', heq, hsections⟩)
    · -- a void map has no sections, so none at fault
      cases hvoid
      cases hfirst.1.1
    · obtain rfl := Value.map.inj heq
      exact forall_not_faultIn_iff.mpr (hsections x) w hfirst.1
  · exact iff_of_true ⟨_, hmerge⟩ (.inl hvoid)
  · refine iff_of_false (by simp [hmerge]) ?_
    rintro (hvoid | ⟨given, heq, -⟩)
    · exact hgiven hvoid
    · exact hother given heq

/-- **Merging fails** exactly for a value that counts as given and is no map, and for a map with a
section at fault, the first of which tells the error. -/
theorem merge_eq_error_iff {v : Value} {e : MergeError} :
    merge v = .error e ↔
      (¬v.Void ∧ (∀ given, v ≠ .map given) ∧ e = .notSettings v.kindName) ∨
      ∃ (given : Entries) (x : Section) (w : Value),
        v = .map given ∧ given.FirstFault x w ∧ e = .notSection w.kindName := by
  constructor
  · intro he
    rcases merge_cases v with ⟨-, -, -, s, hmerge, -⟩ | ⟨given, x, w, heq, hfirst, hmerge⟩ |
      ⟨-, -, hmerge⟩ | ⟨hother, hgiven, hmerge⟩
    · cases he.symm.trans hmerge
    · exact .inr ⟨given, x, w, heq, hfirst, Except.error.inj (he.symm.trans hmerge)⟩
    · cases he.symm.trans hmerge
    · exact .inl ⟨hgiven, hother, Except.error.inj (he.symm.trans hmerge)⟩
  · rintro (⟨hgiven, hother, rfl⟩ | ⟨given, x, w, rfl, hfirst, rfl⟩)
    · rw [merge_of_ne_map hother, if_pos (Value.isTruthy_iff.mpr hgiven)]
    · rcases merge_map_cases given with ⟨hnone, -⟩ | ⟨y, w', hfirst', hmerge⟩
      · exact absurd hfirst.1 (hnone x w)
      · rw [hmerge, firstFault_unique hfirst hfirst']

/-- Merged settings are the built-in values with something put over them in every section. -/
theorem exists_override_of_merge {v : Value} (h : merge v = .ok s) (x : Section) :
    ∃ told, s.entries x = (builtIn.entries x).override told := by
  rcases merge_cases v with ⟨given, -, -, s', hmerge, hsections⟩ | ⟨given, y, w, -, -, hmerge⟩ |
    ⟨-, -, hmerge⟩ | ⟨-, -, hmerge⟩
  · obtain rfl := Except.ok.inj (h.symm.trans hmerge)
    exact exists_override_of_mergeSection (hsections x)
  · cases h.symm.trans hmerge
  · obtain rfl := Except.ok.inj (h.symm.trans hmerge)
    exact ⟨[], rfl⟩
  · cases h.symm.trans hmerge

/-- **Merged settings are merged into themselves.** -/
theorem merge_toValue {v : Value} (h : merge v = .ok s) : merge s.toValue = .ok s := by
  refine merge_map_of_ok fun x => ?_
  obtain ⟨given, heq, hsection⟩ := s.givesSection_toValue x
  obtain rfl := Value.map.inj heq
  obtain ⟨told, htold⟩ := exists_override_of_merge h x
  rw [mergeSection, hsection, htold]
  exact congrArg Except.ok (Entries.override_override (distinct_builtIn x) told)

/-- A name with a built-in value has a value in what settings come of. -/
theorem ComesOf.builtIn_eq_none {v : Value} (h : s.ComesOf v) {name : String}
    (hnone : (s.entries x).get? name = none) : (Settings.builtIn.entries x).get? name = none := by
  rw [← h.builtIn x name, hnone]
  intro w hw
  rw [h.given x name w hw] at hnone
  cases hnone

/-- **A value that tells merged settings** is merged into the same settings, but for the order of
their entries. -/
theorem merge_of_isToldBy {v w : Value} (h : s.ComesOf v) (hw : s.IsToldBy w) :
    ∃ s', merge w = .ok s' ∧ ∀ x name, (s'.entries x).get? name = (s.entries x).get? name := by
  obtain ⟨s', hs'⟩ : ∃ s', merge w = .ok s' := by
    obtain ⟨-, ⟨given, hgiven, -⟩, -⟩ := hw .memory
    refine exists_merge_iff.mpr (.inr ⟨given, hgiven, fun x u hu => .inr ?_⟩)
    obtain ⟨told, ⟨given', heq, htold⟩, -⟩ := hw x
    obtain rfl := Value.map.inj (hgiven.symm.trans heq)
    exact ⟨told, Option.some.inj (hu.symm.trans htold)⟩
  have hcomes : s'.ComesOf w := by
    refine comesOf_of_merge hs' fun x told htold => ?_
    obtain ⟨told', htold', hdistinct, -⟩ := hw x
    exact htold'.unique htold ▸ hdistinct
  refine ⟨s', hs', fun x name => ?_⟩
  obtain ⟨told, htold, -, hlookup⟩ := hw x
  cases hname : (s.entries x).get? name with
  | some u => exact hcomes.given x name u ⟨told, htold, (hlookup name).trans hname⟩
  | none =>
      rw [hcomes.builtIn x name, h.builtIn_eq_none hname]
      rintro u ⟨told', htold', hu⟩
      obtain rfl := htold.unique htold'
      cases hu.symm.trans ((hlookup name).trans hname)

end

end Settings

/-! ### Settings files -/

section

variable {files : Files} {path : String} {v : Value}

/-- A settings file is merged over the built-in values. -/
theorem loadSettings_of_settings (h : files.settings path = .ok v) :
    loadSettings files (some path) = (Settings.merge v).mapError .merge := by
  rw [loadSettings, h]
  dsimp only
  cases Settings.merge v with
  | error e => rfl
  | ok s => rfl

theorem loadSettings_eq_ok_iff (h : files.settings path = .ok v) {s : Settings} :
    loadSettings files (some path) = .ok s ↔ Settings.merge v = .ok s := by
  rw [loadSettings_of_settings h]
  cases Settings.merge v with
  | error e => exact iff_of_false (by simp [Except.mapError]) (by simp)
  | ok s' => simp only [Except.mapError, Except.ok.injEq]

theorem loadSettings_eq_error_iff (h : files.settings path = .ok v) {e : SessionError} :
    loadSettings files (some path) = .error e ↔
      ∃ e', Settings.merge v = .error e' ∧ e = .merge e' := by
  rw [loadSettings_of_settings h]
  cases Settings.merge v with
  | error e' => simp [Except.mapError, eq_comm]
  | ok s => exact iff_of_false (by simp [Except.mapError]) (by simp)

/-- **What a settings file comes to.** Loading it succeeds exactly if its value is void, or a map in
which each of the four sections is missing, void or a map; otherwise it fails for the value as a
whole, or for the first section at fault. On success there are exactly the four sections, and every
name in them has the value it is given, be it null, or else its built-in value, or none. Nothing
else in the value has any influence, and a file with the outcome comes to the outcome. All that is
asked of the value is that its sections are maps, with no name twice. -/
theorem loadSettings_merges_sections (hfile : files.settings path = .ok v)
    (hdistinct : ∀ x told, v.GivesSection x told → told.Distinct) :
    let loaded := loadSettings files (some path)
    ((∃ s, loaded = .ok s) ↔
      v.Void ∨ ∃ given : Entries, v = .map given ∧
        ∀ (x : Section) w, given.get? x.name = some w → w.Void ∨ ∃ told, w = .map told) ∧
    (∀ e, loaded = .error e ↔
      (¬v.Void ∧ (∀ given, v ≠ .map given) ∧ e = .merge (.notSettings v.kindName)) ∨
      ∃ (given : Entries) (x : Section) (w : Value),
        v = .map given ∧ given.FirstFault x w ∧ e = .merge (.notSection w.kindName)) ∧
    (∀ s, loaded = .ok s → s.ComesOf v ∧
      (∀ (again : Files) file, again.settings file = .ok s.toValue →
        loadSettings again (some file) = .ok s) ∧
      ∀ (again : Files) file w, again.settings file = .ok w → s.IsToldBy w →
        ∃ s', loadSettings again (some file) = .ok s' ∧
          ∀ x name, (s'.entries x).get? name = (s.entries x).get? name) ∧
    ∀ (given changed : Entries), v = .map given →
      (∀ x : Section, changed.get? x.name = given.get? x.name) →
      ∀ (other : Files) file, other.settings file = .ok (.map changed) →
        loadSettings other (some file) = loaded := by
  intro loaded
  refine ⟨?_, fun e => ?_, fun s hs => ⟨?_, fun again file hagain => ?_,
    fun again file w hagain htold => ?_⟩, fun given changed heq hsame other file hother => ?_⟩
  · rw [← Settings.exists_merge_iff]
    exact exists_congr fun s => loadSettings_eq_ok_iff hfile
  · rw [loadSettings_eq_error_iff hfile]
    constructor
    · rintro ⟨e', he', rfl⟩
      rcases Settings.merge_eq_error_iff.mp he' with
        ⟨hvoid, hother, rfl⟩ | ⟨given, x, w, heq, hfirst, rfl⟩
      · exact .inl ⟨hvoid, hother, rfl⟩
      · exact .inr ⟨given, x, w, heq, hfirst, rfl⟩
    · rintro (⟨hvoid, hother, rfl⟩ | ⟨given, x, w, heq, hfirst, rfl⟩)
      · exact ⟨_, Settings.merge_eq_error_iff.mpr (.inl ⟨hvoid, hother, rfl⟩), rfl⟩
      · exact ⟨_, Settings.merge_eq_error_iff.mpr (.inr ⟨given, x, w, heq, hfirst, rfl⟩), rfl⟩
  · exact Settings.comesOf_of_merge ((loadSettings_eq_ok_iff hfile).mp hs) hdistinct
  · exact (loadSettings_eq_ok_iff hagain).mpr
      (Settings.merge_toValue ((loadSettings_eq_ok_iff hfile).mp hs))
  · have hcomes := Settings.comesOf_of_merge ((loadSettings_eq_ok_iff hfile).mp hs) hdistinct
    obtain ⟨s', hs', hlookup⟩ := Settings.merge_of_isToldBy hcomes htold
    exact ⟨s', (loadSettings_eq_ok_iff hagain).mpr hs', hlookup⟩
  · subst heq
    have hmerge := Settings.merge_map_congr hsame
    exact (loadSettings_of_settings hother).trans
      (hmerge ▸ (loadSettings_of_settings hfile).symm)

/-- A file with a null, a name and a section that are not known, and an empty list for a section:
the null hides the built-in size, and the outcome comes to itself. -/
theorem loadSettings_merges_sections_null :
    let told : Entries := [("size", .null), ("banks", .int 2)]
    let given : Entries :=
      [("memory", .map told), ("colours", .text "dark"), ("run", .list [])]
    let files : Files := ⟨fun _ => none, fun _ => .ok (.map given)⟩
    ∃ s, loadSettings files (some "settings") = .ok s ∧
      s.memory.get? "size" = some .null ∧ s.memory.get? "banks" = some (.int 2) ∧
      s.memory.get? "display_words" = some (.int 16) ∧
      s.run.get? "max_steps" = some (.int 10000) ∧
      loadSettings ⟨fun _ => none, fun _ => .ok s.toValue⟩ (some "settings") = .ok s := by
  intro told given files
  have hmemory : (Value.map given).GivesSection .memory told := ⟨given, rfl, rfl⟩
  have honly : ∀ x told', (Value.map given).GivesSection x told' → x = .memory ∧ told' = told := by
    rintro x told' ⟨given', heq, htold'⟩
    obtain rfl := Value.map.inj heq
    cases x with
    | memory => exact ⟨rfl, (Value.map.inj (Option.some.inj htold')).symm⟩
    | run => cases htold'
    | server => cases htold'
    | logging => cases htold'
  have hfile : files.settings "settings" = .ok (.map given) := rfl
  have hdistinct : ∀ x told', (Value.map given).GivesSection x told' → told'.Distinct :=
    fun x told' htold' => (honly x told' htold').2 ▸ (by decide : told.Distinct)
  obtain ⟨hload, -, hcomes, -⟩ := loadSettings_merges_sections hfile hdistinct
  obtain ⟨s, hs⟩ := hload.mpr (.inr ⟨given, rfl, fun x w hw => by
    cases x with
    | memory => exact .inr ⟨told, (Option.some.inj hw).symm⟩
    | run => exact .inl (Option.some.inj hw ▸ .emptyList)
    | server => cases hw
    | logging => cases hw⟩)
  obtain ⟨hcomes, hagain, -⟩ := hcomes s hs
  refine ⟨s, hs, hcomes.given .memory _ _ ⟨told, hmemory, rfl⟩,
    hcomes.given .memory _ _ ⟨told, hmemory, rfl⟩, hcomes.builtIn .memory _ ?_,
    hcomes.builtIn .run _ ?_, hagain _ _ rfl⟩
  · rintro w ⟨told', htold', hw⟩
    obtain rfl := htold'.unique hmemory
    cases hw
  · rintro w ⟨told', htold', -⟩
    cases (honly .run told' htold').1

end

end Monocycle
