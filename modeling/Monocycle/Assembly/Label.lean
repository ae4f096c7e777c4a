import Monocycle.Assembly.SourceLine

/-!
# Labels

The addresses that labels stand for. Every instruction line takes four bytes; a label stands for
the address of the first instruction that is not before its line. A label defined again stands
for its last definition.

## Main definitions

* `LabelTable`: names with addresses, in the order in which they were first defined.
* `labelDefinitions`: every definition of a list of lines, in order.
* `labelTable`: the table those definitions make.
-/

namespace Monocycle

/-- **Label table**: names with their byte addresses. -/
abbrev LabelTable := List (Text × Int)

namespace LabelTable

/-- The address of a label. -/
def address? (table : LabelTable) (name : Text) : Option Int :=
  table.lookup name

/-- Gives a label an address, in place of the one it may have. -/
def define (table : LabelTable) (name : Text) (address : Int) : LabelTable :=
  match table with
  | [] => [(name, address)]
  | (other, known) :: rest =>
    if other = name then (name, address) :: rest
    else (other, known) :: define rest name address

/-- A label just defined has the address it was given, and no other label changes. -/
theorem address?_define (table : LabelTable) (name other : Text) (address : Int) :
    (define table name address).address? other =
      if other = name then some address else table.address? other := by
  induction table with
  | nil =>
    by_cases h : other = name
    · simp [define, address?, h]
    · have hb : (other == name) = false := by simpa using h
      simp [define, address?, List.lookup_cons, h, hb]
  | cons entry rest ih =>
    obtain ⟨known, value⟩ := entry
    simp only [address?] at ih ⊢
    rw [define]
    split
    · next hk =>
      subst hk
      by_cases h : other = known
      · simp [h]
      · have hb : (other == known) = false := by simpa using h
        simp [List.lookup_cons, h, hb]
    · next hk =>
      by_cases h : other = known
      · subst h
        simp [hk]
      · have hb : (other == known) = false := by simpa using h
        simp [List.lookup_cons, hb, ih]

end LabelTable

/-- The address of the line after one at `address`. -/
def SourceLine.nextAddress (l : SourceLine) (address : Int) : Int :=
  if l.isInstruction then address + 4 else address

/-- Every label definition of some lines, the first of them at `address`. -/
def labelDefinitions (address : Int) : List SourceLine → List (Text × Int)
  | [] => []
  | l :: rest =>
    let later := labelDefinitions (l.nextAddress address) rest
    match l.label? with
    | some name => (name, address) :: later
    | none => later

/-- The **label table** of some lines: their definitions entered in order. -/
def labelTable (ls : List SourceLine) : LabelTable :=
  (labelDefinitions 0 ls).foldl (fun table entry => table.define entry.1 entry.2) []

end Monocycle
