import Mathlib.Data.List.DropRight
import Monocycle.Proofs.Assembly.Operands
import Monocycle.Proofs.Text.Integers
import Monocycle.Report

/-!
# Reading the register table

The table of the registers has eight rows of four cells. A cell is a label of thirteen columns and
a value in eleven, and a word takes eleven columns at most: ten digits, and a minus. So all cells
have the same width, and with two blanks between them each begins at a column of its own, whatever
the values are. What stands in the last columns of a cell is the value of its register.

## Main definitions

* `cellColumns`: where the cell of a register stands in a table.
* `readCell?`: the number in the last columns of a cell.

## Main results

* `take_drop_intercalate`: joined cells of one width stand at fixed columns.
* `cellColumns_registerTable`: the cell of a register stands at its place.
* `registerTable_reads_back`: **the table tells the registers.**
-/

namespace Monocycle

open Text

/-! ### Cells of one width -/

section

variable (separator : Text) {cells : List Text} {width : Nat}

/-- The length of joined cells of one width, with a separator behind the last one as well. -/
theorem length_intercalate (h : ∀ cell ∈ cells, cell.length = width) (hsome : cells ≠ []) :
    (separator.intercalate cells).length + separator.length =
      (width + separator.length) * cells.length := by
  induction cells with
  | nil => exact absurd rfl hsome
  | cons cell rest ih =>
      obtain ⟨hcell, hrest⟩ := List.forall_mem_cons.mp h
      cases rest with
      | nil => rw [List.intercalate_singleton, hcell, List.length_singleton, Nat.mul_one]
      | cons cell' rest =>
          have hlength := ih hrest (List.cons_ne_nil cell' rest)
          rw [List.intercalate_cons_cons, List.length_append, List.length_append, hcell,
            List.length_cons, Nat.mul_succ]
          omega

/-- **Joined cells of one width** stand at fixed columns. -/
theorem take_drop_intercalate (h : ∀ cell ∈ cells, cell.length = width) {k : Nat} {cell : Text}
    (hk : cells[k]? = some cell) :
    ((separator.intercalate cells).drop ((width + separator.length) * k)).take width = cell := by
  induction cells generalizing k with
  | nil => cases hk
  | cons first rest ih =>
      obtain ⟨hfirst, hrest⟩ := List.forall_mem_cons.mp h
      cases k with
      | zero =>
          obtain rfl := Option.some.inj hk
          rw [Nat.mul_zero, List.drop_zero]
          cases rest with
          | nil => rw [List.intercalate_singleton, List.take_of_length_le (Nat.le_of_eq hfirst)]
          | cons next rest =>
              rw [List.intercalate_cons_cons, List.append_assoc, List.take_left' hfirst]
      | succ k =>
          have hnext : rest[k]? = some cell := hk
          cases rest with
          | nil => cases hnext
          | cons next rest =>
              -- behind the first cell and its separator the other cells stand as if by themselves
              have hlength : (first ++ separator).length = width + separator.length := by
                rw [List.length_append, hfirst]
              rw [List.intercalate_cons_cons, Nat.mul_succ, Nat.add_comm, ← List.drop_drop,
                List.drop_left' hlength]
              exact ih hrest hnext

end

/-! ### Cells of registers -/

/-- A written word takes eleven columns at most. -/
theorem length_ofInt_le {v : Int} (h : Word.InRange v) : (ofInt v).length ≤ 11 := by
  have hdigits := length_ofNat_natAbs_le h
  rw [ofInt_eq, List.length_append]
  split
  · rw [List.length_singleton]
    omega
  · rw [List.length_nil]
    omega

/-- What stands in a cell in front of the value: the number and the name of the register. -/
def cellLabel (r : Register) : Text :=
  'x' :: padEnd 2 (ofNat r) ++ " (".toList ++ padStart 4 r.abiName.toList ++ ") = ".toList

theorem registerCell_eq (r : Register) (v : Int) :
    registerCell r v = cellLabel r ++ padStart 11 (ofInt v) := rfl

theorem length_cellLabel : ∀ r, (cellLabel r).length = 13 := by
  decide

/-- The columns of a value. -/
theorem length_padStart_ofInt {v : Int} (h : Word.InRange v) :
    (padStart 11 (ofInt v)).length = 11 := by
  rw [length_padStart, Nat.max_eq_left (length_ofInt_le h)]

/-- **All cells have one width.** -/
theorem length_registerCell (r : Register) {v : Int} (h : Word.InRange v) :
    (registerCell r v).length = 24 := by
  rw [registerCell_eq, List.length_append, length_cellLabel, length_padStart_ofInt h]

/-- The number in the last eleven columns of a cell. -/
def readCell? (cell : Text) : Option Int :=
  integer? (cell.rtake 11)

/-- Blanks in front of a numeral are not read. -/
theorem integer?_padStart (width : Nat) (t : Text) : integer? (padStart width t) = integer? t := by
  have hblank : ∀ c ∈ List.replicate (width - t.length) ' ', isNumeralBlank c = true := by
    intro c hc
    rw [List.eq_of_mem_replicate hc]
    decide
  have htrim : trim isNumeralBlank (padStart width t) = trim isNumeralBlank t := by
    rw [trim, trim, padStart, List.dropWhile_append_of_pos hblank]
  rw [integer?, integer?, htrim]

/-- **The value of a cell is read back.** -/
theorem readCell?_registerCell (r : Register) {v : Int} (h : Word.InRange v) :
    readCell? (registerCell r v) = some v := by
  have hlast : (registerCell r v).rtake 11 = padStart 11 (ofInt v) := by
    rw [List.rtake, length_registerCell r h, registerCell_eq]
    exact List.drop_left' (length_cellLabel r)
  rw [readCell?, hlast, integer?_padStart, integer?_ofInt, if_pos (length_ofNat_of_inRange h)]

/-! ### The table -/

/-- Where the cell of a register stands in a table. -/
def cellColumns (table : List Text) (r : Register) : Text :=
  ((table.getD (r.val / 4) []).drop (26 * (r.val % 4))).take 24

/-- What stands at a place in the row of all numbers below a bound. -/
theorem getElem?_finRange {n : Nat} (i : Fin n) : (List.finRange n)[i.val]? = some i := by
  have hplace : i.val < (List.finRange n).length := by
    rw [List.length_finRange]
    exact i.isLt
  rw [List.getElem?_eq_getElem hplace, List.getElem_finRange]
  rfl

section

variable {f : RegisterFile}

/-- The cells of a row. -/
def rowCells (f : RegisterFile) (row : Fin 8) : List Text :=
  (List.finRange 4).map fun column =>
    registerCell (registerInCell row column) (f.read (registerInCell row column))

theorem registerRow_eq (f : RegisterFile) (row : Fin 8) :
    registerRow f row = "  ".toList.intercalate (rowCells f row) := rfl

theorem length_of_mem_rowCells (hf : ∀ r, Word.InRange (f.read r)) (row : Fin 8) :
    ∀ cell ∈ rowCells f row, cell.length = 24 := by
  intro cell hcell
  obtain ⟨column, -, rfl⟩ := List.mem_map.mp hcell
  exact length_registerCell _ (hf _)

/-- **All rows have one length.** -/
theorem length_registerRow (hf : ∀ r, Word.InRange (f.read r)) (row : Fin 8) :
    (registerRow f row).length = 102 := by
  have hcount : (rowCells f row).length = 4 := by
    rw [rowCells, List.length_map, List.length_finRange]
  have hsome : rowCells f row ≠ [] := List.ne_nil_of_length_pos (by omega)
  have hseparator : "  ".toList.length = 2 := rfl
  have hlength := length_intercalate "  ".toList (length_of_mem_rowCells hf row) hsome
  rw [← registerRow_eq, hseparator, hcount] at hlength
  omega

/-- **The cell of a register stands at its place**, in the row and the columns of its number. -/
theorem cellColumns_registerTable (hf : ∀ r, Word.InRange (f.read r)) (r : Register) :
    cellColumns (registerTable f) r = registerCell r (f.read r) := by
  obtain ⟨row, hrow⟩ : ∃ row : Fin 8, row.val = r.val / 4 := ⟨⟨r.val / 4, by omega⟩, rfl⟩
  obtain ⟨column, hcolumn⟩ : ∃ column : Fin 4, column.val = r.val % 4 :=
    ⟨⟨r.val % 4, by omega⟩, rfl⟩
  have hplace : registerInCell row column = r := by
    have hval : (registerInCell row column).val = 4 * row.val + column.val := rfl
    refine Fin.ext ?_
    rw [hval, hrow, hcolumn, Nat.div_add_mod]
  have hline : (registerTable f)[row.val]? = some (registerRow f row) := by
    rw [registerTable, List.getElem?_map, getElem?_finRange]
    rfl
  have hcell : (rowCells f row)[column.val]? = some (registerCell r (f.read r)) := by
    rw [rowCells, List.getElem?_map, getElem?_finRange, ← hplace]
    rfl
  rw [cellColumns, ← hrow, ← hcolumn, List.getD_eq_getElem?_getD, hline, Option.getD_some,
    registerRow_eq]
  exact take_drop_intercalate "  ".toList (length_of_mem_rowCells hf row) hcell

/-- Register files with the same values are the same. -/
theorem RegisterFile.eq_of_read {g : RegisterFile} (h : ∀ r, g.read r = f.read r) : g = f := by
  obtain ⟨cells⟩ := f
  obtain ⟨cells'⟩ := g
  refine congrArg RegisterFile.mk (Vector.ext fun i hi => ?_)
  exact h ⟨i, hi⟩

/-- **The table tells the registers.** It has eight rows of one length. The cell of each register
stands in the row and at the columns of its number, and depends on nothing but the register and its
value, which is the number in the last eleven columns. So two register files have the same table
exactly if they are equal. -/
theorem registerTable_reads_back (hf : ∀ r, Word.InRange (f.read r)) :
    (registerTable f).length = 8 ∧ (∀ line ∈ registerTable f, line.length = 102) ∧
    (∀ r, cellColumns (registerTable f) r = registerCell r (f.read r) ∧
      (registerCell r (f.read r)).length = 24 ∧
      readCell? (cellColumns (registerTable f) r) = some (f.read r)) ∧
    ∀ g : RegisterFile, (∀ r, Word.InRange (g.read r)) →
      (registerTable g = registerTable f ↔ g = f) ∧
      ∀ r, g.read r = f.read r →
        cellColumns (registerTable g) r = cellColumns (registerTable f) r := by
  have hcell : ∀ {g : RegisterFile}, (∀ r, Word.InRange (g.read r)) → ∀ r,
      readCell? (cellColumns (registerTable g) r) = some (g.read r) := by
    intro g hg r
    rw [cellColumns_registerTable hg, readCell?_registerCell r (hg r)]
  refine ⟨?_, fun line hline => ?_, fun r => ⟨?_, ?_, hcell hf r⟩,
    fun g hg => ⟨⟨fun htable => ?_, ?_⟩, fun r hr => ?_⟩⟩
  · rw [registerTable, List.length_map, List.length_finRange]
  · obtain ⟨row, -, rfl⟩ := List.mem_map.mp hline
    exact length_registerRow hf row
  · exact cellColumns_registerTable hf r
  · exact length_registerCell r (hf r)
  · -- both files are read from the one table
    refine RegisterFile.eq_of_read fun r => Option.some.inj ?_
    rw [← hcell hg r, htable, hcell hf r]
  · rintro rfl
    rfl
  · rw [cellColumns_registerTable hg, cellColumns_registerTable hf, hr]

end

/-- The least word fills its columns, next to the greatest. -/
theorem registerTable_reads_back_least :
    let f := (RegisterFile.cleared.write 1 (-2147483648)).write 2 2147483647
    (∀ r, Word.InRange (f.read r)) ∧
      (registerTable f)[0]? = some ("x0  (zero) =           0  x1  (  ra) = -2147483648  " ++
        "x2  (  sp) =  2147483647  x3  (  gp) =           0").toList ∧
      readCell? (cellColumns (registerTable f) 1) = some (-2147483648) ∧
      readCell? (cellColumns (registerTable f) 2) = some 2147483647 := by
  intro f
  have hf : ∀ r, Word.InRange (f.read r) := by decide
  obtain ⟨-, -, hcells, -⟩ := registerTable_reads_back hf
  exact ⟨hf, by decide, (hcells 1).2.2, (hcells 2).2.2⟩

end Monocycle
