import Monocycle.Simulator

/-!
# Figures

The contents of the two figures that can be drawn of a machine: a grid of all registers, and a
bar for each of some memory words. How they are drawn is not told here.

## Main definitions

* `RegisterFigure.of`: the grid, with one register in bold.
* `MemoryFigure.of`: the bars in the order of their addresses, with one in another colour.
-/

namespace Monocycle

/-! ### The registers -/

/-- A text in a cell of the register grid. -/
structure GridText where
  column : Nat
  row : Nat
  text : Text
  bold : Bool
  deriving DecidableEq, Repr

/-- **Register figure**: four rows of eight values, each with a text. -/
structure RegisterFigure where
  title : String
  rows : List (List Int)
  texts : List GridText
  deriving DecidableEq, Repr

/-- The register in a row and a column of the grid. -/
def registerInGrid (row : Fin 4) (column : Fin 8) : Register :=
  ⟨8 * row + column, by omega⟩

/-- The text of a register in the grid: its number and name, and its value on a line below. -/
def registerLabel (r : Register) (v : Int) : Text :=
  'x' :: Text.ofNat r ++ " (".toList ++ r.abiName.toList ++ ")\n".toList ++ Text.ofInt v

/-- The grid of some registers. -/
def RegisterFigure.of (f : RegisterFile) (highlight? : Option Int) : RegisterFigure where
  title := "Register File"
  rows := (List.finRange 4).map fun row =>
    (List.finRange 8).map fun column => f.read (registerInGrid row column)
  texts := (List.finRange 4).flatMap fun row => (List.finRange 8).map fun column =>
    let r := registerInGrid row column
    ⟨column, row, registerLabel r (f.read r), highlight? == some ((r.val : Nat) : Int)⟩

/-! ### The memory -/

/-- A bar of the memory figure. -/
structure Bar where
  height : Int
  highlighted : Bool
  deriving DecidableEq, Repr

/-- The colour of a bar. -/
def Bar.color (b : Bar) : String :=
  if b.highlighted then "tab:orange" else "tab:blue"

/-- **Memory figure**: a bar and a tick label for each word. -/
structure MemoryFigure where
  title : String
  ylabel : String
  bars : List Bar
  ticks : List Text
  deriving DecidableEq, Repr

/-- The bars of some words, which need not be in order. -/
def MemoryFigure.of (words : List (Int × Int)) (highlight? : Option Int) : MemoryFigure :=
  let sorted := words.mergeSort fun a b => a.1 ≤ b.1
  { title := "Data Memory"
    ylabel := "value"
    bars := sorted.map fun word => ⟨word.2, highlight? == some word.1⟩
    ticks := sorted.map fun word => '[' :: Text.ofInt word.1 ++ [']'] }

/-- The two figures of a simulator: its registers and its memory window. -/
def Simulator.figures (s : Simulator) : Except SettingError (RegisterFigure × MemoryFigure) := do
  let words ← s.memoryWindow
  return (.of s.machine.registers none, .of words none)

end Monocycle
