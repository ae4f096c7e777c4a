import Monocycle.Simulator

/-!
# The printed report

What the command line prints about a run: a line for every step if it is traced, and the state of
the machine when it is over. Numbers and names stand in columns of fixed width.

## Main definitions

* `registerTable`: the registers in eight rows of four cells.
* `traceLine`: the line of a step event.
* `reportHead`, `memoryLines`: the report up to the memory, and the memory words.
-/

namespace Monocycle

/-! ### The register table -/

/-- The cell of a register: its number, its name, and its value in the last eleven columns. -/
def registerCell (r : Register) (v : Int) : Text :=
  'x' :: Text.padEnd 2 (Text.ofNat r) ++ " (".toList ++ Text.padStart 4 r.abiName.toList ++
    ") = ".toList ++ Text.padStart 11 (Text.ofInt v)

/-- The register in a row and a column of the table. -/
def registerInCell (row : Fin 8) (column : Fin 4) : Register :=
  ⟨4 * row + column, by omega⟩

/-- A row of the register table: four cells with two blanks between them. -/
def registerRow (f : RegisterFile) (row : Fin 8) : Text :=
  List.intercalate "  ".toList <| (List.finRange 4).map fun column =>
    let r := registerInCell row column
    registerCell r (f.read r)

/-- **Register table**: all registers in rows of four. -/
def registerTable (f : RegisterFile) : List Text :=
  (List.finRange 8).map (registerRow f)

/-! ### The trace -/

/-- **Trace line** of a step event. -/
def traceLine (event : StepEvent) : Text :=
  match event.outcome with
  | .executed _ =>
    let text := (event.instruction?.map (·.text)).getD []
    "PC=".toList ++ Text.padEnd 4 (Text.ofInt event.pcBefore) ++ ' ' :: Text.padEnd 32 text ++
      " -> PC=".toList ++ Text.ofInt event.pcAfter
  | .halted => "halted at PC=".toList ++ Text.ofInt event.pcAfter
  | .failed e =>
    "error at PC=".toList ++ Text.ofInt event.pcBefore ++ ": ".toList ++ e.message.toList

/-! ### The report -/

/-- How a run ended, if it did not end by halting. -/
def endingLines (result : Simulator.RunResult) : List Text :=
  match result.last? with
  | some (.failed e) => ["Stopped by error: ".toList ++ e.message.toList]
  | _ =>
    if result.halted then []
    else ["Stopped after ".toList ++ Text.ofNat result.steps ++ " steps without halting".toList]

/-- The report on a run up to the heading of the memory words. -/
def reportHead (m : Machine) (result : Simulator.RunResult) : List Text :=
  ["".toList, "=== Simulation Results ===".toList] ++ endingLines result ++
    ["Instructions executed: ".toList ++ Text.ofNat result.steps,
      "PC: ".toList ++ Text.ofInt m.pc, "".toList, "Registers:".toList] ++
    registerTable m.registers ++ ["".toList, "Memory:".toList]

/-- The line of a memory word. -/
def memoryLine (address v : Int) : Text :=
  "  [".toList ++ Text.padStart 3 (Text.ofInt address) ++ "] ".toList ++ Text.ofInt v

/-- The lines of some memory words. -/
def memoryLines (words : List (Int × Int)) : List Text :=
  words.map fun word => memoryLine word.1 word.2

end Monocycle
