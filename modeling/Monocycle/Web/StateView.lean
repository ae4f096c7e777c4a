import Monocycle.Simulator

/-!
# The simulator as a value

How the state of a simulator, and the outcome of a step, are told to those who ask over the web.
-/

namespace Monocycle

/-- An outcome as a value; the outcome of no step is null. -/
def StepOutcome.toValue (o : StepOutcome) : Value :=
  let kind := match o with
    | .executed _ => "executed"
    | .halted => "halted"
    | .failed _ => "error"
  .map [("kind", .text kind), ("index", .ofOption .int o.index?),
    ("message", .ofOption .text o.message?)]

/-- Memory words as a map from their addresses. -/
def wordsValue (words : List (Int × Int)) : Value :=
  .map (words.map fun word => (String.ofList (Text.ofInt word.1), .int word.2))

/-- A label table as a map. -/
def labelsValue (labels : LabelTable) : Value :=
  .map (labels.map fun entry => (String.ofList entry.1, .int entry.2))

namespace Simulator

/-- **State view**: the entries that tell the state of a simulator. -/
def stateEntries (s : Simulator) : Except SettingError Entries := do
  let words ← s.memoryWindow
  return [("pc", .int s.machine.pc),
    ("state", .text s.machine.phase.name),
    ("halted", .bool s.machine.isHalted),
    ("registers", .list (s.registers.map .int)),
    ("memory", wordsValue words),
    ("instructions", .list (s.machine.program.toList.map fun i =>
      .map [("address", .int i.address), ("text", .ofText i.text)])),
    ("labels", labelsValue s.labels)]

end Simulator

end Monocycle
