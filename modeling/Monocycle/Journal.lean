import Monocycle.Assembly.Program
import Monocycle.Machine

/-!
# The journal

What the simulator notes down while it works: remarks of the assembler, the machine and the
simulator itself, each with a severity. The remarks on a source and on a step are functions of
the source and of the machine, so that assembling and stepping need not carry them.

## Main definitions

* `Severity`: how much a remark matters, as a number and a name.
* `Remark`: everything that can be noted, with its severity, its author and its wording.
* `assemblyRemarks`, `Machine.stepRemarks`: the remarks on assembling a source and on a step.
-/

namespace Monocycle

/-- The **severity** of a remark. -/
inductive Severity where
  | debug | info | warning
  deriving DecidableEq, Repr

namespace Severity

/-- The number a threshold is compared with. -/
def rank : Severity → Int
  | debug => 10
  | info => 20
  | warning => 30

/-- The name a remark is labelled with. -/
def name : Severity → String
  | debug => "DEBUG"
  | info => "INFO"
  | warning => "WARNING"

end Severity

/-- **Remark** for the journal. -/
inductive Remark where
  /-- The first pass of the assembler begins. -/
  | collectingLabels
  /-- A label is entered at an address. -/
  | labelAt (name : Text) (address : Int)
  /-- The second pass begins, over a number of instruction lines. -/
  | decoding (count : Nat)
  /-- An instruction is about to be carried out. -/
  | executing (pc : Int) (text : Text)
  /-- A branch to itself was taken. -/
  | selfLoop (pc : Int)
  /-- The program counter has left the program. -/
  | finished (pc : Int)
  /-- A source was rejected. -/
  | rejected (e : ParseError)
  /-- A program was put into the machine. -/
  | loaded (count : Nat)
  /-- A step attempt failed. -/
  | stepFailed (pc : Int) (e : ExecutionError)
  /-- A run came to its step limit. -/
  | limitReached (steps : Nat)
  /-- The program was started over. -/
  | restarted
  deriving DecidableEq

namespace Remark

/-- The severity of a remark. -/
def severity : Remark → Severity
  | collectingLabels | labelAt .. | decoding _ | executing .. => .debug
  | selfLoop _ | finished _ | loaded _ | limitReached _ | restarted => .info
  | rejected _ | stepFailed .. => .warning

/-- The part of the program that makes a remark. -/
def author : Remark → String
  | collectingLabels | labelAt .. | decoding _ => "Assembler"
  | executing .. | selfLoop _ | finished _ => "Core"
  | rejected _ | loaded _ | stepFailed .. | limitReached _ | restarted => "Simulator"

/-- The wording of a remark. -/
def message : Remark → String
  | collectingLabels => "pass 1: collecting labels"
  | labelAt name address =>
    let name := String.ofList name
    s!"label {name} -> {address}"
  | decoding count => s!"pass 2: decoding {count} instruction(s)"
  | executing pc text =>
    let text := String.ofList text
    s!"PC={pc} executing {text}"
  | selfLoop pc => s!"self-loop at PC={pc}, halting"
  | finished pc => s!"program finished at PC={pc}"
  | rejected e =>
    let message := e.message
    s!"assembly failed: {message}"
  | loaded count => s!"{count} instruction(s) loaded"
  | stepFailed pc e =>
    let message := e.message
    s!"execution error at PC={pc}: {message}"
  | limitReached steps => s!"stopped after {steps} steps"
  | restarted => "simulator reset"

/-- A remark as a line of the log: severity, author and wording. -/
def logLine (r : Remark) : String :=
  let severity := r.severity.name
  let author := r.author
  let message := r.message
  s!"{severity} singlecycle.{author}: {message}"

end Remark

/-- The remarks made while a source is assembled, whether or not that succeeds. -/
def assemblyRemarks (source : Text) : List Remark :=
  let ls := sourceLines source
  .collectingLabels :: (labelDefinitions 0 ls).map (fun entry => .labelAt entry.1 entry.2) ++
    [.decoding (instructionCount source)]

/-- The remarks made by a step of a machine. -/
def Machine.stepRemarks (m : Machine) : List Remark :=
  if m.pcInRange then
    match m.fetch? with
    | none => []
    | some i =>
      let loops := i.format = .branch && m.branchTaken i && i.imm = 0
      let after := m.step.1
      .executing m.pc i.text ::
        ((if loops then [.selfLoop m.pc] else []) ++
          (if after.pcInRange then [] else [.finished after.pc]))
  else if m.isHalted then [] else [.finished m.pc]

end Monocycle
