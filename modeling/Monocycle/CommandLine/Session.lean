import Monocycle.CommandLine.Arguments
import Monocycle.Figure
import Monocycle.Report
import Monocycle.Settings.Block
import Monocycle.Web.StateView

/-!
# A session at the command line

What the program does when it is started with some arguments: it loads a program, runs it and
prints a report, or starts the web interface. The files it may read are given as a function, so
that a session is a function too; its result holds all that is printed and how it ends.

## Main definitions

* `Files`: the files a session can read.
* `Session`, `SessionEnd`, `SessionError`: what is printed, and how a session ends.
* `session`: the session of some arguments.
-/

namespace Monocycle

/-! ### Files -/

/-- Why a file is of no use. -/
inductive FileError where
  | missing
  | unreadable
  deriving DecidableEq, Repr

/-- The wording of a file error. -/
def FileError.message : FileError → String
  | missing => "there is no such file"
  | unreadable => "the file is no settings file"

/-- **Files** a session can read, by their paths. -/
structure Files where
  /-- The text of a program file. -/
  program? : String → Option Text
  /-- The value of a settings file. -/
  settings : String → Except FileError Value

namespace Files

/-- The value of a settings file with a text, if there is such a file. -/
def settingsOf (text? : Option Text) : Except FileError Value :=
  match text? with
  | none => .error .missing
  | some t =>
    match Block.read? t with
    | some v => .ok v
    | none => .error .unreadable

/-- Files by their texts, for programs and for settings. -/
def ofTexts (program? settings? : String → Option Text) : Files :=
  ⟨program?, fun path => settingsOf (settings? path)⟩

end Files

/-! ### How a session ends -/

/-- Why a session breaks off. -/
inductive SessionError where
  | file (e : FileError)
  | merge (e : MergeError)
  /-- The delay the arguments ask for has too many milliseconds to be told in seconds. -/
  | longDelay
  | simulator (e : SimulatorError)
  deriving DecidableEq, Repr

/-- The wording of a session error. -/
def SessionError.message : SessionError → String
  | file e => e.message
  | merge e => e.message
  | longDelay => Delay.tooLongMessage
  | simulator e => e.message

/-- How a session ends. -/
inductive SessionEnd where
  /-- The arguments are not acted upon. -/
  | refused (e : ArgumentsEnd)
  /-- The session ends with an exit code. -/
  | exit (code : Nat)
  /-- The web interface takes over at a host and a port; the state it begins with, if it can be
  told. -/
  | serving (host port : Value) (state? : Option Value)
  /-- The session breaks off. -/
  | broken (e : SessionError)

/-- The code the program exits with. -/
def SessionEnd.exitCode : SessionEnd → Nat
  | refused e => e.exitCode
  | exit code => code
  | serving .. => 0
  | broken _ => 1

/-- **Session**: all that is printed, the end, and what is drawn. -/
structure Session where
  /-- The lines of the report and of the trace. -/
  out : List Text
  /-- The lines of the log and of errors. -/
  err : List Text
  ending : SessionEnd
  /-- The figures to draw, if they are asked for and there is something to show. -/
  figures? : Option (RegisterFigure × MemoryFigure) := none

/-- A session that draws nothing. -/
def Session.ofLines (out err : List Text) (ending : SessionEnd) : Session :=
  { out := out, err := err, ending := ending }

/-! ### Settings and log -/

/-- The settings of a session: those of a file put over the built-in ones, or just these. -/
def loadSettings (files : Files) (path? : Option String) : Except SessionError Settings :=
  match path? with
  | none => .ok .builtIn
  | some path =>
    match files.settings path with
    | .error e => .error (.file e)
    | .ok v =>
      match Settings.merge v with
      | .error e => .error (.merge e)
      | .ok settings => .ok settings

/-- The log lines of some remarks: those that reach the threshold. -/
def logLines (threshold : Int) (remarks : List Remark) : List Text :=
  (remarks.filter fun r => threshold ≤ r.severity.rank).map fun r => r.logLine.toList

/-- The listener that stands for the printed trace. -/
def traceListener : Listener :=
  ⟨"trace", .none, none⟩

/-- The lines the trace prints for a turn. -/
def traceLines {α : Type} (t : Turn α) : List Text :=
  (t.deliveries.filter fun d => d.1 == traceListener).map fun d => traceLine d.2

/-! ### Running a program -/

/-- The line that tells that a program was loaded. -/
def loadedLine (count : Nat) : Text :=
  Text.ofNat count ++ " instructions loaded".toList

/-- The line that tells why a source was rejected. -/
def rejectedLine (e : ParseError) : Text :=
  "Error: ".toList ++ e.message.toList

/-- The report of a finished run; `out` and `err` were printed before. -/
def reportSession (s : Simulator) (a : Arguments) (result : Simulator.RunResult)
    (out err : List Text) : Session :=
  let out := out ++ reportHead s.machine result
  match s.memoryWindow with
  | .error e => .ofLines out err (.broken (.simulator (.setting e)))
  | .ok words =>
    { out := out ++ memoryLines words
      err := err
      ending := .exit 0
      figures? := if a.plot then s.figures.toOption else none }

/-- Runs a loaded program, with a pause of its own or that of the settings, and reports on it; `out`
and `err` were printed before. -/
def runSession (s : Simulator) (a : Arguments) (pause? : Option Delay) (threshold : Int)
    (out err : List Text) : Session :=
  let s := if a.trace then s.subscribe traceListener else s
  let limit := match a.maxSteps? with
    | some n => .ok (some n)
    | none => s.settings.stepLimit?
  let settled := do
    let pause ← s.runPause ⟨none, none, pause?⟩
    return (pause, ← limit)
  match settled with
  | .error e => .ofLines out err (.broken (.simulator (.setting e)))
  | .ok (pause, maxSteps?) =>
    let turn := s.run ⟨maxSteps?, none, some pause⟩
    let out := out ++ traceLines turn
    let err := err ++ logLines threshold turn.remarks
    match turn.answer with
    | .error e => .ofLines out err (.broken (.simulator e))
    | .ok result => reportSession turn.simulator a result out err

/-- Loads a source into a simulator and runs it. -/
def programSession (s : Simulator) (a : Arguments) (pause? : Option Delay) (threshold : Int)
    (source : Text) : Session :=
  let turn := s.load source
  let err := logLines threshold turn.remarks
  match turn.answer with
  | .error e => .ofLines [] err (.broken (.simulator e))
  | .ok (.rejected e) => .ofLines [] (err ++ [rejectedLine e]) (.exit 1)
  | .ok (.loaded count) => runSession turn.simulator a pause? threshold [loadedLine count] err

/-! ### Serving -/

/-- Starts the web interface with a simulator. -/
def serveSession (s : Simulator) (err : List Text) : Session :=
  let state? := match s.stateEntries with
    | .ok entries => some (.map entries)
    | .error _ => none
  .ofLines [] err (.serving (Settings.valueOf s.settings.server "host")
    (Settings.valueOf s.settings.server "port") state?)

/-- Loads a source, if there is one, and starts the web interface, whether or not the source has
a program. -/
def loadAndServe (s : Simulator) (threshold : Int) (source? : Option Text) : Session :=
  match source? with
  | none => serveSession s []
  | some source =>
    let turn := s.load source
    let err := logLines threshold turn.remarks
    match turn.answer with
    | .error e => .ofLines [] err (.broken (.simulator e))
    | .ok _ => serveSession turn.simulator err

/-! ### The session -/

/-- The source the arguments name: a program file, or else a sample program. -/
def sourceOf (files : Files) (a : Arguments) : Except SessionError (Option Text) :=
  match a.program?.filter (!·.isEmpty) with
  | some path =>
    match files.program? path with
    | some source => .ok (some source)
    | none => .error (.file .missing)
  | none =>
    .ok ((a.sample?.bind fun name => samplePrograms.lookup name).map String.toList)

/-- The pause the arguments ask for, if they do. -/
def Arguments.pause? (a : Arguments) : Except SessionError (Option Delay) :=
  match a.delay? with
  | none => .ok none
  | some ms => (Delay.ofMilliseconds? ms).elim (.error .longDelay) fun pause => .ok (some pause)

/-- What a session needs before it can begin: the source, the threshold of the log, the pause of the
run, if there is to be one, and a simulator. The trace lets every remark through. -/
def prepare (files : Files) (a : Arguments) :
    Except SessionError (Option Text × Int × Option Delay × Simulator) := do
  let source? ← sourceOf files a
  let settings ← loadSettings files a.config?
  let setting {α : Type} (e : Except SettingError α) : Except SessionError α :=
    e.mapError fun e => .simulator (.setting e)
  let threshold ← if a.trace then pure Severity.debug.rank else setting settings.threshold
  let pause? ← if a.serve then pure none else a.pause?
  let s ← setting (Simulator.create settings none)
  return (source?, threshold, pause?, s)

/-- The session of arguments that were read. -/
def sessionOf (files : Files) (a : Arguments) : Session :=
  match prepare files a with
  | .error e => .ofLines [] [] (.broken e)
  | .ok (source?, threshold, pause?, s) =>
    if a.serve then loadAndServe s threshold source?
    else programSession s a pause? threshold (source?.getD [])

/-- **Session** at the command line. -/
def session (files : Files) (argv : List String) : Session :=
  match Arguments.read argv with
  | .error e => .ofLines [] [] (.refused e)
  | .ok a => sessionOf files a

end Monocycle
