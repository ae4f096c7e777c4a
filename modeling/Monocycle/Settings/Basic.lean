import Monocycle.Delay
import Monocycle.Text.Quoted
import Monocycle.Value.Basic

/-!
# Settings

The settings of the simulator come in four sections. What a settings file gives is put over the
built-in values, section by section and name by name; names without a built-in value are kept,
and other sections are left out.

Values are not looked at until they are used. Each use has its own idea of what it can take, and
its own complaint about anything else.

## Main definitions

* `Settings`, `Settings.builtIn`: the four sections, and their built-in values.
* `Settings.merge`: a settings value put over the built-in ones, or the `MergeError`.
* `SettingError`: what a use can complain about.
* `Settings.memorySize`, `Settings.pause`, `Settings.stepLimit?`, `Settings.windowEnd`,
  `Settings.threshold`: the uses.
-/

namespace Monocycle

/-- **Settings**: four sections of names with values. -/
structure Settings where
  memory : Entries
  run : Entries
  server : Entries
  logging : Entries

/-- Why a settings value cannot be merged. -/
inductive MergeError where
  /-- The value as a whole is given but is no map; the name of its kind. -/
  | notSettings (kind : String)
  /-- A section is given but is no map; the name of its kind. -/
  | notSection (kind : String)
  deriving DecidableEq, Repr

/-- The wording of a merge error. -/
def MergeError.message : MergeError → String
  | notSettings kind => s!"'{kind}' object has no attribute 'get'"
  | notSection kind => s!"'{kind}' object is not a mapping"

namespace Settings

/-- The built-in values. -/
def builtIn : Settings where
  memory := [("size", .int 256), ("display_words", .int 16)]
  run := [("delay_ms", .int 0), ("max_steps", .int 10000)]
  server := [("host", .text "127.0.0.1"), ("port", .int 5000)]
  logging := [("level", .text "WARNING")]

/-- The settings as one value. -/
def toValue (s : Settings) : Value :=
  .map [("memory", .map s.memory), ("run", .map s.run), ("server", .map s.server),
    ("logging", .map s.logging)]

/-- One section of a given map put over its built-in values. A section that is missing or does
not count as given leaves the built-in values alone. -/
def mergeSection (given : Entries) (name : String) (base : Entries) :
    Except MergeError Entries :=
  match given.get? name with
  | none => .ok base
  | some (.map entries) => .ok (base.override entries)
  | some v => if v.isTruthy then .error (.notSection v.kindName) else .ok base

/-- **Merging**: a settings value put over the built-in values. A value that does not count as
given leaves them alone. The sections are looked at in order. -/
def merge (v : Value) : Except MergeError Settings :=
  match v with
  | .map given => do
    let memory ← mergeSection given "memory" builtIn.memory
    let run ← mergeSection given "run" builtIn.run
    let server ← mergeSection given "server" builtIn.server
    let logging ← mergeSection given "logging" builtIn.logging
    return ⟨memory, run, server, logging⟩
  | v => if v.isTruthy then .error (.notSettings v.kindName) else .ok builtIn

end Settings

/-! ### Using settings -/

/-- **Setting error**: a value that the place where it is used cannot take. Where its kind is the
reason, the constructor keeps the name of the kind. -/
inductive SettingError where
  /-- The size of the data memory is no integer. -/
  | memorySize (kind : String)
  /-- The pause between steps is no number. -/
  | pause (kind : String)
  /-- The pause between steps has too many milliseconds to be told in seconds. -/
  | longPause
  /-- The step limit cannot be compared with a number of steps. -/
  | stepLimit (kind : String)
  /-- The number of words shown cannot be multiplied. -/
  | windowFactor (kind : String)
  /-- The end of the words shown cannot be compared with an address. -/
  | windowEnd (kind : String)
  /-- The end of the words shown is a number but not an integer. -/
  | windowFraction
  /-- The name of a logging level that does not exist. -/
  | unknownLevel (name : String)
  /-- The logging level is neither an integer nor a name. -/
  | notALevel (kind : String)
  deriving DecidableEq, Repr

/-- The wording of a setting error. -/
def SettingError.message : SettingError → String
  | memorySize kind => s!"can't multiply sequence by non-int of type '{kind}'"
  | pause kind => s!"unsupported operand type(s) for /: '{kind}' and 'int'"
  | longPause => Delay.tooLongMessage
  | stepLimit kind => s!"'>=' not supported between instances of 'int' and '{kind}'"
  | windowFactor kind => s!"unsupported operand type(s) for *: '{kind}' and 'int'"
  | windowEnd kind => s!"'<' not supported between instances of 'int' and '{kind}'"
  | windowFraction => "'float' object cannot be interpreted as an integer"
  | unknownLevel name =>
    let shown := String.ofList (Text.quoted name.toList)
    s!"Unknown level: {shown}"
  | notALevel kind => s!"Level not an integer or a valid string: {kind}"

/-- The severities that log lines can be cut off at, by name. -/
def thresholdNames : List (String × Int) :=
  [("CRITICAL", 50), ("FATAL", 50), ("ERROR", 40), ("WARN", 30), ("WARNING", 30), ("INFO", 20),
   ("DEBUG", 10), ("NOTSET", 0)]

/-- The threshold that holds when none is set. -/
def defaultThreshold : Int := 30

namespace Settings

/-- The value of a name of a section, null if it has none. -/
def valueOf (entries : Entries) (name : String) : Value :=
  (entries.get? name).getD .null

/-- The size of the data memory. -/
def memorySize (s : Settings) : Except SettingError Int :=
  let v := valueOf s.memory "size"
  match v.int? with
  | some size => .ok size
  | none => .error (.memorySize v.kindName)

/-- The pause between two steps, which is set in milliseconds. -/
def pause (s : Settings) : Except SettingError Delay :=
  match valueOf s.run "delay_ms" with
  | .real ms => .ok (.ofRealMilliseconds ms)
  | v =>
    match v.int? with
    | some ms => (Delay.ofMilliseconds? ms).elim (.error .longPause) .ok
    | none => .error (.pause v.kindName)

/-- The step limit of a run as the command line uses it: null means that there is none, and so
do an endless number and what is not a number. -/
def stepLimit? (s : Settings) : Except SettingError (Option Int) :=
  match valueOf s.run "max_steps" with
  | .null => .ok none
  | .real (.infinite true) => .ok (some 0)
  | .real r => .ok r.ceiling?
  | v =>
    match v.int? with
    | some n => .ok (some n)
    | none => .error (.stepLimit v.kindName)

/-- The end of the window of memory words that is shown: four bytes for each word. A fractional
end will do only if it lies behind the memory of the given size. -/
def windowEnd (s : Settings) (size : Int) : Except SettingError Int :=
  let v := valueOf s.memory "display_words"
  match v with
  | .real (.finite significand exponent) =>
    match (Real64.finite (4 * significand) exponent).ceiling? with
    | some stop => if size < stop then .ok size else .error .windowFraction
    | none => .error .windowFraction
  | .real (.infinite false) => .ok size
  | .real _ => .error .windowFraction
  | .text _ | .list _ => .error (.windowEnd v.kindName)
  | v =>
    match v.int? with
    | some words => .ok (words * 4)
    | none => .error (.windowFactor v.kindName)

/-- The threshold of the log: an integer, or the name of one. Null leaves the default. -/
def threshold (s : Settings) : Except SettingError Int :=
  match valueOf s.logging "level" with
  | .null => .ok defaultThreshold
  | .text name =>
    match thresholdNames.lookup name with
    | some n => .ok n
    | none => .error (.unknownLevel name)
  | v =>
    match v.int? with
    | some n => .ok n
    | none => .error (.notALevel v.kindName)

end Settings

end Monocycle
