import Monocycle.SamplePrograms
import Monocycle.Text.Numeral

/-!
# Command-line arguments

The options of the command line and how they are read. An option is written with two dashes and
its name, or a part of its name that fits no other option; its value follows as the next argument
or behind an equals sign. Of an option given twice the last value counts. One further argument
may name a program file, and behind a lone `--` every argument is taken as such a name, whatever
it looks like. An argument that looks like a negative number is no option.

## Main definitions

* `Arguments`: what the command line asks for.
* `Argument`, `Argument.classify?`: an argument by its role.
* `Arguments.read`: the arguments of a command line, or `ArgumentsEnd` if there is nothing to run.
-/

namespace Monocycle

/-! ### Options -/

/-- The options of the command line. -/
inductive OptionName where
  | help | sample | config | delay | maxSteps | trace | plot | serve
  deriving DecidableEq, Repr

namespace OptionName

/-- Every option. -/
def all : List OptionName :=
  [help, sample, config, delay, maxSteps, trace, plot, serve]

/-- How an option is written. -/
def spelling : OptionName → String
  | help => "--help"
  | sample => "--example"
  | config => "--config"
  | delay => "--delay"
  | maxSteps => "--max-steps"
  | trace => "--trace"
  | plot => "--plot"
  | serve => "--serve"

/-- Whether an option takes a value. -/
def takesValue : OptionName → Bool
  | sample | config | delay | maxSteps => true
  | help | trace | plot | serve => false

/-- The option with a spelling. -/
def ofSpelling? (t : Text) : Option OptionName :=
  all.find? fun o => o.spelling.toList == t

/-- The options whose spelling starts with a text. -/
def startingWith (t : Text) : List OptionName :=
  all.filter fun o => t.isPrefixOf o.spelling.toList

end OptionName

/-- **Argument** by its role. -/
inductive Argument where
  /-- A word that is no option. -/
  | word (s : String)
  /-- The mark behind which there are no options. -/
  | separator
  /-- An option, with the value given behind an equals sign. -/
  | option (name : OptionName) (value? : Option String)
  /-- The short form of the help option, with what is written behind it. -/
  | shortHelp (behind : String)
  /-- What looks like an option but is none. -/
  | unknown
  deriving DecidableEq, Repr

/-- Whether a text looks like a negative number: a minus, and digits with perhaps a point before
the last of them. A line feed at the end does not matter. -/
def looksNegative (t : Text) : Bool :=
  match t with
  | '-' :: rest =>
    let rest := if rest.getLast? = some '\n' then rest.dropLast else rest
    let isDigit (c : Char) := (Text.decimalDigit? c).isSome
    match rest.dropWhile isDigit with
    | [] => !rest.isEmpty
    | '.' :: digits => !digits.isEmpty && digits.all isDigit
    | _ => false
  | _ => false

namespace Argument

/-- The role of an argument that starts with two dashes, by the options that fit it. A part of a
name that fits several options is an error. -/
def classifyLong? (t : Text) : Option (Option Argument) :=
  let name := t.takeWhile (· != '=')
  let value? := match t.dropWhile (· != '=') with
    | [] => none
    | _ :: value => some (String.ofList value)
  match OptionName.ofSpelling? name with
  | some o => some (some (.option o value?))
  | none =>
    match OptionName.startingWith name with
    | [] => some none
    | [o] => some (some (.option o value?))
    | _ => none

/-- The role of an argument that starts with one dash and is not a lone dash, if it fits the
short form of the help option. -/
def classifyShort? (t : Text) : Option Argument :=
  match t with
  | '-' :: 'h' :: behind => some (.shortHelp (String.ofList behind))
  | _ => none

/-- **Role of an argument** before any lone `--`; `none` is an error. An argument that fits no
option is a word if it looks like a negative number or has a space in it. -/
def classify? (s : String) : Option Argument :=
  let t := s.toList
  let other : Argument := if looksNegative t || t.contains ' ' then .word s else .unknown
  match t with
  | ['-', '-'] => some .separator
  | '-' :: '-' :: _ => (classifyLong? t).map fun found? => found?.getD other
  | '-' :: _ :: _ => some ((classifyShort? t).getD other)
  | _ => some (.word s)

/-- The roles of the arguments of a command line; `none` is an error. Behind a lone `--` all are
words. -/
def classifyAll? : List String → Option (List Argument)
  | [] => some []
  | s :: rest =>
    match classify? s with
    | none => none
    | some .separator => some (.separator :: rest.map .word)
    | some a => (classifyAll? rest).map (a :: ·)

end Argument

/-! ### Reading -/

/-- **Arguments**: what the command line asks for. -/
structure Arguments where
  /-- The program file. -/
  program? : Option String
  /-- The name of a sample program. -/
  sample? : Option String
  /-- The settings file. -/
  config? : Option String
  /-- The pause between steps in milliseconds. -/
  delay? : Option Int
  /-- The step limit. -/
  maxSteps? : Option Int
  /-- Whether to print every step. -/
  trace : Bool
  /-- Whether to draw the figures. -/
  plot : Bool
  /-- Whether to start the web interface instead of running. -/
  serve : Bool
  deriving DecidableEq, Repr

/-- Why the arguments of a command line are not acted upon. -/
inductive ArgumentsEnd where
  /-- They ask for help. -/
  | help
  /-- They are in error. -/
  | misused
  deriving DecidableEq, Repr

/-- The code the program exits with in that case. -/
def ArgumentsEnd.exitCode : ArgumentsEnd → Nat
  | help => 0
  | misused => 2

namespace Arguments

/-- No arguments. -/
def empty : Arguments :=
  ⟨none, none, none, none, none, false, false, false⟩

/-- The arguments with an option that takes no value. -/
def setFlag (a : Arguments) : OptionName → Except ArgumentsEnd Arguments
  | .help => .error .help
  | .trace => .ok { a with trace := true }
  | .plot => .ok { a with plot := true }
  | .serve => .ok { a with serve := true }
  | .sample | .config | .delay | .maxSteps => .error .misused

/-- The arguments with an option and its value. -/
def setValue (a : Arguments) (o : OptionName) (value : String) : Except ArgumentsEnd Arguments :=
  match o with
  | .sample =>
    if samplePrograms.any fun sample => sample.1 == value
    then .ok { a with sample? := some value } else .error .misused
  | .config => .ok { a with config? := some value }
  | .delay =>
    match Text.integer? value.toList with
    | some n => .ok { a with delay? := some n }
    | none => .error .misused
  | .maxSteps =>
    match Text.integer? value.toList with
    | some n => .ok { a with maxSteps? := some n }
    | none => .error .misused
  | .help | .trace | .plot | .serve => .error .misused

/-- What the short form of the help option comes to by what is written behind it. It may be
repeated there; a value behind it, or another dash, is an error, and the rest does not matter. -/
def shortHelpEnd (behind : Text) : ArgumentsEnd :=
  match behind.dropWhile (· == 'h') with
  | '=' :: _ | '-' :: _ => .misused
  | _ => .help

/-- Reads arguments from left to right. `isOpen` tells whether the program file can still be
named, and `surplus` whether something was found that has no meaning. -/
def readFrom (a : Arguments) (isOpen surplus : Bool) : List Argument → Except ArgumentsEnd Arguments
  | [] => if surplus then .error .misused else .ok a
  | .option o (some value) :: rest => do readFrom (← a.setValue o value) isOpen surplus rest
  | .option o none :: rest =>
    if o.takesValue then
      match rest with
      | .word value :: rest => do readFrom (← a.setValue o value) isOpen surplus rest
      | _ => .error .misused
    else do readFrom (← a.setFlag o) isOpen surplus rest
  | .shortHelp behind :: _ => .error (shortHelpEnd behind.toList)
  | .unknown :: rest => readFrom a isOpen true rest
  | .separator :: .word value :: rest =>
    if isOpen then readFrom { a with program? := some value } false surplus rest
    else readFrom a isOpen true rest
  | .separator :: rest => readFrom a false (surplus || !isOpen) rest
  | .word value :: .separator :: rest =>
    if isOpen then readFrom { a with program? := some value } false surplus rest
    else readFrom a isOpen true rest
  | .word value :: rest =>
    if isOpen then readFrom { a with program? := some value } false surplus rest
    else readFrom a isOpen true rest

/-- Whether the arguments name a program to run; empty names do not count. -/
def namesProgram (a : Arguments) : Bool :=
  (match a.program? with
    | some path => !path.isEmpty
    | none => false) || a.sample?.isSome

/-- **Reading** the arguments of a command line. Without a program there is nothing to do unless
the web interface is asked for. -/
def read (argv : List String) : Except ArgumentsEnd Arguments := do
  match Argument.classifyAll? argv with
  | none => .error .misused
  | some roles =>
    let a ← readFrom empty true false roles
    if a.namesProgram || a.serve then .ok a else .error .misused

end Arguments

end Monocycle
