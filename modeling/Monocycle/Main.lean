import Monocycle.CommandLine.Session

/-!
# The program

Reads the files its arguments name, has the session of those arguments, and prints what comes of
it. Everything that is decided is decided by `Monocycle.session`. No figure is drawn and no server
is started here: where the web interface is asked for, the address it belongs to is printed.
-/

namespace Monocycle.Main

/-- The text of a file, if it can be read. -/
def readText? (path : String) : IO (Option Text) := do
  try
    let content ← IO.FS.readFile path
    return some content.toList
  catch _ => return none

/-- The texts of some files by their paths. -/
def readTexts (paths : List String) : IO (String → Option Text) := do
  let texts ← paths.mapM fun path => do return (path, ← readText? path)
  return fun path => (texts.lookup path).join

/-- The files that some arguments name. -/
def readFiles (argv : List String) : IO Files := do
  match Arguments.read argv with
  | .error _ => return .ofTexts (fun _ => none) fun _ => none
  | .ok a =>
    let programs ← readTexts a.program?.toList
    let settings ← readTexts a.config?.toList
    return .ofTexts programs settings

/-- A host or a port as it is printed. -/
def addressPart : Value → String
  | .text s => s
  | .int i => toString i
  | _ => "?"

/-- What is printed of the end of a session. -/
def endLines : SessionEnd → List String
  | .refused _ => "options:" :: OptionName.all.map OptionName.spelling
  | .exit _ => []
  | .serving host port _ =>
    let host := addressPart host
    let port := addressPart port
    [s!"web interface at {host}, port {port}"]
  | .broken e => [e.message]

end Monocycle.Main

open Monocycle Monocycle.Main in
/-- Runs the program. -/
def main (argv : List String) : IO UInt32 := do
  let s := session (← readFiles argv) argv
  for line in s.out do
    IO.println (String.ofList line)
  for line in s.err do
    IO.eprintln (String.ofList line)
  for line in endLines s.ending do
    IO.eprintln line
  return s.ending.exitCode.toUInt32
