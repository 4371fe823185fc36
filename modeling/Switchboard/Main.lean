import Switchboard.Json.Writer
import Switchboard.Program

/-!
# The program on a terminal

Reads the environment and the settings file, runs the program and writes its lines. The broker
serves until the standard input ends.
-/

namespace Switchboard.Terminal

/-- The variables of this process. -/
def environment : IO Environment := do
  let table ← IO.FS.readFile "/proc/self/environ"
  return (table.toList.splitOn (Char.ofNat 0)).filterMap fun cs =>
    if cs.contains '=' then
      some (String.ofList (cs.takeWhile (· ≠ '=')),
        String.ofList ((cs.dropWhile (· ≠ '=')).drop 1))
    else none

/-- The text of a file, if it can be read. -/
def readFile? (name : String) : IO (Option String) :=
  try
    return some (← IO.FS.readFile name)
  catch _ => return none

/-- The files that a settings file may be found in. -/
def filesFor (name : Option String) : IO Files := do
  match name with
  | none => return fun _ => none
  | some name =>
    let names := name :: FileFormat.endings.map fun e => name ++ "." ++ e.1
    let found ← names.mapM fun n => return (n, ← readFile? n)
    return fun n => (found.lookup n).join

def lineText : LogLine → String
  | .text s => s
  | .record v => v.render

/-- Writes the lines of a session from the `n`th one on. -/
def writeConsole (n : Nat) (s : Session) : IO Unit := do
  for line in s.console.drop n do
    IO.println (lineText line)
  (← IO.getStdout).flush

/-- Writes the files of a session. -/
def writeFiles (s : Session) : IO Unit := do
  for (place, lines) in s.disk.files do
    unless lines.isEmpty do
      IO.FS.createDirAll ("/".intercalate place.dropLast)
      let file ← IO.FS.Handle.mk ("/".intercalate place) .append
      for line in lines do
        file.putStrLn (lineText line)

/-- Waits for the end of the standard input. -/
partial def waitForEnd (input : IO.FS.Stream) : IO Unit := do
  unless (← input.getLine).isEmpty do waitForEnd input

/-- Reports an error and gives the exit code. -/
def failed (e : ProgramError) : IO UInt32 := do
  IO.eprint e.report
  return 1

def run (options : RunOptions) (env : Environment) : IO UInt32 := do
  let files ← filesFor options.config
  let session : Session := { now := ⟨"today", "now"⟩ }
  match Program.launch ⟨"unknown", "unknown"⟩ options files env session with
  | (.error e, s) =>
    writeConsole 0 s
    failed e
  | (.ok service, s) =>
    writeConsole 0 s
    waitForEnd (← IO.getStdin)
    let (outcome, t) := Program.finish service s
    writeConsole s.console.length t
    writeFiles t
    match outcome with
    | .ok () => return 0
    | .error f => failed (.failure f)

end Switchboard.Terminal

open Switchboard in
def main (args : List String) : IO UInt32 := do
  let env ← Terminal.environment
  match CommandLine.read args env with
  | .version =>
    IO.print Program.versionText
    return 0
  | .help =>
    IO.print Program.helpText
    return 0
  | .misuse =>
    IO.eprint Program.helpText
    return 2
  | .run options => Terminal.run options env
