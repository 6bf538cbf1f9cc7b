import PocketShell.Machine.Basic
import PocketShell.Program

/-!
# The command line

Runs the program on the standard streams, one turn of the loop at a time. Programs are those
of a machine in memory, which starts out with the files that every machine has.
-/

namespace PocketShell

open Machine (FileSystem)

/-- Shows an event on the standard streams. -/
def showEvent (level : LogLevel) (event : Event) : IO Unit := do
  match event with
  | .wrote text => (← IO.getStdout).putStr text
  | .flushed => (← IO.getStdout).flush
  | .child .output bytes => (← IO.getStdout).write ⟨bytes.toArray⟩
  | _ =>
    match event.diagnostic? level with
    | some (.record r) => (← IO.getStderr).putStr r.line
    | some (.child bytes) => (← IO.getStderr).write ⟨bytes.toArray⟩
    | none => pure ()

/-- The reads that the next line of the standard input comes to. -/
def nextReads : IO (List Read) := do
  try
    let line ← (← IO.getStdin).getLine
    if line.isEmpty then return [.line ""]
    return (Console.lines line.toList).map Console.readOf
  catch _ => return [.fails Console.undecodable]

/-- Takes turns until the loop is over. -/
partial def takeTurns (host : Host FileSystem) (level : LogLevel) (shell : Shell FileSystem)
    (waiting : List Read) : IO UInt32 := do
  (Loop.ask shell).forM (showEvent level)
  let (read, waiting) ← match waiting with
    | read :: waiting => pure (read, waiting)
    | [] =>
      match ← nextReads with
      | read :: waiting => pure (read, waiting)
      | [] => pure (.line "", [])
  let turn := Loop.turn host .standard shell read
  turn.events.forM (showEvent level)
  match turn.next with
  | .again => takeTurns host level turn.shell waiting
  | .over =>
    Loop.closing.forM (showEvent level)
    return 0
  | .escaped fault =>
    (← IO.getStderr).putStrLn fault.message
    return 1

/-- The variable that the level of the log is taken from. -/
def levelVariable : String := "MINISH_LOG_LEVEL"

/-- The variables that programs are given. -/
def knownVariables : List String := ["COLUMNS", "PATH", levelVariable]

/-- Runs the program with its arguments. -/
def runProgram (arguments : List String) : IO UInt32 := do
  let environment ← knownVariables.filterMapM fun name => do
    return (← IO.getEnv name).map (name, ·)
  let givenLevel := environment.lookup levelVariable
  match Options.parse givenLevel arguments with
  | .error e =>
    (← IO.getStderr).putStr (Options.complaint e)
    return 2
  | .ok .help =>
    (← IO.getStdout).putStr (Options.helpText givenLevel)
    return 0
  | .ok .runWithoutLevel =>
    (← IO.getStderr).putStrLn Program.noLevelReason
    return 1
  | .ok (.run showsBanner level) =>
    let start := Shell.startEvents defaultHome defaultIdentity ++ Loop.opening showsBanner
    start.forM (showEvent level)
    takeTurns (Machine.host environment) level
      (Shell.start defaultHome defaultIdentity Machine.initial) []

end PocketShell

/-- Starts the shell. -/
def main (arguments : List String) : IO UInt32 := PocketShell.runProgram arguments
