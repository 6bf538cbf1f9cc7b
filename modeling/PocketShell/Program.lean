import PocketShell.Console
import PocketShell.Options

/-!
# The program

The shell as it is started from a command line: the arguments decide whether it runs, and its
input is read from a console. What can be seen of a run is its exit code, its output and its
diagnostics.
-/

namespace PocketShell

open Text (Bytes encode)

/-- What became of a start of the program. -/
inductive Program (W : Type u) where
  /-- The arguments were wrong. -/
  | refused (e : UsageError)
  /-- Help was asked for. -/
  | helped (text : String)
  /-- The log could not be set up, and the program broke off. -/
  | unstarted (reason : String)
  /-- The loop ran, with records kept from a level on. -/
  | ran (level : LogLevel) (startUp : Trace) (talk : Conversation W)

namespace Program

variable {W : Type u}

/-- Why the log cannot be set up without a level. -/
def noLevelReason : String := "Level not an integer or a valid string: []"

/-- Starts the program in a world, with the level set in its environment, its arguments and
its whole input. -/
def start (host : Host W) (world : W) (environment : Option String) (arguments : List String)
    (input : Bytes) : Program W :=
  match Options.parse environment arguments with
  | .error e => .refused e
  | .ok .help => .helped (Options.helpText environment)
  | .ok .runWithoutLevel => .unstarted noLevelReason
  | .ok (.run showsBanner level) =>
    let shell := Shell.start defaultHome defaultIdentity world
    .ran level (Shell.startEvents defaultHome defaultIdentity)
      (Loop.run host .standard showsBanner shell (Console.reads input))

/-- All events of a run. -/
def trace : Program W → Trace
  | ran _ startUp talk => startUp ++ talk.events
  | _ => []

/-- The exit code, if the program comes to its own end. -/
def code? : Program W → Option Nat
  | refused _ => some 2
  | helped _ => some 0
  | unstarted _ => none
  | ran _ _ talk =>
    match talk.result with
    | .ok () => some 0
    | .error _ => none

/-- The bytes that reach the output. -/
def output : Program W → Bytes
  | helped text => encode text
  | p => p.trace.terminal

/-- The bytes that reach the diagnostics stream, without the accounts of unexpected faults. -/
def diagnostics : Program W → Bytes
  | refused e => encode (Options.complaint e)
  | p@(ran level _ _) => Diagnostic.transcript (p.trace.diagnostics level)
  | _ => []

end Program

end PocketShell
