import PocketShell.Builtin
import PocketShell.Fault
import PocketShell.Launch
import PocketShell.LogLevel
import PocketShell.Text.Lines

/-!
# Traces

What a shell does, in one sequence of events: texts that it writes and flushes, lines that it
asks for, commands that it carries out, programs that it launches with what they write, and
records that it logs. Everything that can be seen from outside is a view of the trace.

Main definitions: `Event` and `Record`; the views `terminal` (the bytes that reach the output),
`Exchange.all` (output between reads) and `diagnostics` (records and complaints, by level).
-/

namespace PocketShell

open Text (Bytes encode quoted splitAfter)

/-- What a record reports. -/
inductive Record where
  | started (home identity : String)
  | dispatched (name : String) (isBuiltin : Bool)
  | notLaunched (name : String) (e : LaunchError)
  | spawned (processName : Option String)
  | exited (status : Int)
  | unexpected (fault : Fault)
  | readFailed (fault : Fault)
  | ended
  deriving DecidableEq, Repr

namespace Record

/-- The level of a record. -/
def level : Record → LogLevel
  | started _ _ | readFailed _ | ended => .info
  | dispatched _ _ | notLaunched _ _ | spawned _ | exited _ => .debug
  | unexpected _ => .error

/-- The part of the shell that reports: the commands, or the loop around them. -/
def source : Record → String
  | readFailed _ | ended => "ShellCLI"
  | _ => "ShellBackend"

/-- Why a program was not launched, as it is logged. -/
def reason (name : String) : LaunchError → String
  | .zeroCharacter => "embedded null byte"
  | .refused e => "[Errno " ++ toString e.number ++ "] " ++ e.message ++ ": " ++ quoted name

/-- What is said of the name of a process. -/
def title : Option String → String
  | none => ""
  | some name => " (" ++ name ++ ")"

/-- The text of a record. Two things in it differ between runs, and a mark stands for each:
`<pid>` for the number of a process and `<msg>` for the system's words on a failed read. All other
text is the record's own; what users type stands in quotes, and the name of a process does not. -/
def message : Record → String
  | started home identity => "Session started: home=" ++ home ++ " identity=" ++ identity
  | dispatched name isBuiltin =>
    "dispatch " ++ quoted name ++ " -> " ++ (if isBuiltin then "builtin" else "external")
  | notLaunched name e => "launch of " ++ quoted name ++ " failed: " ++ reason name e
  | spawned processName => "spawned pid <pid>" ++ title processName
  | exited status => "pid <pid> exited with " ++ toString status
  | unexpected _ => "Error executing command"
  | readFailed _ => "read failed, leaving: <msg>"
  | ended => "Session ended"

/-- A record on its line. -/
def line (r : Record) : String := r.level.name ++ ":" ++ r.source ++ ":" ++ r.message ++ "\n"

end Record

/-- What a shell does. -/
inductive Event where
  /-- A text is put into the output, where it waits to be flushed. -/
  | wrote (text : String)
  /-- What waits in the output goes out. -/
  | flushed
  /-- The next line of input is asked for. -/
  | asked
  /-- A line is about to be executed. -/
  | executing (line : String)
  /-- The handler of a built-in command is called. -/
  | called (b : Builtin) (arguments : List String)
  /-- A program is about to be launched. -/
  | launching (name : String) (arguments : List String)
  /-- A program writes to a stream that it shares with the shell. -/
  | child (stream : Stream) (bytes : Bytes)
  /-- A record is logged. -/
  | logged (r : Record)
  deriving DecidableEq, Repr

/-- The events of a shell, in order. -/
abbrev Trace := List Event

namespace Trace

/-- The text that waits to be flushed after a trace, given what waited before it. -/
def pending : (waiting : String) → Trace → String
  | waiting, [] => waiting
  | waiting, .wrote text :: rest => pending (waiting ++ text) rest
  | _, .flushed :: rest => pending "" rest
  | waiting, _ :: rest => pending waiting rest

/-- The bytes that reach the output that a shell shares with its programs, given what waits
to be flushed. What waits at the end goes out when the shell ends. -/
def terminalFrom : (waiting : String) → Trace → Bytes
  | waiting, [] => encode waiting
  | waiting, .wrote text :: rest => terminalFrom (waiting ++ text) rest
  | waiting, .flushed :: rest => encode waiting ++ terminalFrom "" rest
  | waiting, .child .output bytes :: rest => bytes ++ terminalFrom waiting rest
  | waiting, _ :: rest => terminalFrom waiting rest

/-- The bytes that reach the output. -/
def terminal (t : Trace) : Bytes := terminalFrom "" t

/-- All text that the shell itself wrote. -/
def written (t : Trace) : String :=
  String.join (t.map fun | .wrote text => text | _ => "")

/-- All bytes that programs wrote to a stream. -/
def childBytes (stream : Stream) (t : Trace) : Bytes :=
  t.flatMap fun | .child s bytes => if s = stream then bytes else [] | _ => []

/-- The names and arguments of the programs that were launched or failed to be. -/
def launches (t : Trace) : List (String × List String) :=
  t.filterMap fun | .launching name arguments => some (name, arguments) | _ => none

/-- The trace cut in front of every request for a line. -/
def exchanges (t : Trace) : List Trace := t.splitOnP (· == .asked)

end Trace

/-- What went out between two requests for a line: text of the shell, and what programs wrote
to the output. -/
structure Exchange where
  out : String
  child : Bytes
  deriving DecidableEq, Repr

/-- What goes out during a part of a trace, given what waits when it begins, and what waits
when it ends. -/
def Exchange.of : (waiting : String) → Trace → Exchange × String
  | waiting, [] => (⟨"", []⟩, waiting)
  | waiting, .wrote text :: rest => Exchange.of (waiting ++ text) rest
  | waiting, .flushed :: rest =>
    let (e, left) := Exchange.of "" rest
    ({ e with out := waiting ++ e.out }, left)
  | waiting, .child .output bytes :: rest =>
    let (e, left) := Exchange.of waiting rest
    ({ e with child := bytes ++ e.child }, left)
  | waiting, _ :: rest => Exchange.of waiting rest

/-- The exchanges of the parts of a trace, one after the other, and what is never flushed. -/
def Exchange.all : (waiting : String) → List Trace → List Exchange × String
  | waiting, [] => ([], waiting)
  | waiting, t :: rest =>
    let (e, waiting) := Exchange.of waiting t
    let (es, waiting) := Exchange.all waiting rest
    (e :: es, waiting)

/-- What is seen on the diagnostics stream: records of the shell, and bytes of programs. -/
inductive Diagnostic where
  | record (r : Record)
  | child (bytes : Bytes)
  deriving DecidableEq, Repr

/-- What is seen of an event on the diagnostics stream when records are kept from a level on. -/
def Event.diagnostic? (threshold : LogLevel) : Event → Option Diagnostic
  | .logged r => if threshold.keeps r.level then some (.record r) else none
  | .child .diagnostics bytes => some (.child bytes)
  | _ => none

/-- The diagnostics of a trace. -/
def Trace.diagnostics (threshold : LogLevel) (t : Trace) : List Diagnostic :=
  t.filterMap (·.diagnostic? threshold)

namespace Diagnostic

/-- The line that opens the account of how a fault came about. -/
def accountOpening : Bytes := encode "Traceback (most recent call last):"

/-- The bytes of a diagnostic. Behind the record of an unexpected fault an account of it
begins. -/
def bytes : Diagnostic → Bytes
  | .record r@(.unexpected _) => encode r.line ++ accountOpening ++ encode "\n"
  | .record r => encode r.line
  | .child bytes => bytes

/-- Whether a line starts as a record does, with the name of a level. -/
def startsRecord (line : Bytes) : Bool :=
  LogLevel.all.any fun level => (encode (level.name ++ ":")).isPrefixOf line

/-- Lines without the accounts in them. An account has no mark at its end, so all lines up to
the next that starts as a record does are taken for it, whoever wrote them. -/
def withoutAccounts : (isAccount : Bool) → List Bytes → List Bytes
  | _, [] => []
  | isAccount, line :: rest =>
    if startsRecord line then line :: withoutAccounts false rest
    else if isAccount || accountOpening.isPrefixOf line then withoutAccounts true rest
    else line :: withoutAccounts false rest

/-- The text of diagnostics without accounts. -/
def transcript (ds : List Diagnostic) : Bytes :=
  (withoutAccounts false (splitAfter (· == 0x0A) (ds.flatMap bytes))).flatten

end Diagnostic

end PocketShell
