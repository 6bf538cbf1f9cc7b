import PocketShell.Machine.Script.CommandReading
import PocketShell.Machine.SearchPath
import PocketShell.Machine.Signal
import PocketShell.Machine.System

/-!
# Processes that run scripts

What a process that runs a script knows: its variables and functions, where it is, its
descriptors, its plans for signals. A subshell starts with a copy of all this and nothing of it
comes back, while the system is shared.

An action of a process (`Act`) works on both and can break off: loops and functions are left,
the script is left, or the process has ended otherwise. See `Flow`.
-/

namespace PocketShell.Machine.Script

/-- A variable. One without a value is only known to be exported or read only. -/
structure Variable where
  value : Option String
  isExported : Bool
  isReadOnly : Bool

/-- What a function hides while it runs. -/
structure Frame where
  /-- The values that local variables had. -/
  bindings : List (String × Option Variable)
  /-- The options that were set, if they are local. -/
  options : Option (List Char)

/-- Where a program was found on the search path. -/
structure Finding where
  path : String
  /-- At which element of the search path that was. -/
  element : Nat
  /-- The directory has been changed since. -/
  isStale : Bool

/-- The bounds of something that a process may use: the one that counts, and how far that may be
raised. -/
structure Limit where
  soft : Option Nat
  hard : Option Nat

/-- What a process knows. -/
structure Process where
  /-- The number of the process, and that of the shell that a subshell stems from. -/
  id : Nat
  shell : Nat
  parent : Nat
  name : String
  /-- The number of the current directory. -/
  place : Nat
  /-- The current directory as it was asked for, links not followed. It is empty if no path is
  known. -/
  directory : String
  /-- The path without links to the current directory, if somebody wanted to know it. -/
  physical : Option String
  arguments : List String
  /-- The variables in the order in which they were made. -/
  bindings : List (String × Variable)
  functions : List (String × Command)
  /-- What words at the start of commands stand for, in the order in which that was said. -/
  aliases : List (String × String)
  /-- The programs that were found on the search path. -/
  found : List (String × Finding)
  /-- What is hidden by every function that runs. -/
  hidden : List Frame
  descriptors : Descriptors
  /-- Plans for signals; the signal 0 is the end of the script. Nothing is done about a signal
  with an empty plan. -/
  plans : List (Nat × String)
  /-- The signals that no notice is taken of, whatever is planned. -/
  deafTo : List Nat
  options : List Char
  status : Nat
  /-- The status of the last command that was run inside a word. -/
  innerStatus : Nat
  /-- The status that the process had before it began to attend to a signal or to its end. -/
  savedStatus : Option Nat
  /-- The process that was last started in the background. -/
  background : Option Nat
  loops : Nat
  /-- The line of the command that runs, and that up to which the script has been read. -/
  line : Nat
  readLine : Nat
  /-- The argument that options are taken from next, and how far its letters have been taken. -/
  optionIndex : Nat
  optionOffset : Option Nat
  /-- The command of the shell itself that runs; complaints name it. -/
  command : Option String
  mask : Nat
  /-- The limits on what the process may use, except those without a bound. -/
  limits : List (Char × Limit)

/-- A command that runs in the background. -/
structure Job where
  /-- The place in the table of the jobs, from 1 on. -/
  place : Nat
  /-- The process as it starts. -/
  process : Process
  command : Command
  /-- The worlds that it has been run in, with the times from which on they counted. -/
  past : List (Time × World)
  /-- Up to which time it has been run, and when it goes on. -/
  reached : Time
  wakes : Time
  /-- The status that it ended with. -/
  outcome : Option Int
  /-- It has ended and somebody waited for that. -/
  isWaitedFor : Bool

/-- A process and the system that it shares with others. -/
structure State where
  process : Process
  system : System
  /-- What the process runs in the background, the latest first. -/
  jobs : List Job

/-- How a process goes on if not with the next command. -/
inductive Flow where
  | breaks (loops : Nat)
  | continues (loops : Nat)
  | returns
  /-- The script is left, with a status. -/
  | leaves (status : Nat)
  /-- The script is left for a fault; a command of the shell itself can be left instead. -/
  | fails
  /-- The process has ended, with this status. -/
  | ended (status : Int)
  /-- It is of no use to run on: see `System.isOver`. -/
  | over

/-- An action of a process. -/
abbrev Act := ExceptT Flow (StateM State)

/-- The options that are set by a letter, and their names. -/
def optionNames : List (Char × String) :=
  [('e', "errexit"), ('f', "noglob"), ('I', "ignoreeof"), ('i', "interactive"), ('m', "monitor"),
   ('n', "noexec"), ('s', "stdin"), ('x', "xtrace"), ('v', "verbose"), ('V', "vi"),
   ('E', "emacs"), ('C', "noclobber"), ('a', "allexport"), ('b', "notify"), ('u', "nounset"),
   ('p', "privileged"), ('\x01', "nolog"), ('\x02', "debug")]

namespace Process

/-- The value of a variable. -/
def look (p : Process) (name : String) : Option String :=
  (p.bindings.lookup name).bind (·.value)

/-- Puts a variable in place of the one with its name. -/
def putVariable (p : Process) (name : String) (v : Option Variable) : Process :=
  match v with
  | none => { p with bindings := p.bindings.filter (·.1 ≠ name) }
  | some v =>
    if (p.bindings.lookup name).isSome then
      { p with bindings := p.bindings.map fun (n, old) => (n, if n = name then v else old) }
    else { p with bindings := p.bindings ++ [(name, v)] }

/-- Sets a variable to a value. -/
def set (p : Process) (name value : String) : Process :=
  let isExported := (p.bindings.lookup name).any (·.isExported) || p.options.contains 'a'
  p.putVariable name (some ⟨some value, isExported, (p.bindings.lookup name).any (·.isReadOnly)⟩)

/-- Whether a variable must not be set. -/
def isReadOnly (p : Process) (name : String) : Bool :=
  (p.bindings.lookup name).any (·.isReadOnly)

/-- Whether an option is set. -/
def has (p : Process) (option : Char) : Bool := p.options.contains option

/-- A number that names are spread by: the sum of the characters, the first counting 17
times. -/
def spread (name : String) : Nat :=
  16 * ((name.toList.head?.map Char.toNat).getD 0) + (name.toList.map Char.toNat).foldl (· + ·) 0

/-- Entries in the order in which a table with some rows shows them. -/
def inRows (rows : Nat) (entries : List (String × α)) : List (String × α) :=
  entries.mergeSort fun a b => spread a.1 % rows ≤ spread b.1 % rows

/-- The environment that programs get from a process. -/
def environment (p : Process) : List (String × String) :=
  (inRows 39 p.bindings).filterMap fun (name, v) =>
    if v.isExported then v.value.map (name, ·) else none

/-- The bytes that part fields. -/
def separators (p : Process) : List Char := ((p.look "IFS").getD " \t\n").toList

/-- The name that a complaint starts with, and the line where the process is. -/
def mark (p : Process) : String :=
  p.name ++ ": " ++ toString p.line ++ ": " ++
    match p.command with
    | some c => c ++ ": "
    | none => ""

/-- The directories in which programs are looked for. -/
def searchPath (p : Process) : List String :=
  ((p.look "PATH").map SearchPath.elements).getD []

/-- Whether no notice is taken of a signal. -/
def isDeafTo (p : Process) (signal : Nat) : Bool :=
  p.deafTo.contains signal || (Signal.canBeCaught signal && p.plans.lookup signal == some "")

/-- The signals that a process takes no notice of. -/
def ignored (p : Process) : List Nat :=
  (List.range (Signal.last + 1)).filter fun n => n ≠ 0 && p.isDeafTo n

/-- What is to be done for a signal that is taken notice of. -/
def plan? (p : Process) (signal : Nat) : Option String :=
  if Signal.canBeCaught signal && !p.isDeafTo signal then p.plans.lookup signal else none

/-- Whether a signal ends the process. -/
def isDeadly (p : Process) (signal : Nat) : Bool :=
  !Signal.isHarmless signal && !p.isDeafTo signal && (p.plan? signal).isNone

/-- Whether something is planned to be done for a signal. -/
def hasPlans (p : Process) : Bool := p.plans.any fun (_, plan) => !plan.isEmpty

end Process

namespace Act

/-- The process. -/
def process : Act Process := do return (← get).process

/-- Changes the process. -/
def change (f : Process → Process) : Act Unit := modify fun s => { s with process := f s.process }

/-- The system. -/
def system : Act System := do return (← get).system

/-- Sets the system. -/
def setSystem (sys : System) : Act Unit := modify fun s => { s with system := sys }

/-- The location of the current directory. -/
def here : Act Location := do
  return ((← system).files.locationOf? (← process).place).getD []

/-- Sets the status. -/
def finish (status : Nat) : Act Unit := change fun p => { p with status }

/-- The stream of a descriptor. -/
def stream? (descriptor : Nat) : Act (Option Nat) := do
  return (← process).descriptors.lookup descriptor

/-- Lets time go by, and stops where it is of no use to run on. -/
def pass (time : Time) : Act Unit := do
  setSystem ((← system).pass time)
  if (← system).isOver then throw .over

/-- Sends a signal to the process itself. -/
def signalSelf (signal : Nat) : Act Unit := do
  if let .ok sys := (← system).send (← process).id signal then setSystem sys

/-- Writes to a descriptor, and tells whether that could be done. A pipe that nobody reads is a
reason to end. -/
def write (descriptor : Nat) (text : String) : Act Bool := do
  match ← stream? descriptor with
  | none => return text.isEmpty
  | some n =>
    let (sys, fault) := (← system).write n (toBytes text)
    setSystem sys
    if fault = some .brokenPipe then
      let p ← process
      if p.isDeadly Signal.pipe then throw (.ended (.negOfNat Signal.pipe))
      if (p.plan? Signal.pipe).isSome then signalSelf Signal.pipe
    return fault.isNone

/-- Writes a line of a complaint as it is. -/
def report (text : String) : Act Unit := do
  let _ ← write 2 (text ++ "\n")

/-- Complains about something. -/
def warn (text : String) : Act Unit := do report ((← process).mark ++ text)

/-- The path without links to the current directory, which is empty if there is none. -/
def physicalDirectory : Act String := do
  let here ← here
  if FileSystem.isRemoved here then
    warn ("getcwd() failed: " ++ Errno.noEntry.message)
    return ""
  else return physicalPath here

/-- Complains and breaks the script off. -/
def fail (text : String) : Act α := do
  warn text
  finish 2
  throw .fails

/-- Sets a variable, if it may be set. For two variables, something else depends on it. -/
def set (name value : String) : Act Unit := do
  if (← process).isReadOnly name then fail (name ++ ": is read only")
  if name = "OPTIND" then
    if value.isEmpty || !value.toList.all Char.isDigit then fail ("Illegal number: " ++ value)
    change fun p => { p with optionIndex := max 1 (decimal value.toList), optionOffset := none }
  if name = "PATH" then change fun p => { p with found := [] }
  change fun p => p.set name value

/-- Runs an action and gives the flow that broke it off, if one did. -/
def flow? (act : Act Unit) : Act (Option Flow) :=
  tryCatch (do act; return none) fun flow => return some flow

/-- Repeats an action as long as it asks for that, at most `bound` times. -/
def repeatWhile (bound : Nat) (act : Act Bool) : Act Unit := do
  for _ in [0:bound] do
    if !(← act) then return

end Act

end PocketShell.Machine.Script
