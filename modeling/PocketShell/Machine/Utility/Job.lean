import PocketShell.Machine.System
import PocketShell.Machine.Utility.Quotation

/-!
# Jobs

A job is what a utility does when it is called: it works on the system, knows how it was called,
and comes to a status. Complaints start with the name that the utility was called by.
-/

namespace PocketShell.Machine

open Script (toBytes ofBytes byteText seenText)
open Text (Bytes)

/-- What a utility does. It can end early, with a status. -/
abbrev Job := ReaderT Call (ExceptT Int (StateM System))

namespace Job

/-- How the utility was called. -/
def call : Job Call := read

/-- The operands and options. -/
def arguments : Job (List String) := return (← read).arguments.tail

/-- The files. -/
def files : Job FileSystem := return (← get).files

/-- Complains, behind the name of the utility. -/
def complain (text : String) : Job Unit := do
  let c ← call
  modify (c.write 2 (c.arguments.headD "" ++ ": " ++ text ++ "\n"))

/-- Ends if a signal has come, or comes up to a time, that there is no plan for. -/
def dieOfSignals (time : Time) : Job Unit := do
  let c ← call
  let sys ← get
  let ahead := sys.waitUntil time
  if let s :: _ := ahead.signalsFor c.process time c.isDeadly then
    set (ahead.atTime (max sys.clock s.time))
    throw (.negOfNat s.signal)

/-- Writes to the output, and tells why that could not be done. A pipe that nobody reads is a
reason to end. -/
def write (bytes : Bytes) : Job (Option Errno) := do
  let c ← call
  match c.descriptors.lookup 1 with
  | none => return if bytes.isEmpty then none else some .badDescriptor
  | some n =>
    let (sys, fault) := (← get).write n bytes
    set sys
    if fault = some .brokenPipe && c.isDeadly Signal.pipe then throw (.negOfNat Signal.pipe)
    return fault

/-- Complains that the output could not be written. -/
def complainOfWriting (e : Errno) : Job Unit := complain ("write error: " ++ e.message)

/-- Ends with a text, and with a status if that can be written. `failure` is the status
otherwise. -/
def sayOr (failure : Int) (text : String) (status : Int) : Job Int := do
  match ← write (toBytes text) with
  | none => return status
  | some e =>
    complainOfWriting e
    return failure

/-- Ends with a text, and with a status if that can be written. -/
def say (text : String) (status : Int) : Job Int := sayOr 1 text status

/-- Writes blocks one after the other. A time goes by behind each. -/
def writeBlocks (count : Nat) (block : Nat → Bytes) (time : Nat → Time) :
    Job (Option Errno) := do
  for n in [0:count] do
    if let some e ← write (block n) then return some e
    let goal := (← get).clock + time n
    dieOfSignals goal
    modify (·.waitUntil goal)
    if (← get).isOver then return none
  return none

/-- Tries to change the files. What fails is told, and nothing is changed. -/
def alter (change : FileSystem → Except Errno FileSystem) : Job (Option Errno) := do
  match change (← get).current with
  | .ok files =>
    modify ({ · with files })
    return none
  | .error e => return some e

/-- Tells what was done, on the output. -/
def announce (text : String) : Job Unit := do
  let _ ← write (toBytes (text ++ "\n"))

/-- Does something for every operand. The status is 1 if it failed for one of them. -/
def forEach (operands : List String) (act : String → Job Bool) : Job Int := do
  let done ← operands.mapM act
  return if done.all id then 0 else 1

/-- As many bytes as `count` makes of what is left to read from the input, which is read in blocks
from a pipe. -/
def inputOf (block : Nat) (count : Bytes → Nat) : Job (Except Errno Bytes) := do
  match (← call).read 0 block count (← get) with
  | .ok (sys, bytes) =>
    set sys
    return .ok bytes
  | .error e => return .error e

/-- What is left to read from the input. -/
def input : Job (Except Errno Bytes) := inputOf 1 List.length

/-- Asks a question, which an answer that starts with a `y` says yes to. -/
def ask (question : String) : Job Bool := do
  let call ← call
  modify (call.write 2 (call.arguments.headD "" ++ ": " ++ question ++ "? "))
  match ← inputOf 1 (System.linesLength 1) with
  | .ok (b :: _) => return b == 0x79 || b == 0x59
  | _ => return false

/-- The content of the file that an operand names; a hyphen stands for the input. -/
def content (operand : String) : Job (Except Errno Bytes) := do
  if operand = "-" then input else return (← files).read (← call).here (toBytes operand)

/-- The hint that complaints about a call end with. -/
def hint : Job String := do
  return "Try '" ++ (← call).arguments.headD "" ++ " --help' for more information."

/-- Complains about the call itself, with a status. -/
def misuseWith (status : Int) (text : String) : Job Int := do
  complain (text ++ "\n" ++ (← hint))
  return status

/-- Complains about the call itself. -/
def misuse (text : String) : Job Int := misuseWith 1 text

/-- Refuses a call without operands. -/
def needOperand (operands : List String) (text : String) (act : Job Int) : Job Int :=
  if operands.isEmpty then misuse text else act

end Job

end PocketShell.Machine
