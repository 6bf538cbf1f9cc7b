/-!
# Faults

What can interrupt a handler of a built-in command, or the reading of a line. A fault has a
kind, which decides how far it goes, and a message.
-/

namespace PocketShell

/-- The kinds of faults. -/
inductive Fault.Kind where
  /-- A handler broke down. -/
  | breakdown
  /-- A handler was given a value that it cannot use. -/
  | badValue
  /-- The system denied permission. -/
  | denied
  /-- The system refused for another reason. -/
  | refused
  /-- The system found nothing. -/
  | missing
  /-- The input came to its end where more was needed. -/
  | endOfInput
  /-- The input is not a text. -/
  | undecodable
  /-- The user interrupted the shell. -/
  | interrupt
  /-- The shell is asked to stop. -/
  | stop
  deriving DecidableEq, Repr

/-- A fault of a kind, with the message it carries. -/
structure Fault where
  kind : Fault.Kind
  message : String
  deriving DecidableEq, Repr

namespace Fault.Kind

/-- Faults that no command keeps to itself: the request to stop, and the interruption by the
user. -/
def passesCommand : Fault.Kind → Bool
  | stop | interrupt => true
  | _ => false

/-- No other fault passes a command. -/
theorem passesCommand_iff {kind : Fault.Kind} :
    kind.passesCommand = true ↔ kind = .stop ∨ kind = .interrupt := by
  cases kind <;> simp [passesCommand]

/-- Faults of a read after which the shell stops as it does at the end of its input: the
refusals of the system, and input that is not a text. -/
def endsReading : Fault.Kind → Bool
  | denied | refused | missing | undecodable => true
  | _ => false

end Fault.Kind

end PocketShell
