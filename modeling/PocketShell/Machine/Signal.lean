/-!
# Signals

Signals by number and by name, and what is said of a program that one of them ended.
-/

namespace PocketShell.Machine.Signal

/-- The signals: number, name, and what is said of a program that was ended by it. -/
def table : List (Nat × String × String) :=
  [(1, "HUP", "Hangup"), (2, "INT", "Interrupt"), (3, "QUIT", "Quit"),
   (4, "ILL", "Illegal instruction"), (5, "TRAP", "Trace/breakpoint trap"),
   (6, "ABRT", "Aborted"), (7, "BUS", "Bus error"), (8, "FPE", "Floating point exception"),
   (9, "KILL", "Killed"), (10, "USR1", "User defined signal 1"),
   (11, "SEGV", "Segmentation fault"), (12, "USR2", "User defined signal 2"),
   (13, "PIPE", "Broken pipe"), (14, "ALRM", "Alarm clock"), (15, "TERM", "Terminated"),
   (16, "16", "Stack fault"), (17, "CHLD", "Child exited"), (18, "CONT", "Continued"),
   (19, "STOP", "Stopped (signal)"), (20, "TSTP", "Stopped"), (21, "TTIN", "Stopped (tty input)"),
   (22, "TTOU", "Stopped (tty output)"), (23, "URG", "Urgent I/O condition"),
   (24, "XCPU", "CPU time limit exceeded"), (25, "XFSZ", "File size limit exceeded"),
   (26, "VTALRM", "Virtual timer expired"), (27, "PROF", "Profiling timer expired"),
   (28, "WINCH", "Window changed"), (29, "IO", "I/O possible"), (30, "PWR", "Power failure"),
   (31, "SYS", "Bad system call")]

/-- The first of the signals that have no meaning of their own. -/
def firstFree : Nat := 34

/-- The greatest signal. -/
def last : Nat := 64

/-- The name of a signal. The free ones are counted from the nearer end of their range. -/
def name (n : Nat) : String :=
  match table.lookup n with
  | some (name, _) => name
  | none =>
    if n < firstFree then toString n
    else if n = firstFree then "RTMIN"
    else if n = last then "RTMAX"
    else if n ≤ 49 then "RTMIN+" ++ toString (n - firstFree)
    else "RTMAX-" ++ toString (last - n)

/-- What is said of a program that was ended by a signal. -/
def account (n : Nat) : String :=
  match table.lookup n with
  | some (_, account) => account
  | none =>
    if n < firstFree then "Unknown signal " ++ toString n
    else "Real-time signal " ++ toString (n - firstFree)

/-- The number of the signal with a name, in any case of its letters. -/
def named? (s : String) : Option Nat :=
  ((List.range (last + 1)).tail.find? fun n => (name n).toUpper = s.toUpper)

/-- The signal that comes of writing what nobody reads. -/
def pipe : Nat := 13

/-- The signal that tells a process that one that it started has ended. -/
def child : Nat := 17

/-- Whether a signal leaves a program alive that has no plan for it. -/
def isHarmless (n : Nat) : Bool := [17, 18, 19, 20, 21, 22, 23, 28].contains n

/-- Whether a program can have a plan for a signal. -/
def canBeCaught (n : Nat) : Bool := n != 9 && n != 19

/-- Whether nothing is said of a program that a signal ended. -/
def isUnspoken (n : Nat) : Bool := n == 2 || n == pipe

/-- The status that a script sees of a program that ended, which is negative for one that a
signal ended. -/
def seenStatus (status : Int) : Nat :=
  if status < 0 then 128 + status.natAbs else status.natAbs

end PocketShell.Machine.Signal
