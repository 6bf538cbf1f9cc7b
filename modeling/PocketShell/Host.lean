import PocketShell.Errno
import PocketShell.Text.Utf8

/-!
# Hosts

A host is the machine that a shell runs on, as far as the shell can tell: it looks up paths,
lists directories and executes programs. The state of the machine is a value of its own type,
which only executing a program changes.
-/

namespace PocketShell

open Text (Bytes)

/-- The two streams a program writes to. -/
inductive Stream where
  | output
  | diagnostics
  deriving DecidableEq, Repr

/-- A program that ran to its end: what it wrote, in order, and how it ended. A negative
status is the signal that ended it. -/
structure Run (W : Type u) where
  /-- The name of its process as it was launched, in the characters that a log shows. A process
  that is gone or keeps its name to itself has none. -/
  processName : Option String
  status : Int
  writes : List (Stream × Bytes)
  world : W

/-- What the shell asks of its machine. No question is asked about a text with a zero
character in it, which no path and no argument can have. -/
structure Host (W : Type u) where
  /-- Whether a path leads to anything, links followed. -/
  present : W → String → Bool
  /-- The names in a directory, in the order of the listing. -/
  list : W → String → Except Errno (List Bytes)
  /-- The directories in which programs are looked for; an empty one is the current one. -/
  searchPath : List String
  /-- Executes the program at a path with its arguments, the first of which is the name that
  it was called by. -/
  execute : W → String → List String → Except Errno (Run W)

end PocketShell
