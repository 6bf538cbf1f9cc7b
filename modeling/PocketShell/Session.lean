import PocketShell.Text.Quoted

/-!
# Sessions

What the shell keeps of its user between commands: the directory the user is in, as it was
typed, and the name the user goes by.
-/

namespace PocketShell

/-- The directory a session starts in. -/
def defaultHome : String := "/home/guest"

/-- The user of a session. -/
def defaultIdentity : String := "guest"

/-- The session of a user. -/
structure Session where
  workingDirectory : String := defaultHome
  identity : String := defaultIdentity
  deriving DecidableEq, Repr

namespace Session

/-- What stands in front of every line that the user types. -/
def prompt (s : Session) : String := s.identity ++ "$ "

/-- A session as it is shown in diagnostics, its fields quoted. -/
def shown (s : Session) : String :=
  "Session(working_directory=" ++ Text.quoted s.workingDirectory ++
    ", identity=" ++ Text.quoted s.identity ++ ")"

end Session

end PocketShell
