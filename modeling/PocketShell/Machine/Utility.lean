/-!
# Utilities

The small programs that come with the machine, by the names they are called by.
-/

namespace PocketShell.Machine

/-- The utilities of the machine. -/
inductive Utility where
  | basename
  | bracket
  | cat
  | chmod
  | cp
  | dirname
  | echo
  | env
  | expr
  | fails
  | head
  | kill
  | ln
  | ls
  | mkdir
  | mv
  | printenv
  | printf
  | pwd
  | rm
  | rmdir
  | seq
  | sleep
  | succeeds
  | tail
  | tee
  | test
  | touch
  | tr
  | wc
  | yes
  deriving DecidableEq, Repr

namespace Utility

/-- The utilities and their names. -/
def named : List (String × Utility) :=
  [("basename", basename), ("[", bracket), ("cat", cat), ("chmod", chmod), ("cp", cp),
   ("dirname", dirname), ("echo", echo), ("env", env), ("expr", expr), ("false", fails),
   ("head", head), ("kill", kill), ("ln", ln), ("ls", ls), ("mkdir", mkdir), ("mv", mv),
   ("printenv", printenv), ("printf", printf), ("pwd", pwd), ("rm", rm), ("rmdir", rmdir),
   ("seq", seq), ("sleep", sleep), ("true", succeeds), ("tail", tail), ("tee", tee),
   ("test", test), ("touch", touch), ("tr", tr), ("wc", wc), ("yes", yes)]

end Utility

end PocketShell.Machine
