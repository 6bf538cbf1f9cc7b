import PocketShell.Machine.Utility.Naming

/-!
# Sources and goals

Utilities that take files from one place to another have a goal, which is the last operand or is
named by an option; if it is a directory, what is made gets the name of its source in it.
-/

namespace PocketShell.Machine.Utility

open Script (toBytes)
open Text (Bytes)
open Job

/-- The sources of a call and where they go to. -/
structure Route where
  sources : List String
  goal : String
  /-- What is made gets the name of its source in the goal. -/
  isInside : Bool

namespace Route

/-- The options that say what the goal is. -/
def choices : List Choice :=
  [.withValue 't' ["target-directory"], .flag 'T' ["no-target-directory"]]

/-- The path of a name in a directory. -/
def inside (directory name : String) : String :=
  if directory.endsWith "/" then directory ++ name else directory ++ "/" ++ name

/-- The name that something from a source gets. -/
def nameOf (source : String) : String := lastStep "" source

/-- Why a path does not lead to a directory. -/
def directoryFault (path : String) (follows : Bool) : Job (Option Errno) := do
  match (← files).stat (← call).here (toBytes path) follows with
  | .error e => return some e
  | .ok (_, node) => return if node.isDirectory then none else some .notDirectory

/-- Refuses a call. -/
def refuse (text : String) : Job (Except Int Route) := do return .error (← misuse text)

/-- Refuses a call without a hint. -/
def stop (text : String) : Job (Except Int Route) := do
  complain text
  return .error 1

/-- Refuses an option that comes twice. -/
def checkGoals (r : Request) (act : Job (Except Int Route)) : Job (Except Int Route) := do
  if 1 < r.options.countP (·.1 == 't') then stop "multiple target directories specified" else act

/-- Finds out where files are copied or moved to, if the call makes sense. -/
def ofRequest (r : Request) : Job (Except Int Route) :=
  checkGoals r do
    match r.value? 't', r.operands with
    | _, [] => refuse "missing file operand"
    | none, [s] => refuse ("missing destination file operand after " ++ quoted s)
    | goal?, operands =>
      if r.has 'T' then
        match goal?, operands with
        | some _, _ =>
          stop "cannot combine --target-directory (-t) and --no-target-directory (-T)"
        | none, [source, goal] => return .ok ⟨[source], goal, false⟩
        | none, _ => refuse ("extra operand " ++ quoted (operands.getD 2 ""))
      else
        match goal? with
        | some goal =>
          match ← directoryFault goal true with
          | none => return .ok ⟨operands, goal, true⟩
          | some e => stop ("target directory " ++ quoted goal ++ ": " ++ e.message)
        | none =>
          let goal := operands.getLastD ""
          match ← directoryFault goal true, operands with
          | none, _ => return .ok ⟨operands.dropLast, goal, true⟩
          | some _, [source, _] => return .ok ⟨[source], goal, false⟩
          | some e, _ => stop ("target " ++ quoted goal ++ ": " ++ e.message)

end Route

end PocketShell.Machine.Utility
