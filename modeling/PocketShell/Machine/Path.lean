import PocketShell.Errno
import PocketShell.Machine.FileSystem

/-!
# Paths

A path is a way through the file system, from the root or from the current directory. Walking
it follows symbolic links, and every step has to start in a directory that may be searched.
-/

namespace PocketShell.Machine

open Text (Bytes)

/-- The longest name that a directory can hold, in bytes. -/
def nameLimit : Nat := 255

/-- The bytes that a path may have, with room for its end mark. -/
def pathLimit : Nat := 4096

/-- How many links one walk may follow. -/
def linkLimit : Nat := 40

/-- The byte that parts the steps of a path. -/
def slash : UInt8 := 0x2F

/-- The step that stays where it is. -/
def stay : Bytes := [0x2E]

/-- The step to the directory above. -/
def up : Bytes := [0x2E, 0x2E]

/-- The steps of a path that have a name. -/
def namedSteps (path : Bytes) : List Bytes :=
  (path.splitOnP (· == slash)).filter (· ≠ [])

/-- Whether a path ends in a slash, by which it asks for a directory. -/
def asksDirectory (path : Bytes) : Bool := path.getLast? = some slash

/-- The steps of a path. The empty step, which a slash at the end makes, goes nowhere but has
to start in a directory. -/
def stepsOf (path : Bytes) : List Bytes :=
  namedSteps path ++ if asksDirectory path then [[]] else []

/-- Where a path starts: at the root if its first byte is a slash. -/
def startOf (here : Location) (path : Bytes) : Location :=
  if path.head? = some slash then [] else here

namespace FileSystem

/-- Whether a directory stands at a location. -/
def isDirectory (fs : FileSystem) (loc : Location) : Bool :=
  (fs.node? loc).any Node.isDirectory

/-- Whether the user may do something with what stands at a location. -/
def permits (fs : FileSystem) (loc : Location) (p : Permission) : Bool :=
  (fs.node? loc).any (·.permits p)

/-- Walks the steps from a location, following at most `links` symbolic links. -/
def walk (fs : FileSystem) (links : Nat) (here : Location) :
    List Bytes → Except Errno Location
  | [] => .ok here
  | step :: rest =>
    if !fs.isDirectory here then .error .notDirectory
    else if step = [] then fs.walk links here rest
    else if !fs.permits here .execute then .error .accessDenied
    else if step = stay then fs.walk links here rest
    else if step = up then fs.walk links here.dropLast rest
    else if nameLimit < step.length then .error .nameTooLong
    else
      match fs.node? (here ++ [step]) with
      | none => .error .noEntry
      | some (.link target) =>
        match links with
        | 0 => .error .tooManyLinks
        | links + 1 => fs.walk links (startOf here target) (stepsOf target ++ rest)
      | some _ => fs.walk links (here ++ [step]) rest
termination_by steps => (links, steps.length)

/-- Refuses a path that is longer than any path may be, and the empty one. -/
def checkPath (path : Bytes) : Except Errno Unit :=
  if pathLimit ≤ path.length then .error .nameTooLong
  else if path = [] then .error .noEntry
  else .ok ()

/-- The location that a path leads to from a directory. -/
def resolve (fs : FileSystem) (here : Location) (path : Bytes) : Except Errno Location := do
  checkPath path
  fs.walk linkLimit (startOf here path) (stepsOf path)

/-- The node that a path leads to, and its location. -/
def find (fs : FileSystem) (here : Location) (path : Bytes) : Except Errno (Location × Node) := do
  let loc ← fs.resolve here path
  match fs.node? loc with
  | some node => return (loc, node)
  | none => throw .noEntry

/-- The directory that steps lead to and the name in it that their last step is, which need
not exist and is not followed. There is no name if the last step leads to a directory that is
there in any case. -/
def entryOf (fs : FileSystem) (here : Location) (steps : List Bytes) :
    Except Errno (Location × Option Bytes) := do
  match steps.getLast? with
  | none => return (here, none)
  | some step =>
    let above ← fs.walk linkLimit here steps.dropLast
    if step = stay ∨ step = up then return (← fs.walk linkLimit above [step], none)
    if !fs.isDirectory above then throw .notDirectory
    if !fs.permits above .execute then throw .accessDenied
    if nameLimit < step.length then throw .nameTooLong
    return (above, some step)

/-- The directory that a path leads to and the name in it that its last step is. -/
def entry (fs : FileSystem) (here : Location) (path : Bytes) :
    Except Errno (Location × Option Bytes) := do
  checkPath path
  fs.entryOf (startOf here path) (namedSteps path)

/-- The node that a path leads to, and its location, a link in the last step not being
followed. A slash at the end follows it. -/
def findEntry (fs : FileSystem) (here : Location) (path : Bytes) :
    Except Errno (Location × Node) := do
  if asksDirectory path then fs.find here path
  else
    let (above, name) ← fs.entry here path
    let loc := above ++ name.toList
    match fs.node? loc with
    | some node => return (loc, node)
    | none => throw .noEntry

end FileSystem

end PocketShell.Machine
