import PocketShell.Machine.Script.WordReading
import PocketShell.Machine.Utility.Request

/-!
# Backups

What stands in the way of something new can be kept under another name: its own with an ending,
or with a number between tildes.
-/

namespace PocketShell.Machine.Utility

open Script (toBytes byteText)
open Text (Bytes)
open Job

/-- Which name a backup gets. -/
inductive BackupKind where
  | simple
  | numbered
  /-- Numbered if there are numbered ones already. -/
  | asBefore
  deriving DecidableEq

/-- How backups are made. -/
structure Backup where
  kind : BackupKind
  ending : String

namespace Backup

/-- The options that ask for backups. -/
def choices : List Choice :=
  [.flag 'b' [], .named '~' ["backup"] .possible, .withValue 'S' ["suffix"]]

/-- The words for kinds of backups, or for none. -/
def words : List (List String × Option BackupKind) :=
  [(["none", "off"], none), (["simple", "never"], some .simple), (["existing", "nil"], some .asBefore),
   (["numbered", "t"], some .numbered)]

/-- What a request wants, if it wants backups, or what is wrong with it. What it leaves open, the
environment says. -/
def ofRequest (r : Request) : Job (Except String (Option Backup)) := do
  if !(r.has 'b' || r.has '~' || r.has 'S') then return .ok none
  let environment := (← call).environment
  let ending := (r.value? 'S').getD ((environment.lookup "SIMPLE_BACKUP_SUFFIX").getD "")
  let ending := if ending.isEmpty || ending.toList.contains '/' then "~" else ending
  let usual := (environment.lookup "VERSION_CONTROL").getD ""
  let word? : Option (String × String) :=
    match (r.value? '~').filter (!·.isEmpty) with
    | some s => some ("backup type", s)
    | none => if usual.isEmpty then none else some ("$VERSION_CONTROL", usual)
  match word? with
  | none => return .ok (some ⟨.asBefore, ending⟩)
  | some (option, s) =>
    return (Request.meaning option words s).map fun kind? => kind?.map (⟨·, ending⟩)

/-- The number of a numbered backup of a name. -/
def numberOf? (name other : Bytes) : Option Nat :=
  match (byteText other).toList.drop name.length with
  | '.' :: '~' :: rest =>
    if name.isPrefixOf other && rest.getLast? = some '~' then
      let digits := rest.dropLast
      if digits.isEmpty || !digits.all Char.isDigit || digits.head? = some '0' then none
      else some (Script.decimal digits)
    else none
  | _ => none

/-- The name for a backup of something in a directory. -/
def nameFor (b : Backup) (fs : FileSystem) (above : Location) (name : Bytes) : Bytes :=
  let numbers := (fs.namesIn above).filterMap (numberOf? name)
  let isNumbered := b.kind = .numbered || (b.kind = .asBefore && !numbers.isEmpty)
  if isNumbered then name ++ toBytes (".~" ++ toString (numbers.foldl max 0 + 1) ++ "~")
  else name ++ toBytes b.ending

/-- A path with another name in place of its last step. -/
def renamed (path : String) (name : Bytes) : String :=
  let cs := (path.toList.reverse.dropWhile (· == '/')).dropWhile (· != '/')
  String.ofList cs.reverse ++ byteText name

/-- The path that a backup of what a path names gets. -/
def pathFor (b : Backup) (path : String) : Job (Except Errno String) := do
  let here := (← call).here
  let fs ← files
  match fs.entry here (toBytes path) with
  | .error e => return .error e
  | .ok (_, none) => return .error .busy
  | .ok (above, some name) => return .ok (renamed path (b.nameFor fs above name))

/-- Gives what a path names the name of a backup. The answer is the path to that. -/
def make (b : Backup) (path : String) : Job (Except Errno String) := do
  let here := (← call).here
  match ← b.pathFor path with
  | .error e => return .error e
  | .ok goal =>
    match ← alter (·.rename here (toBytes path) (toBytes goal)) with
    | none => return .ok goal
    | some e => return .error e

end Backup

end PocketShell.Machine.Utility
