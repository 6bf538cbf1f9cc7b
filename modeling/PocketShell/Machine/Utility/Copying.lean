import PocketShell.Machine.Mode
import PocketShell.Machine.Utility.Backup
import PocketShell.Machine.Utility.Route

/-!
# Copying and moving

How one file, or a directory with all that is in it, is taken to another path. What stands there
may have to be spared, kept as a backup, or replaced; a file must not be copied to itself, nor a
directory into itself.
-/

namespace PocketShell.Machine.Utility

open Script (toBytes byteText)
open Text (Bytes)
open Job

/-- Which links are followed in sources. -/
inductive Following where
  | never
  /-- Those that operands are. -/
  | operands
  | always
  deriving DecidableEq

/-- What a copy of a file is. -/
inductive Making where
  | content
  | hardLink
  | symbolicLink
  deriving DecidableEq

/-- Whether something that stands in the way is replaced. -/
inductive Replacing where
  | always
  | ifAsked
  | never
  /-- Never, and that counts as a failure. -/
  | refused
  deriving DecidableEq

/-- Whether something a source has is given to the copy. -/
inductive Keeping where
  | usual
  | kept
  /-- The copy gets what anything new gets. -/
  | dropped
  deriving DecidableEq

/-- How files are copied or moved. -/
structure Manner where
  moves : Bool
  isRecursive : Bool
  following : Following
  making : Making
  replacing : Replacing
  backup : Option Backup
  /-- Nothing is replaced that is as new as the source. -/
  isUpdate : Bool
  /-- What stands in the way is removed first, or if it cannot be written. -/
  removesFirst : Bool
  forces : Bool
  mode : Keeping
  keepsTime : Bool
  keepsLinks : Bool
  onlyAttributes : Bool
  /-- The content has to be shared, which is not possible. -/
  shares : Bool
  readsDevices : Bool
  isVerbose : Bool
  explains : Bool

/-- What has been done for a call. -/
structure Memory where
  /-- Where the sources were, and what was made. -/
  sources : List Location
  made : List (Location × Nat)
  /-- Nodes that were copied or made on the way, with the paths of the copies. -/
  copies : List (Nat × String)
  /-- Whether a directory was made for the operand that is being copied. -/
  isInside : Bool
  /-- Whether that has turned out to be copied into itself. -/
  isIntoItself : Bool

namespace Memory

/-- Nothing. -/
def empty : Memory := ⟨[], [], [], false, false⟩

end Memory

/-- A job with a memory of what it did. -/
abbrev Copier := StateT Memory Job

namespace Copying

/-- Complains, and tells that something could not be done. -/
def refuse (text : String) : Copier Bool := do
  complain text
  return false

/-- Complains about an error. -/
def refuseFor (text : String) (e : Errno) : Copier Bool := refuse (text ++ ": " ++ e.message)

/-- The node that a path leads to. -/
def stat (path : String) (follows : Bool) : Copier (Except Errno (Nat × Node)) := do
  return (← files).stat (← call).here (toBytes path) follows

/-- The place of the last step of a path, whatever stands there. -/
def entryOf? (path : String) : Job (Option Location) := do
  match (← files).entry (← call).here (toBytes path) with
  | .ok (above, some name) => return some (above ++ [name])
  | .ok (above, none) => return some above
  | .error _ => return none

/-- Whether two paths are one entry of one directory. -/
def areSameEntry (a b : String) : Job Bool := do
  let place ← entryOf? a
  return place.isSome && place = (← entryOf? b)

/-- Remembers that a node was copied to a path, unless one was before: the path of that copy. -/
def remember (number : Nat) (path : String) : Copier (Option String) := do
  match (← get).copies.lookup number with
  | some before => return some before
  | none =>
    modify fun m => { m with copies := (number, path) :: m.copies }
    return none

/-- Makes a hard link to a node. What has the name is removed if `replaces`. The answer tells
whether it was. -/
def linkHard (number : Nat) (goal : String) (replaces : Bool) : Job (Except Errno Bool) := do
  let here := (← call).here
  let bytes := toBytes goal
  let add (fs : FileSystem) : Except Errno FileSystem :=
    match fs.nodeOf? number with
    | some (.program _) | some .device => .error .notPermitted
    | _ => fs.addName here bytes number
  match ← alter add with
  | none => return .ok false
  | some .alreadyThere =>
    if !replaces then return .error .alreadyThere
    match ← alter fun fs => do add (← fs.removeFile here bytes) with
    | none => return .ok true
    | some e => return .error e
  | some e => return .error e

/-- Makes a symbolic link. What has the name is removed if `replaces`. -/
def linkSoftly (target : Bytes) (goal : String) (replaces : Bool) : Job (Option Errno) := do
  let here := (← call).here
  let bytes := toBytes goal
  let add (fs : FileSystem) := fs.makeLink here bytes target
  match ← alter add with
  | some .alreadyThere =>
    if replaces then alter fun fs => do add (← fs.removeFile here bytes)
    else return some .alreadyThere
  | result => return result

/-- Asks whether something may be replaced. -/
def mayReplace (m : Manner) (goal : String) (node : Node) : Copier Bool := do
  if node.isLink || node.permits .write then ask ("overwrite " ++ quoted goal)
  else
    let octal := Mode.octalText node.mode
    let signs := Mode.signs node.mode
    if m.moves || m.removesFirst || m.forces then
      ask ("replace " ++ quoted goal ++ ", overriding mode " ++ octal ++ " (" ++ signs ++ ")")
    else ask ("unwritable " ++ quoted goal ++ " (mode " ++ octal ++ ", " ++ signs ++
      "); try anyway")

/-- What a source and something in its way have to do with one another. -/
inductive Sameness where
  | fine
  /-- They are one file, and that must not be. -/
  | same
  /-- They are one file, so that nothing is left to do. -/
  | done

/-- Finds out whether a source and what stands in its way are one file, which must not be copied
to itself. -/
def sameness (m : Manner) (source goal : String) (src dst : Nat × Node) : Copier Sameness := do
  let isSame := src.1 = dst.1
  if isSame && m.making = .hardLink then return .done
  let isSameEntry ← areSameEntry source goal
  let ownSource := (← stat source false).toOption
  let ownGoal := (← stat goal false).toOption
  let (linkSource, linkGoal) :=
    if m.following = .never then (src, dst) else (ownSource.getD src, ownGoal.getD dst)
  if m.following = .never && src.2.isLink && dst.2.isLink then
    if isSameEntry then return .same
    if m.backup.isSome || !isSame then return .fine
    return if m.moves then .same else .done
  if m.following ≠ .never then
    if !isSame || ownSource.isNone || ownGoal.isNone then return .fine
    if linkSource.2.isLink && linkGoal.2.isLink && m.removesFirst then return .fine
  let isSameLink := linkSource.1 = linkGoal.1
  let names := (← files).nameCount linkGoal.1
  if m.backup.isSome then
    if !isSameLink then
      let dangles := !m.moves && m.following ≠ .never && linkSource.2.isLink && !linkGoal.2.isLink
      return if dangles then .same else .fine
    return if isSameEntry then .same else .fine
  if m.moves || m.removesFirst then
    if linkGoal.2.isLink then return .fine
    if isSameLink && 1 < names && !isSameEntry then
      return if m.moves then .same else .fine
  if !linkSource.2.isLink && !linkGoal.2.isLink then
    if linkSource.1 ≠ linkGoal.1 then return .fine
    if m.making = .hardLink then return .done
  if m.moves && src.2.isLink && 1 < names then
    if let .ok (loc, _) := (← files).find (← call).here (toBytes source) then
      return if some loc = (← entryOf? goal) then .same else .fine
  if m.making = .symbolicLink && linkGoal.2.isLink then return .fine
  if m.following = .never then
    match ← stat source true, ← stat goal true with
    | .ok (a, _), .ok (b, _) =>
      if a ≠ b then return .fine
      if m.making = .hardLink then return if dst.2.isLink then .fine else .done
    | _, _ => return .fine
  return .same

/-- How it goes on after something that stood in the way has been dealt with. -/
inductive Clearance where
  | ends (isDone : Bool)
  /-- The way is free, or what stands there is written to. The path of the backup is told. -/
  | free (isNew : Bool) (backup : Option String)

/-- Deals with what stands in the way of a copy. -/
def clear (m : Manner) (isOperand : Bool) (source goal : String) (src dst : Nat × Node) :
    Copier Clearance := do
  let ends (act : Copier Bool) : Copier Clearance := do return .ends (← act)
  let sameness ← if m.replacing = .refused then pure .fine else sameness m source goal src dst
  if let .same := sameness then
    return ← ends (refuse (quoted source ++ " and " ++ quoted goal ++ " are the same file"))
  let isDirectory := src.2.isDirectory
  if m.isUpdate && !isDirectory then
    let files ← files
    let time (n : Nat) : Int := (files.changeOf? n).getD 0
    if time src.1 ≤ time dst.1 then return .ends true
  if m.moves || !isDirectory then
    match m.replacing with
    | .always => pure ()
    | .ifAsked => if !(← mayReplace m goal dst.2) then return .ends false
    | .refused =>
      if m.moves then return ← ends (refuse ("not replacing " ++ quoted goal))
      return .ends true
    | .never =>
      if m.explains then announce ("skipped " ++ quoted goal)
      return .ends true
  if let .done := sameness then return .ends true
  if !dst.2.isDirectory then
    if isDirectory && !(m.moves && m.backup.isSome) then
      return ← ends (refuse ("cannot overwrite non-directory " ++ quoted goal ++
        " with directory " ++ quoted source))
    let made := (← get).made
    let isJustMade := (← entryOf? goal).any fun loc => made.contains (loc, dst.1)
    if isOperand && isJustMade && !(m.backup.any (·.kind = .numbered)) then
      return ← ends (refuse ("will not overwrite just-created " ++ quoted goal ++ " with " ++
        quoted source))
  if !isDirectory && dst.2.isDirectory && !(m.moves && m.backup.isSome) then
    return ← ends (refuse ("cannot overwrite directory " ++ quoted goal ++ " with non-directory"))
  match m.backup with
  | some b =>
    if [".", ".."].contains (lastStep "" source) || (!m.moves && dst.2.isDirectory) then
      return .free false none
    let copy := Backup.renamed goal (toBytes (lastStep "" goal) ++ toBytes b.ending)
    let isOwnBackup := b.kind ≠ .numbered && source.endsWith b.ending &&
      ((← stat copy true).toOption.any fun (n, _) => n = src.1)
    if isOwnBackup then
      return ← ends (refuse ("backing up " ++ quoted goal ++ " might destroy source;  " ++
        quoted source ++ (if m.moves then " not moved" else " not copied")))
    match ← b.make goal with
    | .ok path => return .free true (some path)
    | .error .noEntry => return .free true none
    | .error e => return ← ends (refuseFor ("cannot backup " ++ quoted goal) e)
  | none =>
    let isReplaced := m.removesFirst ||
      (m.keepsLinks && 1 < (← files).nameCount dst.1) ||
      (m.following = .never && !src.2.isRegular)
    if dst.2.isDirectory || m.moves || !isReplaced then return .free false none
    let here := (← call).here
    match ← alter (·.removeFile here (toBytes goal)) with
    | none =>
      if m.isVerbose then announce ("removed " ++ quoted goal)
      return .free true none
    | some e => return ← ends (refuseFor ("cannot remove " ++ quoted goal) e)

/-- Undoes a backup after something went wrong. -/
def restore (m : Manner) (goal : String) : (backup : Option String) → Copier Unit
  | none => return
  | some path => do
    let here := (← call).here
    match ← alter (·.rename here (toBytes path) (toBytes goal)) with
    | none =>
      if m.isVerbose then announce (quoted path ++ " -> " ++ quoted goal ++ " (unbackup)")
    | some e => complain ("cannot un-backup " ++ quoted goal ++ ": " ++ e.message)

/-- Tells what is copied or moved where. -/
def announceRoute (m : Manner) (verb source goal : String) (backup : Option String) :
    Copier Unit := do
  if m.isVerbose then
    let kept := (backup.map fun path => " (backup: " ++ quoted path ++ ")").getD ""
    announce (verb ++ quoted source ++ " -> " ++ quoted goal ++ kept)

/-- The mode that a new copy gets. -/
def modeOfCopy (m : Manner) (mask mode usual : Nat) : Nat :=
  match m.mode with
  | .usual => mode &&& (Mode.all ^^^ mask)
  | .kept => mode
  | .dropped => masked usual mask

/-- Copies the content of a file. -/
def copyContent (m : Manner) (source goal : String) (src : Nat × Node) (isNew : Bool) :
    Copier Bool := do
  let call ← call
  let here := call.here
  let bytes := toBytes goal
  if !src.2.permits .read then
    return ← refuseFor ("cannot open " ++ quoted source ++ " for reading") .accessDenied
  match (← files).contentOf src.1 with
  | .error e => refuseFor ("cannot open " ++ quoted source ++ " for reading") e
  | .ok content =>
    -- a file that cannot be written to is removed on request
    let opened? : Except (String × Errno) (Option Nat) ←
      if isNew then pure (.ok none)
      else
        match (← files).openToWrite 0 (linkLimit + 1) here bytes, m.forces with
        | .ok (_, n), _ => pure (.ok (some n))
        | .error .noEntry, _ => pure (.ok none)
        | .error e, false => pure (.error ("cannot create regular file " ++ quoted goal, e))
        | .error _, true =>
          match ← alter (·.removeFile here bytes) with
          | none =>
            if m.isVerbose then announce ("removed " ++ quoted goal)
            pure (.ok none)
          | some .noEntry => pure (.ok none)
          | some e => pure (.error ("cannot remove " ++ quoted goal, e))
    match opened? with
    | .error (text, e) => refuseFor text e
    | .ok (some n) =>
      if !m.onlyAttributes then
        let _ ← alter fun fs => .ok (fs.setContent n content)
      finish n
    | .ok none =>
      if (← files).findEntry here bytes |>.isOk then
        return ← refuse ("not writing through dangling symlink " ++ quoted goal)
      let mode := modeOfCopy m call.mask src.2.mode freshFileMode
      let make (fs : FileSystem) : Except Errno FileSystem := do
        let (fs, n) ← fs.openToWrite mode (linkLimit + 1) here bytes
        match src.2, m.onlyAttributes with
        | .program native, false => return fs.alter n fun _ => .program native
        | _, true => return fs
        | _, _ => if content.isEmpty then return fs else return fs.setContent n content
      match ← alter make with
      | none =>
        match ← stat goal true with
        | .ok (n, _) => finish n
        | .error _ => return true
      | some e =>
        let e := if e = .isDirectory && goal.endsWith "/" then .notDirectory else e
        refuseFor ("cannot create regular file " ++ quoted goal) e
where
  /-- Gives the copy what it is to have of the source. -/
  finish (n : Nat) : Copier Bool := do
    if m.shares then
      return ← refuse ("failed to clone " ++ quoted goal ++ " from " ++ quoted source ++
        ": Operation not supported")
    if m.explains && !m.onlyAttributes then
      announce "copy offload: yes, reflink: unsupported, sparse detection: no"
    let mode := src.2.mode
    let keepMode (node : Node) : Node :=
      match node with
      | .file _ content => .file mode content
      | node => node
    let time := ((← files).changeOf? src.1).getD 0
    let _ ← alter fun fs =>
      let fs := if m.keepsTime then fs.touch n time else fs
      .ok (if m.mode = .kept then fs.alter n keepMode else fs)
    return true

/-- Whether a path names something in the current directory. -/
def isHere (path : String) : Job Bool := do
  let here := (← call).here
  match (← files).entry here (toBytes path) with
  | .ok (above, _) => return above = here
  | .error _ => return true

/-- Makes a link to a source instead of a copy, or copies a link. -/
def makeLink (m : Manner) (source goal : String) (src : Nat × Node) : Copier (Option Bool) := do
  match m.making, src.2 with
  | .symbolicLink, _ =>
    if !source.startsWith "/" && !(← isHere goal) then
      return some (← refuse (quotedName goal ++
        ": can make relative symbolic links only in current directory"))
    match ← linkSoftly (toBytes source) goal m.forces with
    | none => return some true
    | some e => return some (← refuseFor
        ("cannot create symbolic link " ++ quoted goal ++ " to " ++ quoted source) e)
  | .hardLink, _ =>
    match ← linkHard src.1 goal (m.forces || m.replacing = .ifAsked) with
    | .ok _ => return some true
    | .error e => return some (← refuseFor
        ("cannot create hard link " ++ quoted goal ++ " to " ++ quoted source) e)
  | .content, .link target =>
    match ← linkSoftly target goal m.forces with
    | none => return some true
    | some e => return some (← refuseFor ("cannot create symbolic link " ++ quoted goal) e)
  | .content, .device =>
    if m.readsDevices then return none
    return some (← refuseFor ("cannot create special file " ++ quoted goal) .notPermitted)
  | .content, _ => return none

mutual

/-- Copies what stands at a path to another one, with all that is in it. `top` are the source and
the goal of all, and `around` the directories that the source is in. -/
def copyNode (m : Manner) (top : String × String) :
    (depth : Nat) → (isOperand : Bool) → (around : List Nat) → (source goal : String) → Copier Bool
  | 0, _, _, _, _ => return false
  | depth + 1, isOperand, around, source, goal => do
    let call ← call
    let here := call.here
    let follows := m.following = .always || (isOperand && m.following = .operands)
    match ← stat source follows with
    | .error e => refuseFor ("cannot stat " ++ quoted source) e
    | .ok src =>
    let isDirectory := src.2.isDirectory
    if isDirectory && !m.isRecursive then
      return ← refuse ("-r not specified; omitting directory " ++ quoted source)
    if isOperand then
      modify fun memory => { memory with isInside := false, isIntoItself := false }
      let place := ((← files).findEntry here (toBytes source)).toOption.map (·.1)
      let isSeen := place.any (← get).sources.contains
      if !isDirectory && m.backup.isNone && isSeen then
        complain ("warning: source file " ++ quoted source ++ " specified more than once")
        return true
      modify fun memory => { memory with sources := place.toList ++ memory.sources }
    let goalFollows := src.2.isRegular && m.making = .content && m.backup.isNone &&
      !m.removesFirst
    let cleared ←
      match ← stat goal goalFollows with
      | .ok dst => clear m isOperand source goal src dst
      | .error .noEntry => pure (.free true none)
      | .error .tooManyLinks =>
        if m.forces then pure (.free false none)
        else pure (.ends (← refuseFor ("cannot stat " ++ quoted goal) .tooManyLinks))
      | .error e => pure (.ends (← refuseFor ("cannot stat " ++ quoted goal) e))
    match cleared with
    | .ends isDone => return isDone
    | .free isNew backup =>
    if !isDirectory then announceRoute m "" source goal backup
    let isLinked := m.keepsLinks && m.making ≠ .hardLink &&
      (1 < (← files).nameCount src.1 || (isOperand && follows))
    let earlier ←
      if m.isRecursive && isDirectory then
        if isOperand then remember src.1 goal else pure ((← get).copies.lookup src.1)
      else if isLinked then remember src.1 goal
      else pure none
    let isDone ←
      match earlier, isDirectory with
      | some path, true =>
        if ← areSameEntry source path then
          modify fun memory => { memory with isIntoItself := true }
          refuse ("cannot copy a directory, " ++ quoted top.1 ++ ", into itself, " ++ quoted top.2)
        else if ← areSameEntry goal path then
          complain ("warning: source directory " ++ quoted top.1 ++ " specified more than once")
          return true
        else if follows then copyDirectory m top depth isNew src around source goal
        else refuse ("will not create hard link " ++ quoted goal ++ " to directory " ++ quoted path)
      | some path, false =>
        match ← stat path false with
        | .error _ => refuseFor ("cannot create hard link " ++ quoted goal ++ " to " ++
            quoted path) .noEntry
        | .ok (n, _) =>
          match ← linkHard n goal true with
          | .ok isReplaced =>
            if isReplaced && m.isVerbose then announce ("removed " ++ quoted goal)
            return true
          | .error e => refuseFor ("cannot create hard link " ++ quoted goal ++ " to " ++
              quoted path) e
      | none, true => copyDirectory m top depth isNew src around source goal
      | none, false =>
        match ← makeLink m source goal src with
        | some isDone => pure isDone
        | none => copyContent m source goal src isNew
    if isOperand then
      if let .ok (loc, _) := (← files).findEntry here (toBytes goal) then
        if let some n := (← files).number? loc then
          modify fun memory => { memory with made := (loc, n) :: memory.made }
    if !isDone then restore m goal backup
    return isDone

/-- Copies a directory with all that is in it. -/
def copyDirectory (m : Manner) (top : String × String) :
    (depth : Nat) → (isNew : Bool) → (src : Nat × Node) → (around : List Nat) →
      (source goal : String) → Copier Bool
  | 0, _, _, _, _, _ => return false
  | depth + 1, isNew, src, around, source, goal => do
    let call ← call
    let here := call.here
    let bytes := toBytes goal
    if around.contains src.1 then
      return ← refuse ("cannot copy cyclic symbolic link " ++ quoted source)
    let mode := modeOfCopy m call.mask src.2.mode freshDirectoryMode
    if isNew then
      if let some e ← alter (·.makeDirectory here bytes (mode ||| 0o700)) then
        return ← refuseFor ("cannot create directory " ++ quoted goal) e
      if let .ok (n, _) ← stat goal false then
        if !(← get).isInside then
          let _ ← remember n goal
          modify fun memory => { memory with isInside := true }
      announceRoute m "" source goal none
    let files ← files
    let read : Except Errno (List Bytes) := do
      let _ ← files.list here (toBytes source)
      let (loc, _) ← files.find here (toBytes source)
      return files.numberedNamesIn loc
    let isDone ←
      match read with
      | .error e => refuseFor ("cannot access " ++ quoted source) e
      | .ok names =>
        let inner := if m.following = .operands then { m with following := .never } else m
        let done ← names.mapM fun name => do
          if (← get).isIntoItself then return false
          let name := byteText name
          copyNode inner top depth false (src.1 :: around) (Route.inside source name)
            (Route.inside goal name)
        pure (done.all id)
    let time := (files.changeOf? src.1).getD 0
    if let .ok (n, _) ← stat goal true then
      let _ ← alter fun fs =>
        let fs := if m.keepsTime then fs.touch n time else fs
        .ok (if isNew || m.mode = .kept then fs.alter n fun _ => .directory mode else fs)
    return isDone

end

/-- Gives what stands at a path another path. -/
def moveNode (m : Manner) (source goal : String) : Copier Bool := do
  let here := (← call).here
  let (bytes, goalBytes) := (toBytes source, toBytes goal)
  let rename (fs : FileSystem) := fs.rename here bytes goalBytes
  let gently (fs : FileSystem) : Except Errno FileSystem := do
    let _ ← fs.entry here goalBytes
    let _ ← fs.findEntry here bytes
    if (fs.findEntry here goalBytes).isOk then throw .alreadyThere
    rename fs
  let fault? ← alter gently
  let source? ← stat source false
  match fault?, source? with
  | none, _ => finish none
  | some .alreadyThere, .ok src =>
    match ← stat goal false with
    | .error e => refuseFor ("cannot stat " ++ quoted goal) e
    | .ok dst =>
      match ← clear m true source goal src dst with
      | .ends isDone => return isDone
      | .free _ backup =>
        match ← alter rename with
        | none => finish backup
        | some e =>
          let _ ← fail e
          restore m goal backup
          return false
  | some _, .error e => refuseFor ("cannot stat " ++ quoted source) e
  | some e, .ok _ =>
    match ← stat goal false with
    | .ok _ | .error .noEntry => fail e
    | .error e => refuseFor ("cannot stat " ++ quoted goal) e
where
  /-- Tells that it is done. -/
  finish (backup : Option String) : Copier Bool := do
    announceRoute m "renamed " source goal backup
    if let .ok (loc, _) := (← files).findEntry (← call).here (toBytes goal) then
      if let some n := (← files).number? loc then
        modify fun memory => { memory with made := (loc, n) :: memory.made }
    return true
  /-- Tells why it could not be done. -/
  fail (e : Errno) : Copier Bool := do
    if e = .invalid then
      refuse ("cannot move " ++ quoted source ++ " to a subdirectory of itself, " ++ quoted goal)
    else if [Errno.alreadyThere, .isDirectory, .notEmpty].contains e then
      refuseFor ("cannot overwrite " ++ quoted goal) e
    else refuseFor ("cannot move " ++ quoted source ++ " to " ++ quoted goal) e

end Copying

end PocketShell.Machine.Utility
