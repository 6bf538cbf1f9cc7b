import PocketShell.Machine.Mode
import PocketShell.Machine.Utility.Moment
import PocketShell.Machine.Utility.Route

/-!
# Utilities for files

Those that make, change and remove files and directories, and two that tell or write something
about them. Every operand is dealt with, whatever has become of those in front of it.
-/

namespace PocketShell.Machine.Utility

open Script (toBytes ofBytes byteText)
open Text (Bytes)
open Job

/-- Whether a directory stands at a path. -/
def isDirectoryAt (path : String) : Job Bool := do
  let here := (← call).here
  return ((← files).find here (toBytes path)).toOption.any fun (_, node) => node.isDirectory

/-! ## Modes -/

/-- The mode that a text asks for, in octal or as changes of the old mode. -/
def modeOf (mask old : Nat) (isDirectory : Bool) (text : String) : Option Nat :=
  match Mode.ofOctal? text with
  | some mode => if mode ≤ Mode.all then some mode else none
  | none => Mode.changed? .node mask old isDirectory text

/-- An argument that asks for a mode although it starts with a hyphen. -/
def isModeOption (s : String) : Bool :=
  match s.toList with
  | '-' :: c :: _ => "rwxXstugoa,+=01234567".toList.contains c
  | _ => false

/-- The options of `chmod`. -/
def modeChoices : List Choice :=
  [.flag 'R' ["recursive"], .flag 'v' ["verbose"], .flag 'c' ["changes"],
   .flag 'f' ["silent", "quiet"], .named '=' ["reference"] .needed]

/-- A mode as it is told. -/
def modeText (mode : Nat) : String := Mode.octalText mode ++ " (" ++ Mode.signs mode ++ ")"

/-- Changes the mode of what a path leads to. -/
def changeModeOf (r : Request) (newMode : (isDirectory : Bool) → Nat → Nat) (path : String) :
    Job Bool := do
  let call ← call
  let bytes := toBytes path
  let refuse (text : String) : Job Bool := do
    if !r.has 'f' then complain text
    return false
  match (← files).find call.here bytes with
  | .error e =>
    match (← files).findEntry call.here bytes with
    | .ok _ => refuse ("cannot operate on dangling symlink " ++ quoted path)
    | .error _ => refuse ("cannot access " ++ quoted path ++ ": " ++ e.message)
  | .ok (_, node) =>
    let mode := newMode node.isDirectory node.mode
    match ← alter (·.changeMode call.here bytes mode) with
    | some e =>
      if r.has 'v' then
        announce ("failed to change mode of " ++ quoted path ++ " from " ++ modeText node.mode ++
          " to " ++ modeText mode)
      refuse ("changing permissions of " ++ quoted path ++ ": " ++ e.message)
    | none =>
      if mode ≠ node.mode then
        if r.has 'v' || r.has 'c' then
          announce ("mode of " ++ quoted path ++ " changed from " ++ modeText node.mode ++
            " to " ++ modeText mode)
      else if r.has 'v' then
        announce ("mode of " ++ quoted path ++ " retained as " ++ modeText mode)
      return true

/-- Changes modes at a path and, on request, below it. -/
def changeModes (r : Request) (newMode : (isDirectory : Bool) → Nat → Nat) :
    (depth : Nat) → String → Job Bool
  | 0, _ => return false
  | depth + 1, path => do
    let isDone ← changeModeOf r newMode path
    let here := (← call).here
    match (← files).findEntry here (toBytes path) with
    | .ok (_, .directory _) =>
      if !r.has 'R' then return isDone
      match (← files).list here (toBytes path) with
      | .error e =>
        if !r.has 'f' then complain ("cannot read directory " ++ quoted path ++ ": " ++ e.message)
        return false
      | .ok names =>
        let done ← names.mapM fun name => do
          let inner := Route.inside path (byteText name)
          match (← files).findEntry here (toBytes inner) with
          | .ok (_, .link _) => return true
          | _ => changeModes r newMode depth inner
        return isDone && done.all id
    | _ => return isDone

/-- Changes the modes of files and directories. -/
def chmodJob : Job Int := do
  let arguments ← arguments
  let inFront := arguments.takeWhile (· ≠ "--")
  let hyphened := inFront.filter isModeOption
  let arguments := inFront.filter (!isModeOption ·) ++ arguments.drop inFront.length
  match Request.take modeChoices false none arguments with
  | .error complaint => misuse complaint
  | .ok r => do
    let call ← call
    let (text?, operands) :=
      match r.value? '=', hyphened with
      | some _, _ => (none, r.operands)
      | none, [] => (r.operands.head?, r.operands.tail)
      | none, hyphened => (some (",".intercalate hyphened), r.operands)
    let depth := (← files).depth
    match r.value? '=', text? with
    | some path, _ =>
      match (← files).find call.here (toBytes path) with
      | .error e =>
        complain ("failed to get attributes of " ++ quoted path ++ ": " ++ e.message)
        return 1
      | .ok (_, node) => forEach operands (changeModes r (fun _ _ => node.mode) depth)
    | none, none => misuse "missing operand"
    | none, some text =>
      if operands.isEmpty then
        match r.operands, hyphened with
        | mode :: _, _ => misuse ("missing operand after " ++ curly mode)
        | _, _ :: _ => misuse ("missing operand after " ++ curly (hyphened.getLastD ""))
        | _, _ => misuse "missing operand"
      else if (modeOf call.mask 0 false text).isNone then
        misuse ("invalid mode: " ++ curly text)
      else
        let newMode (mask : Nat) (isDirectory : Bool) (old : Nat) : Nat :=
          (modeOf mask old isDirectory text).getD old
        let status ← forEach operands (changeModes r (newMode call.mask) depth)
        if hyphened.isEmpty then return status
        -- what a mask kept as it was would have been changed without it
        let surprises ← operands.filterMapM fun path => do
          match (← files).find call.here (toBytes path) with
          | .error _ => return none
          | .ok (_, node) =>
            let naive := newMode 0 node.isDirectory node.mode
            if naive = node.mode then return none
            complain (quotedName path ++ ": new permissions are " ++ Mode.signs node.mode ++
              ", not " ++ Mode.signs naive)
            return some path
        return if surprises.isEmpty then status else 1

/-! ## Making -/

/-- Makes a directory with a mode, and tells of it on request. -/
def makeDirectoryAt (r : Request) (path : String) (mode : Nat) : Job (Option Errno) := do
  let here := (← call).here
  let fault ← alter (·.makeDirectory here (toBytes path) mode)
  if fault.isNone && r.has 'v' then announce ((← call).arguments.headD "" ++ ": created directory " ++ quoted path)
  return fault

/-- The paths to the directories in front of the last step of a path. -/
def pathsAbove (path : String) : List String :=
  let cs := (withoutEnd path).toList
  ((List.range cs.length).filter fun n =>
    n ≠ 0 && cs[n]? = some '/' && cs[n - 1]? ≠ some '/').map fun n => String.ofList (cs.take n)

/-- Makes the directories on a path. The answer is the first that could not be used, and why. -/
def makeAll (r : Request) (mode : Nat) : List String → Job (Option (String × Errno))
  | [] => return none
  | path :: rest => do
    let here := (← call).here
    let fault ← makeDirectoryAt r path mode
    match (← files).find here (toBytes path), fault with
    | .ok (_, node), _ =>
      if !node.isDirectory then return some (path, .notDirectory)
      if !node.permits .execute then return some (path, .accessDenied)
      makeAll r mode rest
    | .error .noEntry, some e => return some (path, e)
    | .error e, _ => return some (path, e)

/-- Makes directories. -/
def mkdirJob : Job Int :=
  withRequest [.flag 'p' ["parents"], .flag 'v' ["verbose"], .withValue 'm' ["mode"]] fun r =>
    needOperand r.operands "missing operand" do
      let call ← call
      let mode? :=
        match r.value? 'm' with
        | none => some (masked freshDirectoryMode call.mask)
        | some text => modeOf call.mask freshDirectoryMode true text
      match mode? with
      | none =>
        complain ("invalid mode " ++ curly ((r.value? 'm').getD ""))
        return 1
      | some mode =>
        forEach r.operands fun operand => do
          let refuse (path : String) (e : Errno) : Job Bool := do
            complain ("cannot create directory " ++ curly path ++ ": " ++ e.message)
            return false
          if r.has 'p' then
            let between := masked freshDirectoryMode call.mask ||| 0o300
            if let some (path, e) ← makeAll r between (pathsAbove operand) then
              return ← refuse path e
            match ← makeDirectoryAt r operand mode with
            | none => return true
            | some e => if ← isDirectoryAt operand then return true else refuse operand e
          else
            match ← makeDirectoryAt r operand mode with
            | none => return true
            | some e => refuse operand e

/-- The words for the times of a file: that of its last use, and that of its last change. -/
def timeWords : List (List String × Char) :=
  [(["atime", "access", "use"], 'a'), (["mtime", "modify"], 'm')]

/-- The options of `touch`. -/
def touchChoices : List Choice :=
  [.flag 'a' [], .flag 'c' ["no-create"], .flag 'm' [], .flag 'f' [],
   .flag 'h' ["no-dereference"], .withValue 'd' ["date"], .withValue 'r' ["reference"],
   .withValue 't' [], .named '=' ["time"] .needed]

/-- When files are to have been changed, if not now, or the status if that makes no sense. -/
def wantedTime (r : Request) : Job (Except Int (Option Int)) := do
  let call ← call
  let now : Int := (← get).current.now
  let stop (text : String) : Job (Except Int (Option Int)) := do
    complain text
    return .error 1
  for option in r.options do
    match option with
    | ('t', some s) =>
      if (Moment.ofDigits? s).isNone then return ← stop ("invalid date format " ++ curly s)
    | ('=', some s) =>
      if let .error complaint := Request.meaning "--time" timeWords s then
        return .error (← misuse complaint)
    | _ => pure ()
  let start? := (r.value? 't').bind Moment.ofDigits?
  if start?.isSome && (r.has 'd' || r.has 'r') then
    return .error (← misuse "cannot specify times from more than one source")
  let reference? ←
    match r.value? 'r' with
    | none => pure none
    | some path =>
      let files ← files
      match files.stat call.here (toBytes path) (!r.has 'h') with
      | .error e =>
        return ← stop ("failed to get attributes of " ++ quoted path ++ ": " ++ e.message)
      | .ok (n, _) => pure (files.changeOf? n)
  match r.value? 'd' with
  | none => return .ok (start?.or reference?)
  | some s =>
    match Moment.ofWords? (reference?.getD now) s with
    | some time => return .ok (some time)
    | none => stop ("invalid date format " ++ curly s)

/-- Whether a node belongs to the system. -/
def isForeign : Node → Bool
  | .program _ | .device => true
  | _ => false

/-- Makes files that are not there, and says when files were changed. -/
def touchJob : Job Int :=
  withRequest touchChoices fun r => do
    match ← wantedTime r with
    | .error status => return status
    | .ok time? =>
    let call ← call
    let words := (r.value? '=').bind fun s => (Request.meaning "" timeWords s).toOption
    let isUsed := r.has 'a' || words = some 'a'
    let isChanged := !isUsed || r.has 'm' || words = some 'm'
    needOperand r.operands "missing file operand" do
      forEach r.operands fun operand => do
        let bytes := toBytes operand
        let refuse (text : String) (e : Errno) : Job Bool := do
          complain (text ++ " " ++ quoted operand ++ ": " ++ e.message)
          return false
        let mark (n : Nat) : Job Unit := do
          if isChanged then
            let _ ← alter fun fs => .ok (fs.touch n (time?.getD fs.now))
        if operand = "-" then return true
        match (← files).stat call.here bytes (!r.has 'h') with
        | .ok (n, node) =>
          if !isForeign node then
            mark n
            return true
          else if time?.isSome then refuse "setting times of" .notPermitted
          else if node = .device then return true
          else refuse "cannot touch" .accessDenied
        | .error e =>
          if r.has 'h' || r.has 'c' then
            if r.has 'c' && e = .noEntry then return true else refuse "setting times of" e
          else
            let fs := (← get).current
            let mode := masked freshFileMode call.mask
            match fs.openToWrite mode (linkLimit + 1) call.here bytes with
            | .ok (files, n) =>
              modify ({ · with files })
              mark n
              return true
            | .error .isDirectory => refuse "setting times of" e
            | .error e => refuse "cannot touch" e

/-! ## Writing -/

/-- The path of the current directory as the environment has it, if that is right and has no
steps that stay or go up. -/
def knownDirectory? : Job (Option String) := do
  let call ← call
  let files ← files
  return (call.environment.lookup "PWD").filter fun path =>
    path.startsWith "/" && !(path.splitOn "/").any (fun s => s = "." || s = "..") &&
      (files.resolve call.here (toBytes path)).toOption = some call.here

/-- Writes the path of the current directory. -/
def pwdJob : Job Int :=
  withRequest [.flag 'L' ["logical"], .flag 'P' ["physical"]] fun r => do
    if !r.operands.isEmpty then complain "ignoring non-option arguments"
    let call ← call
    let isUsual := (call.environment.lookup "POSIXLY_CORRECT").isSome
    let isLogical := ((r.lastOf ['L', 'P']).map (· == 'L')).getD isUsual
    let known? ← if isLogical then knownDirectory? else pure none
    say (known?.getD (Script.physicalPath call.here) ++ "\n") 0

/-- The ways in which `tee` can go on after a fault. -/
def outputFaultModes : List (List String × Nat) :=
  [(["warn"], 0), (["warn-nopipe"], 1), (["exit"], 2), (["exit-nopipe"], 3)]

/-- Writes the input to the output and to files. -/
def teeJob : Job Int :=
  withRequest [.flag 'a' ["append"], .flag 'i' ["ignore-interrupts"], .flag 'p' [],
      .named '=' ["output-error"] .possible] fun r => do
    for s in r.values '=' do
      if let .error complaint := Request.meaning "--output-error" outputFaultModes s then
        return ← misuse complaint
    let call ← call
    let (bytes, fault) :=
      match ← input with
      | .ok bytes => (bytes, none)
      | .error e => ([], some e)
    let status ← forEach r.operands fun operand => do
      let make (fs : FileSystem) : Except Errno FileSystem := do
        let mode := masked freshFileMode call.mask
        let (fs, n) ← fs.openToWrite mode (linkLimit + 1) call.here (toBytes operand)
        let old := if r.has 'a' then (fs.contentOf n).toOption.getD [] else []
        return fs.setContent n (old ++ bytes)
      match ← alter make with
      | none => return true
      | some e =>
        complain (quotedName operand ++ ": " ++ e.message)
        return false
    let refusal ← write bytes
    if let some e := refusal then complain ("'standard output': " ++ e.message)
    match fault with
    | none => return if refusal.isSome then 1 else status
    | some e =>
      complain ("read error: " ++ e.message)
      if e = .badDescriptor then complain ("standard input: " ++ e.message)
      return 1

end PocketShell.Machine.Utility
