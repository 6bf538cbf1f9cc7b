import PocketShell.Machine.Utility.Copying

/-!
# Links

`ln` gives files more names, or makes symbolic links to them. These can lead from where they are
to where the path of the source leads.
-/

namespace PocketShell.Machine.Utility

open Script (toBytes byteText)
open Text (Bytes)
open Job

/-- The options of `ln`. -/
def linkChoices : List Choice :=
  Route.choices ++ Backup.choices ++
    [.flag 'd' ["directory"], .flag 'F' [], .flag 'f' ["force"], .flag 'i' ["interactive"],
     .flag 'L' ["logical"], .flag 'n' ["no-dereference"], .flag 'P' ["physical"],
     .flag 'r' ["relative"], .flag 's' ["symbolic"], .flag 'v' ["verbose"]]

/-- How links are made. -/
structure Linking where
  request : Request
  backup : Option Backup

namespace Linking

/-- Whether symbolic links are made. -/
def isSymbolic (l : Linking) : Bool := l.request.has 's'

/-- Whether what has the name of a link is replaced. Of two options, the last counts. -/
def forces (l : Linking) : Bool := l.request.lastOf ['f', 'i'] = some 'f'

/-- Whether it is asked first. -/
def asks (l : Linking) : Bool := l.request.lastOf ['f', 'i'] = some 'i'

/-- The way from one location to another. -/
def wayTo (start goal : Location) : Bytes :=
  let common := ((start.zip goal).takeWhile fun (a, b) => a = b).length
  let steps := List.replicate (start.length - common) up ++ goal.drop common
  if steps.isEmpty then stay else [slash].intercalate steps

/-- Where a path leads, as far as what is on the way is there. -/
def expected (fs : FileSystem) (here : Location) (path : Bytes) : Location :=
  match fs.resolve here path with
  | .ok loc => loc
  | .error _ =>
    (namedSteps path).foldl
      (fun loc step =>
        if step = stay then loc
        else if step = up then loc.dropLast
        else (fs.resolve loc step).toOption.getD (loc ++ [step]))
      (Machine.startOf here path)

/-- The target of a link from where it is to where the path of a source leads. -/
def targetOf (l : Linking) (source goal : String) : Job String := do
  if !l.request.has 'r' then return source
  let here := (← call).here
  let files ← files
  let above := expected files here (toBytes (directoryOf goal))
  return byteText (wayTo above (expected files here (toBytes source)))

/-- Makes a link to what a path names. -/
def make (l : Linking) (source goal : String) : Copier Bool := do
  let here := (← call).here
  let isSymbolic := l.isSymbolic
  let fail (text : String) : Copier Bool := Copying.refuse text
  let found ← Copying.stat source (isSymbolic || l.request.has 'L')
  match found, isSymbolic with
  | .error e, false => fail ("failed to access " ++ quoted source ++ ": " ++ e.message)
  | found, _ =>
  let place := ((← files).findEntry here (toBytes goal)).toOption
  let isDirectory := !isSymbolic && found.toOption.any fun (_, node) => node.isDirectory
  if isDirectory && !(l.request.has 'd' || l.request.has 'F') then
    return ← fail (quotedName source ++ ": hard link not allowed for directory")
  let target ← l.targetOf source goal
  let mut kept : Option String := none
  if l.forces || l.asks || l.backup.isSome then
    if let some (loc, node) := place then
      let number := ((← files).number? loc).getD 0
      if node.isDirectory then
        return ← fail (quotedName goal ++ ": cannot overwrite directory")
      if (← get).made.contains (loc, number) then
        return ← fail ("will not overwrite just-created " ++ quoted goal ++ " with " ++
          quoted target)
      let isSame := found.toOption.any (·.1 = number)
      let isLone := (← files).nameCount number = 1
      let minds := if isSymbolic then l.forces && l.backup.isNone else l.forces || l.backup.isSome
      if minds && isSame && (isLone || (← Copying.areSameEntry source goal)) then
        return ← fail (quoted target ++ " and " ++ quoted goal ++ " are the same file")
      if l.asks then
        if !(← ask ("replace " ++ quoted goal)) then return false
      if let some b := l.backup then
        match ← b.make goal with
        | .ok path => kept := some path
        | .error .noEntry => pure ()
        | .error e => return ← fail ("cannot backup " ++ quoted goal ++ ": " ++ e.message)
  let replaces := l.forces || l.asks || l.backup.isSome
  let fault ←
    if isSymbolic then
      if source.isEmpty then pure (some .noEntry)
      else Copying.linkSoftly (toBytes target) goal replaces
    else if isDirectory then pure (some .notPermitted)
    else
      match found with
      | .error e => pure (some e)
      | .ok (n, _) =>
        match ← Copying.linkHard n goal replaces with
        | .ok _ => pure none
        | .error e => pure (some e)
  match fault with
  | none =>
    if !isSymbolic then
      if let .ok (loc, _) := (← files).findEntry here (toBytes goal) then
        if let some n := (← files).number? loc then
          modify fun memory => { memory with made := (loc, n) :: memory.made }
    if l.request.has 'v' then
      let front := (kept.map fun path => quoted path ++ " ~ ").getD ""
      announce (front ++ quoted goal ++ (if isSymbolic then " -> " else " => ") ++ quoted target)
    return true
  | some e =>
    let names :=
      if isSymbolic then
        "symbolic link " ++ quoted goal ++
          if source.isEmpty || e = .nameTooLong then " -> " ++ quoted target else ""
      else
        "hard link " ++ quoted goal ++ if e = .alreadyThere then "" else " => " ++ quoted target
    complain ("failed to create " ++ names ++ ": " ++ e.message)
    if let some path := kept then
      if let some e ← alter (·.rename here (toBytes path) (toBytes goal)) then
        complain ("cannot un-backup " ++ quoted goal ++ ": " ++ e.message)
    return false

end Linking

/-- Finds out where links are made, if the call makes sense. A single operand is linked to from the
current directory. -/
def linkRoute (r : Request) : Job (Except Int Route) :=
  Route.checkGoals r do
    let here := (← call).here
    if let some goal := r.value? 't' then
      match (← files).find here (toBytes goal) with
      | .error e => return ← Route.stop ("failed to access " ++ quoted goal ++ ": " ++ e.message)
      | .ok (_, node) =>
        if !node.isDirectory then
          return ← Route.stop ("target " ++ quoted goal ++ " is not a directory")
    if r.operands.isEmpty then return ← Route.refuse "missing file operand"
    if r.has 'r' && !r.has 's' then
      return ← Route.stop "cannot do --relative without --symbolic"
    match r.value? 't', r.operands with
    | some goal, operands =>
      if r.has 'T' then
        Route.stop "cannot combine --target-directory and --no-target-directory"
      else return .ok ⟨operands, goal, true⟩
    | none, operands =>
      if r.has 'T' then
        match operands with
        | [source, goal] => return .ok ⟨[source], goal, false⟩
        | [source] => Route.refuse ("missing destination file operand after " ++ quoted source)
        | _ => Route.refuse ("extra operand " ++ quoted (operands.getD 2 ""))
      else if operands.length < 2 then return .ok ⟨operands, ".", true⟩
      else
        let goal := operands.getLastD ""
        match ← Route.directoryFault goal (!r.has 'n'), operands with
        | none, _ => return .ok ⟨operands.dropLast, goal, true⟩
        | some _, [source, _] => return .ok ⟨[source], goal, false⟩
        | some e, _ => Route.stop ("target " ++ quoted goal ++ ": " ++ e.message)

/-- Makes links. -/
def lnJob : Job Int :=
  withRequest linkChoices fun r => do
    match ← linkRoute r with
    | .error status => return status
    | .ok route =>
      match ← Backup.ofRequest r with
      | .error complaint => misuse complaint
      | .ok backup =>
        let l : Linking := ⟨r, backup⟩
        let remembers := l.forces && !l.isSymbolic && !(backup.any (·.kind = .numbered)) &&
          route.isInside && 1 < route.sources.length
        let mut memory := Memory.empty
        let mut isDone := true
        for source in route.sources do
          let goal :=
            if route.isInside then Route.inside route.goal (Route.nameOf source) else route.goal
          let (done, after) ← (l.make source goal).run memory
          isDone := isDone && done
          memory := if remembers then after else Memory.empty
        return if isDone then 0 else 1

end PocketShell.Machine.Utility
