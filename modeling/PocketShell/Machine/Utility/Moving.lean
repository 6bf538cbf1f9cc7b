import PocketShell.Machine.Utility.Copying

/-!
# Utilities that copy and move files

`cp` and `mv`: what their options ask for, and how they go through their sources.
-/

namespace PocketShell.Machine.Utility

open Script (toBytes)
open Job

/-- The words for what is to be kept of a source. -/
def attributeWords : List (List String × Char) :=
  [(["mode"], 'm'), (["timestamps"], 't'), (["ownership"], 'o'), (["links"], 'l'),
   (["context"], 'c'), (["xattr"], 'x'), (["all"], 'a')]

/-- The words for when something that stands in the way is replaced. -/
def updateWords : List (List String × Char) :=
  [(["all"], 'a'), (["none"], 'n'), (["older"], 'o')]

/-- The words for when the content of a file is shared. -/
def sharingWords : List (List String × Char) :=
  [(["auto"], 'u'), (["always"], 'a'), (["never"], 'n')]

/-- The words for when gaps are made in a file. -/
def gapWords : List (List String × Char) := [(["never"], 'n'), (["auto"], 'u'), (["always"], 'a')]

/-- The options of `cp` and `mv` alike. -/
def commonChoices : List Choice :=
  Route.choices ++ Backup.choices ++
    [.flag 'f' ["force"], .flag 'i' ["interactive"], .flag 'n' ["no-clobber"],
     .flag 'u' [], .named 'U' ["update"] .possible, .flag 'v' ["verbose"],
     .named '!' ["debug"] .none, .named '/' ["strip-trailing-slashes"] .none,
     .flag 'Z' []]

/-- The options of `cp`. -/
def copyChoices : List Choice :=
  commonChoices ++
    [.flag 'a' ["archive"], .named '@' ["attributes-only"] .none, .flag 'd' [],
     .named '%' ["copy-contents"] .none, .flag 'H' [], .flag 'l' ["link"],
     .flag 'L' ["dereference"], .named '-' ["no-preserve"] .needed,
     .flag 'P' ["no-dereference"], .flag 'p' [], .named '=' ["preserve"] .possible,
     .named '^' ["parents"] .none, .flag 'R' ["recursive"], .flag 'r' [],
     .named 'D' ["remove-destination"] .none, .named '&' ["reflink"] .possible,
     .named '*' ["sparse"] .needed, .flag 's' ["symbolic-link"],
     .flag 'x' ["one-file-system"], .named 'K' ["keep-directory-symlink"] .none,
     .named 'Y' ["context"] .possible]

namespace Manner

/-- How files are copied if nothing is said. -/
def plain : Manner :=
  { moves := false, isRecursive := false, following := .always, making := .content
    replacing := .always, backup := none, isUpdate := false, removesFirst := false
    forces := false, mode := .usual, keepsTime := false, keepsLinks := false
    onlyAttributes := false, shares := false, readsDevices := false, isVerbose := false
    explains := false }

/-- Takes notice of attributes that are kept, or not. -/
def keep (m : Manner) (isKept : Bool) (words : String) : Except String Manner := do
  let option := if isKept then "--preserve" else "--no-preserve"
  let set (m : Manner) (c : Char) : Manner :=
    let mode := if isKept then Keeping.kept else .dropped
    match c with
    | 'm' => { m with mode }
    | 't' => { m with keepsTime := isKept }
    | 'l' => { m with keepsLinks := isKept }
    | 'a' => { m with mode, keepsTime := isKept, keepsLinks := isKept }
    | _ => m
  (words.splitOn ",").foldlM (fun m word => do
    return set m (← Request.meaning option attributeWords word)) m

/-- Takes notice of an option that `cp` and `mv` have alike. -/
def withCommon (m : Manner) : Char × Option String → Except String Manner
  | ('i', _) => .ok { m with replacing := .ifAsked }
  | ('n', _) => .ok { m with replacing := .refused }
  | ('u', _) => .ok { m with isUpdate := true }
  | ('U', none) => .ok { m with isUpdate := true }
  | ('U', some word) =>
    if m.replacing = .refused then .ok m
    else do
      match ← Request.meaning "--update" updateWords word with
      | 'n' => return { m with isUpdate := false, replacing := .never }
      | 'o' => return { m with isUpdate := true, replacing := .always }
      | _ => return { m with isUpdate := false, replacing := .always }
  | ('v', _) => .ok { m with isVerbose := true }
  | ('!', _) => .ok { m with isVerbose := true, explains := true }
  | _ => .ok m

/-- Takes notice of an option of `cp`. -/
def withCopyOption (m : Manner) : Char × Option String → Except String Manner
  | ('a', _) =>
    .ok { m with
      following := .never, keepsLinks := true, mode := .kept, keepsTime := true
      isRecursive := true }
  | ('d', _) => .ok { m with following := .never, keepsLinks := true }
  | ('H', _) => .ok { m with following := .operands }
  | ('L', _) => .ok { m with following := .always }
  | ('P', _) => .ok { m with following := .never }
  | ('p', _) | ('=', none) => .ok { m with mode := .kept, keepsTime := true }
  | ('=', some words) => m.keep true words
  | ('-', some words) => m.keep false words
  | ('l', _) => .ok { m with making := .hardLink }
  | ('s', _) => .ok { m with making := .symbolicLink }
  | ('f', _) => .ok { m with forces := true }
  | ('D', _) => .ok { m with removesFirst := true }
  | ('@', _) => .ok { m with onlyAttributes := true }
  | ('&', none) => .ok { m with shares := true }
  | ('&', some word) => do
    return { m with shares := (← Request.meaning "--reflink" sharingWords word) == 'a' }
  | ('*', some word) => do
    let _ ← Request.meaning "--sparse" gapWords word
    return m
  | option => m.withCommon option

/-- How files are copied as a request says. -/
def ofCopyRequest (r : Request) : Except String Manner := do
  let isRecursive := ['a', 'r', 'R'].any r.has
  let isLinking := r.has 'l'
  let following := if isRecursive && !isLinking then Following.never else .always
  let m ← r.options.foldlM withCopyOption { plain with following, isRecursive }
  let isReplacedFirst := m.forces && (r.has 'l' || r.has 's')
  return { m with
    readsDevices := !isRecursive || r.has '%', removesFirst := m.removesFirst || isReplacedFirst
    isUpdate := m.isUpdate && m.replacing ≠ .refused }

/-- How files are moved as a request says. -/
def ofMoveRequest (r : Request) : Except String Manner := do
  let step (m : Manner) : Char × Option String → Except String Manner
    | ('f', _) => .ok { m with replacing := .always }
    | option => m.withCommon option
  let m ← r.options.foldlM step { plain with moves := true, following := .never, isRecursive := true }
  return { m with isUpdate := m.isUpdate && m.replacing ≠ .refused }

end Manner

/-- Makes the directories that a source is in, below a goal, unless they are there. The answer tells
whether that could be done. -/
def makeParents (m : Manner) (goal source : String) : Job Bool := do
  let here := (← call).here
  let cs := (withoutEnd source).toList
  let ends := (List.range cs.length).filter fun n =>
    cs[n]? = some '/' && n ≠ 0 && cs[n - 1]? ≠ some '/'
  for n in ends do
    let part := String.ofList (cs.take n)
    let made := Route.inside goal part
    match (← files).find here (toBytes made) with
    | .ok (_, node) =>
      if !node.isDirectory then
        complain (quoted made ++ " exists but is not a directory")
        return false
    | .error _ =>
      let files ← files
      let attributes : Except Errno Node := do
        let (_, node) ← files.find here (toBytes part)
        if node.isDirectory then return node else throw .notDirectory
      match attributes with
      | .error e =>
        complain ("failed to get attributes of " ++ quoted part ++ ": " ++ e.message)
        return false
      | .ok node =>
        let mode := Copying.modeOfCopy m (← call).mask node.mode freshDirectoryMode
        match ← alter (·.makeDirectory here (toBytes made) mode) with
        | none => if m.isVerbose then announce (part ++ " -> " ++ made)
        | some e =>
          complain ("cannot make directory " ++ quoted made ++ ": " ++ e.message)
          return false
  return true

/-- Goes through the sources of a call. -/
def alongRoute (route : Route) (act : (source goal : String) → Copier Bool) : Job Int := do
  let mut isDone := true
  let mut memory := Memory.empty
  for source in route.sources do
    let name := Route.nameOf source
    let name := if name = ".." then "." else name
    let goal := if route.isInside then Route.inside route.goal name else route.goal
    let (done, after) ← (act source goal).run memory
    isDone := isDone && done
    -- with a single source nothing can be met again
    memory := if 1 < route.sources.length then after else Memory.empty
  return if isDone then 0 else 1

/-- What is done with a request whose options make sense. -/
def withManner (r : Request) (manner : Except String Manner) (act : Manner → Job Int) :
    Job Int := do
  match manner with
  | .error complaint => misuse complaint
  | .ok m =>
    match ← Backup.ofRequest r with
    | .error complaint => misuse complaint
    | .ok backup =>
      if m.moves && ['b', '~', 'S'].any r.has && m.replacing = .refused then
        misuse "options --backup and --no-clobber are mutually exclusive"
      else act { m with backup }

/-- The sources of a route as a request wants them. -/
def strippedSources (r : Request) (route : Route) : Route :=
  if r.has '/' then { route with sources := route.sources.map withoutEnd } else route

/-- Copies a file to the path that its backup would have. -/
def copyToBackup (m : Manner) (b : Backup) (depth : Nat) (source : String) : Job Int := do
  match ← b.pathFor source with
  | .error _ => return 1
  | .ok goal =>
    let isDone ← (Copying.copyNode m (source, goal) depth true [] source goal).run' Memory.empty
    return if isDone then 0 else 1

/-- Copies files, and directories on request. -/
def cpJob : Job Int :=
  withRequest copyChoices fun r => do
    if r.has 'n' then
      complain ("warning: behavior of -n is non-portable and may change in future; " ++
        "use --update=none instead")
    if (r.value? 'Y').isSome then
      complain "warning: ignoring --context; it requires an SELinux-enabled kernel"
    withManner r (Manner.ofCopyRequest r) fun m => do
      if r.has 'l' && r.has 's' then return ← misuse "cannot make both hard and symbolic links"
      match ← Route.ofRequest r with
      | .error status => return status
      | .ok route =>
        let route := strippedSources r route
        if r.has '^' && !route.isInside then
          return ← misuse "with --parents, the destination must be a directory"
        let depth := 2 * (← files).nodes.length + 4
        if let (some b, [source]) := (m.backup, route.sources) then
          if m.forces && !route.isInside && source = route.goal then
            if let .ok (_, node) ← (Copying.stat source true).run' Memory.empty then
              if node.isRegular then
                return ← copyToBackup { m with backup := none } b depth source
        alongRoute route fun source goal => do
          if r.has '^' then
            if !(← makeParents m route.goal source) then return false
            let goal := Route.inside route.goal (withoutEnd source)
            Copying.copyNode m (source, goal) depth true [] source goal
          else Copying.copyNode m (source, goal) depth true [] source goal

/-- Gives files and directories other names. -/
def mvJob : Job Int :=
  withRequest (commonChoices ++ [.named 'N' ["no-copy"] .none, .named 'Y' ["context"] .none])
    fun r =>
    withManner r (Manner.ofMoveRequest r) fun m => do
      match ← Route.ofRequest r with
      | .error status => return status
      | .ok route => alongRoute (strippedSources r route) (Copying.moveNode m)

end PocketShell.Machine.Utility
