import PocketShell.Machine.Utility.Files

/-!
# Utilities that remove files and directories

`rmdir` removes empty directories, `rm` files and, on request, directories with all that is in
them. What is asked before goes by the last of the options that say so.
-/

namespace PocketShell.Machine.Utility

open Script (toBytes byteText)
open Text (Bytes)
open Job

/-- Removes the directories above one that was removed, as far as they are empty. -/
def removeAbove (r : Request) : List String → Job Bool
  | [] => return true
  | path :: rest => do
    let here := (← call).here
    if r.has 'v' then announce ((← call).arguments.headD "" ++ ": removing directory, " ++ quoted path)
    match ← alter (·.removeDirectory here (toBytes path)) with
    | none => removeAbove r rest
    | some e =>
      if e = .notEmpty && r.has '!' then return true
      complain ("failed to remove directory " ++ quoted path ++ ": " ++ e.message)
      return false

/-- Removes empty directories. -/
def rmdirJob : Job Int :=
  withRequest [.flag 'p' ["parents"], .flag 'v' ["verbose"],
      .named '!' ["ignore-fail-on-non-empty"] .none] fun r =>
    needOperand r.operands "missing operand" do
      let here := (← call).here
      forEach r.operands fun operand => do
        if r.has 'v' then announce ((← call).arguments.headD "" ++ ": removing directory, " ++ quoted operand)
        match ← alter (·.removeDirectory here (toBytes operand)) with
        | none =>
          if r.has 'p' then removeAbove r (pathsAbove operand).reverse else return true
        | some e =>
          if e = .notEmpty && r.has '!' then return true
          let files ← files
          let isRefused := (files.findEntry here (toBytes (withoutEnd operand))).toOption.any
            fun (_, node) => node.isLink
          let reason :=
            if e = .notDirectory && operand.endsWith "/" && isRefused then
              "Symbolic link not followed"
            else e.message
          complain ("failed to remove " ++ quoted operand ++ ": " ++ reason)
          return false

/-- What something is called in a question. -/
def kindName : Node → String
  | .directory _ => "directory"
  | .file _ [] => "regular empty file"
  | .file .. | .program _ => "regular file"
  | .link _ => "symbolic link"
  | .device => "character special file"

/-- The words for when it is asked before something is removed. -/
def askingWords : List (List String × Char) :=
  [(["never", "no", "none"], 'n'), (["once"], 'I'), (["always", "yes"], 'i')]

/-- Removes what stands below a path, and then the path itself. `asks` tells whether it is asked
before anything is removed. -/
def removeTree (r : Request) (asks : Bool) : (depth : Nat) → String → Job Bool
  | 0, _ => return false
  | depth + 1, path => do
    let here := (← call).here
    let bytes := toBytes path
    let refuse (e : Errno) : Job Bool := do
      complain ("cannot remove " ++ quoted path ++ ": " ++ e.message)
      return false
    match (← files).findEntry here bytes with
    | .error e => refuse e
    | .ok (_, node) =>
      let kind := (if node.isLink || node.permits .write then "" else "write-protected ") ++
        kindName node ++ " " ++ quoted path
      if node.isDirectory then
        let names := (← files).list here bytes
        let isEmpty := names.toOption.all List.isEmpty
        if asks && !isEmpty then
          if !(← ask ("descend into " ++ kind)) then return true
        let done ← (names.toOption.getD []).mapM fun name =>
          removeTree r asks depth (Route.inside path (byteText name))
        if !done.all id then return false
        if asks then if !(← ask ("remove " ++ kind)) then return true
        match ← alter (·.removeDirectory here bytes), names with
        | none, _ =>
          if r.has 'v' then announce ("removed directory " ++ quoted path)
          return true
        | some .notEmpty, .error e => refuse e
        | some .notEmpty, _ => if asks then return true else refuse .notEmpty
        | some e, _ => refuse e
      else
        if asks then if !(← ask ("remove " ++ kind)) then return true
        match ← alter (·.removeFile here bytes) with
        | none =>
          if r.has 'v' then announce ("removed " ++ quoted path)
          return true
        | some e => refuse e

/-- The options of `rm`. -/
def removalChoices : List Choice :=
  [.flag 'f' ["force"], .flag 'i' [], .flag 'I' [], .named '?' ["interactive"] .possible,
   .named 'x' ["one-file-system"] .none, .named '!' ["no-preserve-root"] .none,
   .named '/' ["preserve-root"] .possible, .flag 'r' ["recursive"], .flag 'R' [],
   .flag 'd' ["dir"], .flag 'v' ["verbose"]]

/-- What is asked before something is removed, and whether what is not there counts. -/
structure Asking where
  /-- It is asked about everything. -/
  always : Bool
  /-- It is asked once, if much is to be removed. -/
  once : Bool
  ignoresMissing : Bool

/-- What is asked after one more option. -/
def Asking.after (a : Asking) : Char × Option String → Except String Asking
  | ('f', _) => .ok ⟨false, false, true⟩
  | ('i', _) | ('?', none) => .ok ⟨true, false, false⟩
  | ('I', _) => .ok ⟨false, true, false⟩
  | ('?', some s) => do
    match ← Request.meaning "--interactive" askingWords s with
    | 'n' => return ⟨false, false, a.ignoresMissing⟩
    | 'I' => return ⟨false, true, false⟩
    | _ => return ⟨true, false, false⟩
  | _ => .ok a

/-- Complains about a call. A word that starts like options may have been meant as a file. -/
def misuseOfRemoval (words : List String) (complaint : String) : Job Int := do
  let here := (← call).here
  let files ← files
  let isMeant (s : String) : Bool :=
    s.startsWith "-" && s ≠ "-" && s ≠ "--" && (files.findEntry here (toBytes s)).toBool
  match words.find? isMeant with
  | some s =>
    complain complaint
    let call ← call
    modify (call.write 2 ("Try '" ++ call.arguments.headD "" ++ " ./" ++ s ++
      "' to remove the file " ++ quoted s ++ ".\n" ++ (← hint) ++ "\n"))
    return 1
  | none => misuse complaint

/-- Removes what an operand names. -/
def removeOperand (r : Request) (asking : Asking) (operand : String) : Job Bool := do
  let here := (← call).here
  let isRecursive := r.has 'r' || r.has 'R'
  let refuse (e : Errno) : Job Bool := do
    complain ("cannot remove " ++ quoted operand ++ ": " ++ e.message)
    return false
  match (← files).findEntry here (toBytes operand) with
  | .error e => if asking.ignoresMissing && e.isAbsence then return true else refuse e
  | .ok (loc, node) =>
    let isEmpty := ((← files).list here (toBytes operand)).toOption.all List.isEmpty
    if !node.isDirectory then removeTree r asking.always ((← files).depth) operand
    else if !isRecursive && !r.has 'd' then refuse .isDirectory
    else if isRecursive && loc = [] then
      complain "it is dangerous to operate recursively on '/'"
      complain "use --no-preserve-root to override this failsafe"
      return false
    else if isRecursive && [".", ".."].contains (lastStep "" operand) then
      complain ("refusing to remove '.' or '..' directory: skipping " ++ quoted operand)
      return false
    else if !isRecursive && !isEmpty then refuse .notEmpty
    else removeTree r asking.always ((← files).depth) operand

/-- Removes files, and directories on request. -/
def rmJob : Job Int := do
  let words ← arguments
  match Request.take removalChoices false none words with
  | .error complaint => misuseOfRemoval words complaint
  | .ok r =>
    match r.options.foldlM Asking.after ⟨false, false, false⟩ with
    | .error complaint => misuse complaint
    | .ok asking =>
      if let some s := (r.values '/').find? (· ≠ "all") then
        complain ("unrecognized --preserve-root argument: " ++ quoted s)
        return 1
      if r.operands.isEmpty && asking.ignoresMissing then return 0
      needOperand r.operands "missing operand" do
        let count := r.operands.length
        let isRecursive := r.has 'r' || r.has 'R'
        if asking.once && (isRecursive || 3 < count) then
          let question := "remove " ++ toString count ++
            (if count = 1 then " argument" else " arguments") ++
            if isRecursive then " recursively" else ""
          if !(← ask question) then return 0
        forEach r.operands (removeOperand r asking)

end PocketShell.Machine.Utility
