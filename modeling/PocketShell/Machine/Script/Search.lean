import PocketShell.Machine.Interpreter
import PocketShell.Machine.Script.Builtin
import PocketShell.Machine.Script.Redirecting
import PocketShell.Machine.SearchPath

/-!
# Looking for commands

What a name stands for as a command. Programs are looked for in the directories of the search
path, and where one was found is remembered.
-/

namespace PocketShell.Machine.Script

open Act

/-- Whether a name says where a program is. -/
def isPath (name : String) : Bool := name.toList.contains '/'

/-- The paths to try for a program, with the elements of the search path that they come from, or
why there is none. One of them has to be a program that may be executed before any is tried. -/
def programPaths (p : Process) (files : FileSystem) (here : Location) (path? : Option String)
    (name : String) : Except Errno (List (String × Nat)) :=
  if isPath name then .ok [(name, 0)]
  else
    let look (path : String) := files.executable here (toBytes path)
    let elements := (path?.map SearchPath.elements).getD p.searchPath
    let paths := elements.zipIdx.map fun (d, n) => (SearchPath.below d name, n)
    match paths.dropWhile fun (path, _) => !(look path).toBool with
    | [] =>
      let errors := paths.filterMap fun (path, _) =>
        match look path with
        | .error e => some e
        | .ok _ => none
      .error ((errors.reverse.find? (!·.isAbsence)).getD .noEntry)
    | paths => .ok paths

/-- Remembers where a program was found. -/
def remember (name : String) (finding : Finding) : Act Unit :=
  change fun p =>
    if (p.found.lookup name).isSome then
      { p with found := p.found.map fun (n, f) => (n, if n = name then finding else f) }
    else { p with found := p.found ++ [(name, finding)] }

/-- The paths to try for a program. One that was found before is looked for from there on. -/
def findProgram (path? : Option String) (name : String) : Act (Except Errno (List String)) := do
  let p ← process
  let files := (← system).files
  let known := if path?.isSome then none else (p.found.lookup name).filter (!·.isStale)
  match known with
  | some f => return .ok ((p.searchPath.drop f.element).map (SearchPath.below · name))
  | none =>
    match programPaths p files (← here) path? name with
    | .error e =>
      change fun p => { p with found := p.found.filter (·.1 ≠ name) }
      return .error e
    | .ok found =>
      if let (path, element) :: _ := found then
        if !isPath name && path?.isNone then remember name ⟨path, element, false⟩
      return .ok (found.map (·.1))

/-- What a name stands for as a command. -/
inductive Meaning where
  | keyword
  | alias (value : String)
  | function
  | builtin
  | program (path : String) (isKnown : Bool)
  | nothing

/-- The commands of the shell itself that `builtin?` does not know. -/
def furtherCommands : List String :=
  [".", "bg", "command", "eval", "exec", "fg", "hash", "jobs", "type", "ulimit", "wait"]

/-- Whether a name is that of a command of the shell itself. -/
def isBuiltin (name : String) : Bool := furtherCommands.contains name || (builtin? name).isSome

/-- What a name stands for. What is found on the usual search path is remembered. -/
def meaningOf (path? : Option String) (name : String) : Act Meaning := do
  let p ← process
  let files := (← system).files
  if keywords.contains name then return .keyword
  if let some value := p.aliases.lookup name then return .alias value
  if (p.functions.lookup name).isSome then return .function
  if isBuiltin name then return .builtin
  if let some f := p.found.lookup name then return .program f.path true
  if isPath name then
    let found := files.find (← here) (toBytes name)
    return if found.toBool then .program name false else .nothing
  match ← findProgram path? name with
  | .ok (path :: _) => return .program path false
  | _ => return .nothing

/-- Tells what a name stands for: all about it, or only what a script needs. -/
def tellMeaning (path? : Option String) (isVerbose : Bool) (name : String) : Act Bool := do
  let verbose (s : String) := if isVerbose then name ++ " is " ++ s else name
  let meaning ← meaningOf path? name
  let line :=
    match meaning with
    | .keyword => verbose "a shell keyword"
    | .alias value =>
      if isVerbose then name ++ " is an alias for " ++ value
      else "alias " ++ name ++ "=" ++ singleQuoted value
    | .function => verbose "a shell function"
    | .builtin =>
      verbose
        (if specialCommands.contains name then "a special shell builtin" else "a shell builtin")
    | .program path isKnown =>
      if isVerbose then name ++ " is " ++ (if isKnown then "a tracked alias for " else "") ++ path
      else path
    | .nothing => name ++ ": not found"
  let isFound := match meaning with | .nothing => false | _ => true
  if isFound || isVerbose then
    let _ ← write 1 (line ++ "\n")
  return isFound

/-- Tells what names stand for. -/
def tellMeanings (path? : Option String) (isVerbose : Bool) (names : List String) : Act Unit := do
  let told ← names.mapM (tellMeaning path? isVerbose)
  finish (if told.all id then 0 else 127)

/-- Looks for programs by their names, or shows where programs were found. -/
def tellFound (arguments : List String) : Act Unit := do
  let (options, names) ← takeFlags "r" arguments
  if !options.isEmpty then
    change fun p => { p with found := [] }
    finish 0
  else if names.isEmpty then
    let lines := (Process.inRows 31 (← process).found).map fun (_, f) =>
      f.path ++ (if f.isStale then "*" else "") ++ "\n"
    say (String.join lines) 0
  else
    let mut status := 0
    for name in names do
      let isKnown := ((← process).functions.lookup name).isSome || isBuiltin name
      if !isKnown then
        change fun p => { p with found := p.found.filter (·.1 ≠ name) }
        if let .error e ← findProgram none name then
          warn (name ++ ": " ++ openMessage "not found" e)
          status := 1
    finish status

end PocketShell.Machine.Script
