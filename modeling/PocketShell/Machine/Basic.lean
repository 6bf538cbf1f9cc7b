import PocketShell.Host
import PocketShell.Machine.Programs

/-!
# The machine

A machine in memory: a file system, the directory that relative paths start from, and the
environment of the programs. It is a host for the shell, and its state is the file system.
-/

namespace PocketShell

open Text (Bytes encode)

namespace Machine

/-- The directory that programs run in. -/
def workPlace : Location := [encode "tmp", encode "work"]

/-- The location of a path of plain steps below the root. -/
def placeOf (path : String) : Location := namedSteps (encode path)

/-- The directories of the system. -/
def systemDirectories : List String :=
  ["dev", "etc", "home", "usr", "usr/bin", "usr/lib", "usr/local", "usr/local/bin",
   "usr/local/lib", "usr/local/sbin", "usr/sbin", "usr/share", "var"]

/-- The names of the shell. -/
def shellNames : List String := ["sh", "dash"]

/-- The files that every machine has: its programs, the null device, the directories of the
system, one that anyone may write to, and in that the one that programs run in. The home of the
guest is not among them. -/
def initial : FileSystem :=
  let put (files : FileSystem) (path : String) (node : Node) := files.put (placeOf path) node
  let files := systemDirectories.foldl (put · · (.directory systemMode)) .empty
  let files := put files "root" (.directory 0)
  let files := put files "tmp" (.directory 0o777)
  let files := files.put workPlace (.directory 0o755)
  let files := [("bin", "usr/bin"), ("lib", "usr/lib"), ("sbin", "usr/sbin")].foldl
    (fun files (path, target) => put files path (.link (encode target))) files
  let shells := shellNames.map (·, Native.shell)
  let utilities := Utility.named.map fun (name, u) => (name, Native.utility u)
  let files := (shells ++ utilities).foldl
    (fun files (name, native) => put files ("usr/bin/" ++ name) (.program native)) files
  put files "dev/null" .device

/-- The host that a machine with an environment is. Files are looked up from `workPlace`. A program
has run to its end before it can be asked what its process is called. -/
def host (environment : List (String × String)) : Host FileSystem where
  present files path := (files.find workPlace (encode path)).toOption.isSome
  list files path := files.list workPlace (encode path)
  searchPath := SearchPath.elements ((environment.lookup "PATH").getD SearchPath.usual)
  execute files path arguments :=
    let call : Call :=
      { arguments := arguments.map Script.seenText
        environment := environment.map fun (name, value) =>
          (Script.seenText name, Script.seenText value)
        here := workPlace, descriptors := System.firstDescriptors, mask := usualMask, ignored := []
        process := System.firstProcess, caller := System.firstProcess - 1 }
    (execute nestingLimit (System.start files) (Script.seenText path) call).map
      fun (sys, status) => ⟨none, status, sys.written, sys.files⟩

/-- A change that is made to the files from outside the shell. -/
inductive Change where
  | directory (path : String)
  | file (path : String) (content : Bytes) (mode : Nat)
  | link (path target : String)
  | emptyFile (path : Bytes)
  | removal (path : String)
  deriving DecidableEq, Repr

/-- How long it takes to write a file from outside the shell. -/
def writingTime : Time := 40

/-- Makes what a path leads to a file with a content. That takes time, unless it has none. -/
def writeFile (files : FileSystem) (path content : Bytes) : Except Errno FileSystem := do
  let mode := masked freshFileMode usualMask
  let (files, number) ← files.openToWrite mode (linkLimit + 1) workPlace path
  if content.isEmpty then return files.setContent number []
  return { files with now := files.now + writingTime }.setContent number content

/-- The files after a change, or why it is refused. -/
def Change.attempt (files : FileSystem) : Change → Except Errno FileSystem
  | .directory path =>
    .ok (files.makeDirectories workPlace (encode path) (masked freshDirectoryMode usualMask))
  | .file path content mode => do
    let files ← writeFile files (encode path) content
    files.changeMode workPlace (encode path) mode
  | .link path target => files.makeLink workPlace (encode path) (encode target)
  | .emptyFile path => writeFile files path []
  | .removal path => files.removeDirectory workPlace (encode path)

/-- The files after a change. One that is refused is none. -/
def Change.apply (files : FileSystem) (change : Change) : FileSystem :=
  (change.attempt files).toOption.getD files

end Machine

end PocketShell
