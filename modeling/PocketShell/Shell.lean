import PocketShell.Session
import PocketShell.Text.Words
import PocketShell.Trace

/-!
# The shell

A shell executes lines: it takes a line apart into words, and the first word names the command.
A built-in command is carried out by its handler, every other name is launched as a program.
What a command did is a `Step`: its text or its fault, the shell afterwards, and the events.

Handlers can be replaced one by one; see `Entry`.
-/

namespace PocketShell

open Text (words decode?)

/-- A shell in a world. The directory of the session is only a text to the shell: paths are
looked up in the world, which has a current directory of its own. -/
structure Shell (W : Type u) where
  home : String
  session : Session
  world : W

/-- What the table of handlers has for a built-in command: the handler that comes with it, or
one that always returns a text or always fails. -/
inductive Entry where
  | standard
  | returns (text : String)
  | fails (fault : Fault)
  deriving DecidableEq, Repr

/-- The table of handlers. -/
abbrev Handlers := Builtin → Entry

/-- The table in which every command has its own handler. -/
def Handlers.standard : Handlers := fun _ => .standard

/-- What the system calls itself. -/
def systemName : String := "Minish 1.0.0 minish x86_64 minish-posix"

/-- The date that is always shown. -/
def placeholderDate : String := "[sh] 2026-01-05 00:00:00 UTC"

/-- The control sequences that clear a terminal and put its cursor into the first corner. -/
def clearScreen : String := "\x1b[2J\x1b[1;1H"

/-- What a command did. -/
structure Step (W : Type u) where
  result : Except Fault String
  shell : Shell W
  events : Trace

namespace Shell

variable {W : Type u}

/-- A shell at the start of a session, which is in the home directory. -/
def start (home identity : String) (world : W) : Shell W :=
  ⟨home, ⟨home, identity⟩, world⟩

/-- The events of the start of a session. -/
def startEvents (home identity : String) : Trace := [.logged (.started home identity)]

/-- Whether a path leads to anything. None with a zero character does. -/
def pathExists (host : Host W) (sh : Shell W) (path : String) : Bool :=
  !hasZero path && host.present sh.world path

/-- Changes to the home directory, or to a path that exists, whatever it leads to. The path is
kept as it was typed. -/
def changeDirectory (host : Host W) (sh : Shell W) : List String → String × Session
  | [] => ("", { sh.session with workingDirectory := sh.home })
  | path :: _ =>
    if sh.pathExists host path then ("", { sh.session with workingDirectory := path })
    else ("[sh] cd: " ++ path ++ ": No such file or directory\n", sh.session)

/-- The names of a directory that are texts, each with two spaces behind it. -/
def listing (names : List Text.Bytes) : String :=
  String.join ((names.filterMap decode?).map (· ++ "  ")) ++ "\n"

/-- Lists a directory. A path with a zero character is a bad value and not one that the system
could refuse. -/
def listDirectory (host : Host W) (sh : Shell W) (path : String) : Except Fault String :=
  if hasZero path then .error ⟨.badValue, "embedded null byte"⟩
  else
    match host.list sh.world path with
    | .ok names => .ok (listing names)
    | .error e => .ok ("[sh] ls: cannot open " ++ path ++ ": " ++ e.message ++ "\n")

/-- The text that `echo` returns: its arguments with one space between them on a line, and
nothing at all without arguments. -/
def echoed : List String → String
  | [] => ""
  | arguments => " ".intercalate arguments ++ "\n"

/-- The handler that comes with a built-in command: its text or its fault, and the session
after it. -/
def standardHandler (host : Host W) (sh : Shell W) (arguments : List String) :
    Builtin → Except Fault String × Session
  | .exit | .quit => (.error ⟨.stop, ""⟩, sh.session)
  | .help => (.ok Builtin.helpText, sh.session)
  | .echo => (.ok (echoed arguments), sh.session)
  | .pwd => (.ok (sh.session.workingDirectory ++ "\n"), sh.session)
  | .cd =>
    let (text, session) := sh.changeDirectory host arguments
    (.ok text, session)
  | .ls => (sh.listDirectory host (arguments.headD sh.session.workingDirectory), sh.session)
  | .whoami => (.ok (sh.session.identity ++ "\n"), sh.session)
  | .uname => (.ok (systemName ++ "\n"), sh.session)
  | .date => (.ok (placeholderDate ++ "\n"), sh.session)
  | .clear => (.ok clearScreen, sh.session)

/-- What the table's handler of a built-in command gives. -/
def handle (host : Host W) (handlers : Handlers) (sh : Shell W) (b : Builtin)
    (arguments : List String) : Except Fault String × Session :=
  match handlers b with
  | .standard => sh.standardHandler host arguments b
  | .returns text => (.ok text, sh.session)
  | .fails fault => (.error fault, sh.session)

/-- What becomes of the result of a handler. The request to stop and the interruption go on;
a denied permission and every other fault are told to the user, the latter also to the log. -/
def settle : Except Fault String → Except Fault String × Trace
  | .ok text => (.ok text, [])
  | .error fault =>
    if fault.kind.passesCommand then (.error fault, [])
    else if fault.kind = .denied then (.ok ("PermissionError: " ++ fault.message ++ "\n"), [])
    else (.ok ("Error: " ++ fault.message ++ "\n"), [.logged (.unexpected fault)])

/-- Carries out a built-in command. -/
def runBuiltin (host : Host W) (handlers : Handlers) (sh : Shell W) (b : Builtin)
    (arguments : List String) : Step W :=
  let (result, session) := sh.handle host handlers b arguments
  let (result, records) := settle result
  ⟨result, { sh with session },
    .logged (.dispatched b.name true) :: .called b arguments :: records⟩

/-- The events of a launch, from what came of it. -/
def launchEvents (name : String) : Except LaunchError (Run W) → Trace
  | .error e => [.logged (.notLaunched name e)]
  | .ok run =>
    .logged (.spawned run.processName) ::
      run.writes.map (fun (stream, bytes) => .child stream bytes) ++ [.logged (.exited run.status)]

/-- Launches an external command and tells its outcome. -/
def runExternal (host : Host W) (sh : Shell W) (name : String) (arguments : List String) :
    Step W :=
  let launched := launch host sh.world name arguments
  ⟨.ok (describe name (outcomeOf launched)),
    { sh with world := (launched.map (·.world)).toOption.getD sh.world },
    .logged (.dispatched name false) :: .launching name arguments :: launchEvents name launched⟩

/-- Carries out a command that is given by its words. -/
def runWords (host : Host W) (handlers : Handlers) (sh : Shell W) : List String → Step W
  | [] => ⟨.ok "", sh, []⟩
  | name :: arguments =>
    match Builtin.named? name with
    | some b => sh.runBuiltin host handlers b arguments
    | none => sh.runExternal host name arguments

/-- Executes a line. -/
def execute (host : Host W) (handlers : Handlers) (sh : Shell W) (line : String) : Step W :=
  sh.runWords host handlers (words line)

end Shell

end PocketShell
