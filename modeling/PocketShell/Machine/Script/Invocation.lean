import PocketShell.Machine.Script.Running

/-!
# Starting a shell

A shell gets its script from the text behind the option `-c`, from the file that its first
operand names, or from its input. The other operands are the arguments of the script.
-/

namespace PocketShell.Machine.Script

open Act

/-- The variables that a shell has of its own, with the values that they have at first. -/
def ownVariables : List (String × String) :=
  [("IFS", " \t\n"), ("PATH", SearchPath.usual), ("PS1", "$ "), ("PS2", "> "), ("PS4", "+ "),
   ("OPTIND", "1")]

/-- The process of a shell that was called. Its variables are its own and, exported, those of the
environment, which does not decide about all of its own. It knows its directory by the name that
the environment gives it, if that leads there. -/
def firstProcess (files : FileSystem) (call : Call) : Process :=
  let known := (call.environment.lookup "PWD").filter fun path =>
    path.startsWith "/" &&
      (files.resolve call.here (toBytes path)).toOption = some call.here
  let physical := if FileSystem.isRemoved call.here then none else some (physicalPath call.here)
  let directory := known.getD (physical.getD "")
  let start : Process :=
    { id := call.process, shell := call.process, parent := call.caller
      name := call.arguments.headD "sh", place := (files.number? call.here).getD 0, directory
      physical := if known.isSome then none else physical, arguments := []
      bindings := ownVariables.map fun (name, value) => (name, ⟨some value, false, false⟩)
      functions := [], aliases := [], found := [], hidden := [], descriptors := call.descriptors
      plans := [], deafTo := call.ignored, options := [], status := 0, innerStatus := 0, savedStatus := none
      background := none, loops := 0, line := 0, readLine := 0, optionIndex := 1
      optionOffset := none, command := none, mask := call.mask
      limits := firstLimits }
  let given := call.environment.filter fun (name, _) => isName name
  let process := given.foldl (fun p (name, value) =>
    p.putVariable name (some ⟨some value, true, false⟩)) start
  let fixed := [("IFS", " \t\n"), ("OPTIND", "1"), ("PPID", toString call.caller)]
  let process := fixed.foldl (fun p (name, value) => p.set name value) process
  process.putVariable "PWD" (some ⟨some directory, true, false⟩)

/-- Takes the options of a shell. The answer tells whether one of them says that the first
operand is the text of the script, and gives the operands. `fuel` bounds how many arguments there
are. -/
def takeStartOptions : (fuel : Nat) → (isText : Bool) → List String → Act (Bool × List String)
  | 0, isText, rest => return (isText, rest)
  | _, isText, [] => return (isText, [])
  | fuel + 1, isText, s :: rest => do
    match s.toList with
    | ['-'] | ['-', '-'] => return (isText, rest)
    | sign :: letters =>
      if !(sign == '-' || sign == '+') then return (isText, s :: rest)
      let own := letters.filter fun c => !(['c', 'l'].contains c)
      takeStartOptions fuel (isText || letters.contains 'c') (← takeOptionLetters sign own rest)
    | [] => return (isText, s :: rest)

/-- Runs what is left to read of the input as a script. -/
def runInput (run : Runner) : Act Unit := do
  match ← stream? 0 with
  | none => return
  | some n =>
    match (← system).read n 1 List.length with
    | .error _ => return
    | .ok (sys, content) =>
      setSystem sys
      let _ ← runText run ⟨false, false⟩ true (byteText content)

/-- Runs the script in a file. A directory is read as an empty one. -/
def runFile (run : Runner) (path : String) : Act Unit := do
  match (← system).files.read (← here) (toBytes path) with
  | .ok content =>
    change fun p => { p with name := path }
    checkTerminal
    let _ ← runText run ⟨false, false⟩ true (byteText content)
  | .error .isDirectory => checkTerminal
  | .error e => fail ("cannot open " ++ path ++ ": " ++ openMessage "No such file" e)

/-- Wants to know where a shell starts. It has no name yet then. -/
def lookAround : Act Unit := do
  let name := (← process).name
  change fun p => { p with name := "sh" }
  let _ ← physicalDirectory
  change fun p => { p with name }

/-- What a shell does. -/
def runShell (run : Runner) (arguments : List String) : Act Unit := do
  lookAround
  let (isText, operands) ← takeStartOptions (arguments.length + 1) false arguments
  match isText, operands with
  | true, [] => fail "-c requires an argument"
  | true, text :: operands =>
    checkTerminal
    change fun p => { p with name := operands.headD p.name, arguments := operands.tail }
    let readsInput := (← process).has 's'
    let _ ← runText run ⟨false, !readsInput⟩ false text
    if readsInput then runInput run
  | false, operands =>
    if operands.isEmpty then setOption true 's'
    if (← process).has 's' then
      checkTerminal
      change fun p => { p with arguments := operands }
      runInput run
    else
      change fun p => { p with arguments := operands.tail }
      runFile run (operands.headD "")

/-- Executes the shell: the system after it, and its status. -/
def executeShell (exec : Executor) (sys : System) (call : Call) : System × Int :=
  let runner := run exec depthLimit
  let act := live runner jobDepth (runShell runner call.arguments.tail)
  let (status, after) := act.run.run ⟨firstProcess sys.files call, sys, []⟩
  (after.system, status.toOption.getD 2)

end PocketShell.Machine.Script
