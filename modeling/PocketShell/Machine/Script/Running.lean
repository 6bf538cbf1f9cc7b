import PocketShell.Launch
import PocketShell.Machine.Interpreter
import PocketShell.Machine.Script.JobControl
import PocketShell.Machine.Script.Limit
import PocketShell.Machine.Script.Search
import PocketShell.Machine.Script.Redirecting

/-!
# Running commands

`step` runs one command and leaves the commands inside it to a runner that it is given; `run`
ties the two together, with a bound on how deep commands may stand in one another. Loops have a
bound of their own.

How a program is executed by its path is a parameter, because programs can be scripts again.
-/

namespace PocketShell.Machine.Script

open Act
open Text (Bytes)

/-- What commands write, without the ends of lines at its end. -/
def outputOf (run : Runner) (commands : Commands) : Act String := do
  let n ← openStream (.sink (.empty none none))
  let bindOutput (p : Process) := { p with descriptors := bindDescriptor p.descriptors 1 n }
  let (_, status) ← asChild run bindOutput (runAll run ⟨false, true⟩ commands)
  announce status
  change fun p => { p with innerStatus := Signal.seenStatus status }
  let text := (ofBytes ((← system).gathered n).text).filter (· != '\x00')
  setSystem ((← system).setChannel n .device)
  return String.ofList (text.reverse.dropWhile (· == '\n')).reverse

/-! ## Programs -/

/-- The error that is reported when none of several paths could be executed: the last that says
more than that nothing is there. -/
def lastBlamed (errors : List Errno) : Errno :=
  match errors with
  | [e] => e
  | _ => (errors.reverse.find? (!·.isAbsence)).getD .noEntry

/-- Tells why a program was not executed. -/
def refuse (name : String) (e : Errno) (status : Nat) : Act Unit := do
  warn (name ++ ": " ++ openMessage "not found" e)
  finish status

/-- How many bytes of a file are looked at to see whether it can be a script. -/
def textCheckLimit : Nat := 128

/-- Whether a byte does not occur in texts. -/
def isUntextual (b : UInt8) : Bool :=
  (b < 0x20 && !(0x09 ≤ b && b ≤ 0x0F) && b != 0x1B) || b == 0x7F

/-- Whether a file can be a script: its first line looks like text. -/
def canBeScript (content : Bytes) : Bool :=
  !((content.take textCheckLimit).takeWhile (· != 0x0A)).any isUntextual

/-- Executes a program by the first of the paths that lets itself be executed. A text that is
no program is taken for a script. `process` is the process that the program runs in, and `caller`
the one that it stems from. -/
def executeFirst (exec : Executor) (process caller : Nat) (words : List String)
    (paths : List String) : Act (Except Errno Int) := do
  pass executionTime
  let p ← Act.process
  let sys ← system
  let here ← here
  let call : Call :=
    { arguments := words, environment := p.environment, here
      descriptors := p.descriptors, mask := p.mask, ignored := p.ignored, process, caller }
  let attempt (path : String) :=
    match exec sys path call with
    | .error .execFormat =>
      if ((sys.files.read here (toBytes path)).toOption.map canBeScript).getD true then
        exec sys shellPath { call with arguments := shellPath :: path :: words.tail }
      else .error .execFormat
    | result => result
  match firstOf attempt paths with
  | .error errors => return .error (lastBlamed errors)
  | .ok (sys, status) =>
    setSystem sys
    return .ok status

/-- The status that tells why a program was not executed. -/
def refusalStatus (e : Errno) : Nat :=
  if e.isAbsence || e = .tooManyLinks || e = .nameTooLong then 127 else 126

/-- Puts a program in the place of the process. -/
def replaceProcess (exec : Executor) (words : List String) (paths : List String) :
    Act (Option Errno) := do
  let p ← process
  match ← executeFirst exec p.id p.parent words paths with
  | .error e => return some e
  | .ok status =>
    pass 0
    throw (.ended status)

/-- Runs a program in a process of its own. -/
def spawn (exec : Executor) (run : Runner) (words : List String) (paths : List String) :
    Act (Except Errno Int) := do
  forgetJob
  let (sys, id) := (← system).startProcess
  setSystem sys
  pass startTime
  let result ← executeFirst exec id (← process).id words paths
  setSystem ((← system).endProcess id)
  resume run
  return result

/-- Runs a program, in place of the process if that has nothing left to do. `path?` is a search
path that takes the place of the usual one. -/
def runProgram (exec : Executor) (run : Runner) (mode : Mode) (path? : Option String)
    (words : List String) : Act Unit := do
  let name := words.headD ""
  let p ← process
  match ← findProgram path? name with
  | .error e => refuse name e 127
  | .ok paths =>
    if mode.isLast && !p.hasPlans then
      if let some e ← replaceProcess exec words paths then refuse name e (refusalStatus e)
    else
      match ← spawn exec run words paths with
      | .error e => refuse name e (refusalStatus e)
      | .ok status =>
        announce status
        finish (Signal.seenStatus status)

/-- Leaves the script for a program. -/
def leaveFor (exec : Executor) (words : List String) : Act Unit := do
  let name := words.headD ""
  let fault ←
    match programPaths (← process) (← system).files (← here) none name with
    | .error e => pure (some e)
    | .ok found => replaceProcess exec words (found.map (·.1))
  if let some e := fault then
    refuse name e (refusalStatus e)
    throw (.leaves (refusalStatus e))

/-! ## Functions and other scripts -/

/-- How many functions can run inside of one another. -/
def functionLimit : Nat := 1000

/-- Calls a function. -/
def callFunction (run : Runner) (mode : Mode) (body : Command) (arguments : List String) :
    Act Unit := do
  let p ← process
  if functionLimit ≤ p.hidden.length then
    fail ("Maximum function recursion depth (" ++ toString functionLimit ++ ") reached")
  change fun p =>
    { p with
      arguments, hidden := ⟨[], none⟩ :: p.hidden, loops := 0
      optionIndex := 1, optionOffset := none }
  let flow ← flow? (run ⟨mode.isTested, false⟩ body)
  let frame := (← process).hidden.headD ⟨[], none⟩
  change fun after =>
    let restored := frame.bindings.foldl (fun p (name, v) => p.putVariable name v) after
    let isFound := (frame.bindings.lookup "PATH").isNone
    { restored with
      found := if isFound then restored.found else []
      arguments := p.arguments, hidden := p.hidden, loops := p.loops
      options := frame.options.getD after.options
      optionIndex := p.optionIndex, optionOffset := p.optionOffset }
  match flow with
  | none | some .returns =>
    if let some (name, _) := frame.bindings.find? fun (name, _) => !isName name then
      fail (name ++ ": bad variable name")
  | some flow => throw flow

/-- The path of a script to be run by the process itself. -/
def scriptPath? (p : Process) (files : FileSystem) (here : Location) (name : String) :
    Option String :=
  if name.toList.contains '/' then some name
  else
    (p.searchPath.map (SearchPath.below · name)).find? fun path =>
      match files.find here (toBytes path) with
      | .ok (_, node) => node.isRegular && node.permits .read
      | .error _ => false

/-- Runs a script in the process itself. A directory is read as an empty one. -/
def source (run : Runner) (mode : Mode) (arguments : List String) : Act Unit := do
  match (← takeFlags "" arguments).2 with
  | [] => finish 0
  | name :: _ =>
    let p ← process
    let files := (← system).files
    let here ← here
    match scriptPath? p files here name with
    | none => fail (name ++ ": not found")
    | some path =>
      let read (content : String) : Act Unit := do
        change fun p => { p with command := some path }
        match ← flow? (evaluateText run ⟨mode.isTested, false⟩ true content) with
        | none | some .returns => return
        | some flow => throw flow
      match files.read here (toBytes path) with
      | .error .isDirectory => read ""
      | .error e => fail ("cannot open " ++ path ++ ": " ++ openMessage "No such file" e)
      | .ok content => read (byteText content)

/-- Runs a command of the shell itself. A fault in one without special meaning does not break
the script off. -/
def runBuiltin (isSpecial : Bool) (name : String) (act : Act Unit) : Act Unit := do
  let old := (← process).command
  change fun p => { p with command := some name }
  let flow ← flow? act
  change fun p => { p with command := old }
  match flow with
  | none => return
  | some .fails => if isSpecial then throw .fails else return
  | some flow => throw flow

/-- A command without what only says where it is looked for. -/
structure Plain where
  /-- No function is meant, and a fault is no reason to leave the script. -/
  isPlain : Bool
  /-- Programs are looked for in the usual directories. -/
  isUsual : Bool
  words : List String

/-- The words behind `command` if it asks for a command to be run, and whether that is to be
looked for in the usual directories. -/
def commandWords? : (isUsual : Bool) → List String → Option (Bool × List String)
  | _, [] => none
  | isUsual, s :: rest =>
    match s.toList with
    | ['-', '-'] => if rest.isEmpty then none else some (isUsual, rest)
    | '-' :: c :: cs => if (c :: cs).all (· == 'p') then commandWords? true rest else none
    | _ => some (isUsual, s :: rest)

/-- Takes the word `command` off the front of words, as often as it asks for a command to be
run. -/
def Plain.ofWords : (fuel : Nat) → (plain : Plain) → Plain
  | 0, plain => plain
  | fuel + 1, plain =>
    match plain.words with
    | "command" :: rest =>
      match commandWords? plain.isUsual rest with
      | some (isUsual, words) => Plain.ofWords fuel ⟨true, isUsual, words⟩
      | none => plain
    | _ => plain

/-- Tells what a name stands for, if there is nothing to run. -/
def tellCommand (arguments : List String) : Act Unit := do
  let (letters, names) ← takeFlags "pvV" arguments
  let path? := if letters.contains 'p' then some SearchPath.usual else none
  match names with
  | name :: _ =>
    if letters.contains 'V' then tellMeanings path? true [name]
    else if letters.contains 'v' then tellMeanings path? false [name]
    else finish 0
  | [] => finish 0

/-- Runs what is no function: a command of the shell itself or a program. -/
def runNamed (exec : Executor) (run : Runner) (mode : Mode) (plain : Plain) (name : String)
    (arguments : List String) : Act Unit :=
  let asBuiltin := runBuiltin (specialCommands.contains name && !plain.isPlain) name
  match name with
  | "eval" =>
    asBuiltin (evaluateText run ⟨mode.isTested, false⟩ false (" ".intercalate arguments))
  | "." => asBuiltin (source run mode arguments)
  | "exec" => if arguments.isEmpty then finish 0 else asBuiltin (leaveFor exec arguments)
  | "type" => asBuiltin (tellMeanings none true arguments)
  | "hash" => asBuiltin (tellFound arguments)
  | "command" => asBuiltin (tellCommand arguments)
  | "wait" => asBuiltin (wait run arguments)
  | "jobs" => asBuiltin (tellJobs run arguments)
  | "ulimit" => asBuiltin (setLimit arguments)
  | "fg" | "bg" => asBuiltin (refuseControl arguments)
  | name =>
    match builtin? name with
    | some act => asBuiltin (act arguments)
    | none =>
      let path? := if plain.isUsual then some SearchPath.usual else none
      runProgram exec run mode path? (name :: arguments)

/-- Runs a command that is given by its fields. -/
def dispatch (exec : Executor) (run : Runner) (mode : Mode) (fields : List String) :
    Act Unit := do
  let functions := (← process).functions
  match functions.lookup (fields.headD "") with
  | some body => callFunction run mode body fields.tail
  | none =>
    let plain := Plain.ofWords fields.length ⟨false, false, fields⟩
    match plain.words with
    | [] => finish 0
    | name :: arguments => runNamed exec run mode plain name arguments

/-! ## Simple commands -/

/-- The fields of the words of a simple command. Behind the names of the commands that set
variables, what sets one is not split. -/
def simpleFields (run : Runner) : List Word → Act (List String)
  | [] => return []
  | first :: rest => do
    let start ← wordFields (outputOf run) first
    if ["export", "local", "readonly"].contains (start.headD "") then
      let fields ← rest.mapM fun w =>
        match setting? w with
        | some (name, value) => do return [name ++ "=" ++ (← wordText (outputOf run) true value)]
        | none => wordFields (outputOf run) w
      return start ++ fields.flatten
    if start.isEmpty then simpleFields run rest
    else return start ++ (← expandWords (outputOf run) rest)

/-- What stands in front of a command that is shown. What makes no sense in it is told, and it
stands as it is then. -/
def traceMark (run : Runner) : Act String := do
  let p ← process
  let text := (p.look "PS4").getD ""
  let cursor := Cursor.start text.toList 1 []
  match (startLine (substitution (readingFuel cursor)) none (wordFuel cursor) .document []).run
      cursor with
  | .error m =>
    change fun p => { p with line := m.line }
    warn ("Syntax error: " ++ m.complaint)
    return text
  | .ok (w, _) =>
    let s ← get
    let expanded : Act String := wordText (outputOf run) false w.reverse
    -- the status of what is run in it does not count
    let (result, after) := (withoutTrace expanded).run.run s
    set after
    change fun after => { after with status := p.status }
    match result with
    | .ok mark => return mark
    | .error .fails => return text
    | .error flow => throw flow
where
  /-- Does something without showing commands. -/
  withoutTrace (act : Act String) : Act String := do
    let options := (← process).options
    change fun p => { p with options := p.options.filter (· != 'x') }
    let result ← tryCatch (some <$> act) fun flow => do
      change fun p => { p with options }
      throw flow
    change fun p => { p with options }
    return result.getD ""

/-- Shows a command before it is run, if the options ask for that. -/
def showCommand (run : Runner) (stream : Option Nat) (parts : List String) : Act Unit := do
  if (← process).has 'x' then
    match stream with
    | none => return
    | some n =>
      let line := (← traceMark run) ++ " ".intercalate parts ++ "\n"
      setSystem ((← system).write n (toBytes line)).1

/-- Sets the variables that stand in front of a command and gives what was set. -/
def setAllTo (run : Runner) (isExported : Bool) : List (String × Word) → Act (List String)
  | [] => return []
  | (name, word) :: rest => do
    let value ← wordText (outputOf run) true word
    set name value
    if isExported then
      change fun p =>
        p.putVariable name ((p.bindings.lookup name).map fun v => { v with isExported := true })
    return (name ++ "=" ++ value) :: (← setAllTo run isExported rest)

/-- Runs a simple command. -/
def runSimple (exec : Executor) (run : Runner) (mode : Mode) (line : Nat)
    (settings : List (String × Word)) (words : List Word) (redirections : List Redirection) :
    Act Unit := do
  change fun p => { p with line, innerStatus := 0 }
  let fields ← simpleFields run words
  let shown ← stream? 2
  match fields with
  | [] =>
    let _ ← withRedirections (outputOf run) redirections do
      let set ← setAllTo run false settings
      showCommand run shown set
      finish (← process).innerStatus
  | ["exec"] =>
    let ready ← expandRedirections (outputOf run) redirections
    match ← redirectAll (outputOf run) ready with
    | some complaint => refuseRedirection complaint
    | none =>
      let _ ← setAllTo run false settings
      showCommand run shown fields
      finish 0
  | name :: _ =>
    let isSpecial := specialCommands.contains name
    let isRun ← withRedirections (outputOf run) redirections do
      let before := (← process).bindings
      let set ← setAllTo run (!isSpecial) settings
      showCommand run shown (set ++ fields)
      let flow ← flow? (dispatch exec run mode fields)
      if !isSpecial then
        change fun p => settings.foldr (fun (name, _) p =>
          p.putVariable name (before.lookup name)) p
        if settings.any (·.1 = "PATH") then change fun p => { p with found := [] }
      if let some flow := flow then throw flow
    if !isRun && isSpecial then throw .fails

/-- How a loop goes on after a part of it. -/
inductive Turn where
  | done
  | next
  | over

/-- Runs a part of a loop. -/
def turn (act : Act Unit) : Act Turn := do
  match ← flow? act with
  | none => return .done
  | some (.breaks n) => if n ≤ 1 then return .over else throw (.breaks (n - 1))
  | some (.continues n) => if n ≤ 1 then return .next else throw (.continues (n - 1))
  | some flow => throw flow

/-- Counts a loop while an action is run. -/
def inLoop (act : Act Unit) : Act Unit := do
  let loops := (← process).loops
  change fun p => { p with loops := loops + 1 }
  let flow ← flow? act
  change fun p => { p with loops }
  if let some flow := flow then throw flow

/-- How often the body of a loop may be run. -/
def loopLimit : Nat := 1000000

/-- Runs a loop with a test. It has the status of the last run of its body. -/
def loopWhile (run : Runner) (mode : Mode) (isUntil : Bool) (test body : Commands) : Act Unit := do
  let mut status := 0
  for _ in [0:loopLimit] do
    match ← turn (runAll run ⟨true, false⟩ test) with
    | .over => break
    | .next => continue
    | .done =>
      if ((← process).status = 0) = isUntil then break
      let t ← turn (runAll run ⟨mode.isTested, false⟩ body)
      status := (← process).status
      if let .over := t then break
  finish status

/-- Runs a loop over fields. -/
def loopOver (run : Runner) (mode : Mode) (name : String) (body : Commands)
    (fields : List String) : Act Unit := do
  let mut status := 0
  for field in fields do
    set name field
    let t ← turn (runAll run ⟨mode.isTested, false⟩ body)
    status := (← process).status
    if let .over := t then break
  finish status

/-- Runs the first of several branches with a pattern that stands for a text. -/
def selectBranch (run : Runner) (mode : Mode) (subject : String) :
    List (List Word × Commands) → Act Unit
  | [] => finish 0
  | (patterns, body) :: rest => do
    let isChosen ← patterns.anyM fun w => do
      return Pattern.doesMatch (← wordPattern (outputOf run) w) subject.toList
    if !isChosen then selectBranch run mode subject rest
    else if body.isEmpty then finish 0
    else runAll run mode body

/-- How a part of a pipeline is run. -/
structure PipeTrial where
  /-- How many bytes it can write. -/
  room : Nat
  /-- From when on nobody reads that, if that is known. -/
  closing : Option Time

/-- What running a part of a pipeline, and the parts behind it, has shown. -/
inductive PipeVerdict where
  | fine
  /-- The next part would have read more than was written. -/
  | tooShort
  /-- Something was written when nobody read any more. -/
  | late (ended : Time)

/-- How long nobody has to have read from a pipe before that counts. -/
def pipeTime : Time := 10000

/-- How long a part of a pipeline is run at first, however much it could still write. -/
def pipePatience : Time := 100000000

/-- Runs the commands of a pipeline, each in a process of its own, at the same time. The last decides
about the status, and the answer is when the first has ended. What a part writes is gathered before
the next part runs; if the pipe was too small, or read for too short a time, both run again. -/
def runPipeline (run : Runner) (mode : Mode) : (input : Option Nat) → Commands → Act Time
  | _, [] => do return (← system).clock
  | input, c :: rest => do
    let before ← get
    let start := before.system.clock
    let attempt (trial : PipeTrial) : Act (PipeVerdict × Time) := do
      let sink : Channel := .sink (.empty (some trial.room) trial.closing)
      let output ← if rest.isEmpty then pure none else some <$> openStream sink
      let bindBoth (p : Process) : Process :=
        let ds := (input.map (bindDescriptor p.descriptors 0)).getD p.descriptors
        { p with descriptors := (output.map (bindDescriptor ds 1)).getD ds }
      let (_, status) ← asChild run bindBoth (run ⟨mode.isTested, true⟩ c)
      announce status
      if rest.isEmpty then finish (Signal.seenStatus status)
      let ended := (← system).clock
      match output with
      | none => return (.fine, ended)
      | some n =>
        let lastTime := ((← system).gathered n).lastTime
        setSystem (((← system).turnAround n).atTime (start + commandTime))
        let readerEnd ← runPipeline run mode output rest
        setSystem ((← system).waitUntil ended)
        let verdict : PipeVerdict :=
          if (← system).isSpent n then .tooShort
          else if readerEnd + pipeTime < lastTime then .late readerEnd
          else .fine
        return (verdict, ended)
    let patience := start + pipePatience
    let mut result ← attempt ⟨2 ^ 16, some patience⟩
    for room in [2 ^ 20, 2 ^ 26] do
      if let .tooShort := result.1 then
        set before
        result ← attempt ⟨room, none⟩
    if let .late ended := result.1 then
      set before
      result ← attempt ⟨2 ^ 20, some (ended + pipeTime)⟩
    return result.2

/-- Whether a failure of a command is a reason to leave the script. -/
def canFail : Command → Bool
  | .simple .. | .subshell .. | .pipeline _ => true
  | _ => false

/-- Runs a command, of which the commands inside are left to a runner. -/
def step (exec : Executor) (run : Runner) (mode : Mode) : Command → Act Unit
  | .simple line settings words redirections =>
    runSimple exec run mode line settings words redirections
  | .both first second => do
    run ⟨true, false⟩ first
    if (← process).status = 0 then run mode second
  | .either first second => do
    run ⟨true, false⟩ first
    if (← process).status ≠ 0 then run mode second
  | .negation c => do
    run ⟨true, false⟩ c
    finish (if (← process).status = 0 then 1 else 0)
  | .pipeline parts => do
    let _ ← runPipeline run mode none parts
  | .background c => do
    startJob c
    finish 0
  | .subshell line body redirections => do
    change fun p => { p with line }
    let ready ← expandRedirections (outputOf run) redirections
    let act : Act Unit := do
      let _ ← withExpanded (outputOf run) ready (runAll run ⟨mode.isTested, true⟩ body)
    if mode.isLast && !(← process).hasPlans then act
    else
      let (_, status) ← asChild run id act
      announce status
      finish (Signal.seenStatus status)
  | .group line body redirections => do
    if redirections.isEmpty then runAll run mode body
    else
      change fun p => { p with line }
      let _ ← withRedirections (outputOf run) redirections
        (runAll run ⟨mode.isTested, false⟩ body)
  | .choice test yes no => do
    runAll run ⟨true, false⟩ test
    if (← process).status = 0 then runAll run mode yes
    else if no.isEmpty then finish 0
    else runAll run mode no
  | .loop isUntil test body => inLoop (loopWhile run mode isUntil test body)
  | .each line name words body => do
    change fun p => { p with line }
    let fields ← expandWords (outputOf run) words
    inLoop (loopOver run mode name body fields)
  | .select line word branches => do
    change fun p => { p with line }
    let subject ← wordText (outputOf run) false word
    selectBranch run mode subject branches
  | .definition _ name body => do
    change fun p => { p with functions := (name, body) :: p.functions.filter (·.1 ≠ name) }
    finish 0

/-- Runs a command, attends to the signals that came meanwhile, and leaves the script after a
failure if the options ask for that. Commands may stand in one another up to a depth. -/
def run (exec : Executor) : (depth : Nat) → Runner
  | 0, _, _ => fail "Maximum nesting reached"
  | depth + 1, mode, c => do
    if (← process).has 'n' then return
    attendSignals (run exec depth)
    pass commandTime
    step exec (run exec depth) mode c
    attendSignals (run exec depth)
    let p ← process
    if canFail c && !mode.isTested && p.has 'e' && p.status ≠ 0 then throw (.leaves p.status)

/-- How deep commands may stand in one another. -/
def depthLimit : Nat := 8000

end PocketShell.Machine.Script
