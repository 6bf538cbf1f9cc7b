import PocketShell.Machine.Script.Process
import PocketShell.Text.Lines

/-!
# The life of processes

How a process runs a script to its end, with what is planned for signals and for the end, and
how it starts others: children that it waits for, and jobs in the background.

How a single command is run is a parameter here, a `Runner`.

A job runs at the same time as the process that started it. It is run up to a point in time only
(`advance`), and later again from its start, through the same worlds as before, to go on from
that point in the world of then.
-/

namespace PocketShell.Machine.Script

open Act

/-- What is to be heeded when a command is run. -/
structure Mode where
  /-- Its status is asked for, so that a failure is no reason to leave the script. -/
  isTested : Bool
  /-- The process has nothing left to do after it, and a program can take its place. -/
  isLast : Bool

/-- Running a command. -/
abbrev Runner := Mode → Command → Act Unit

/-- Runs commands one after the other. -/
def runAll (run : Runner) (mode : Mode) : Commands → Act Unit
  | [] => return
  | [c] => run mode c
  | c :: cs => do
    run { mode with isLast := false } c
    runAll run mode cs

/-- Reads a script and runs it line by line. The answer tells whether there was anything to
run, which `hasRun` says of what came before. A script from a file is shown while it is read, if
the options ask for that. -/
def readAndRun (run : Runner) (mode : Mode) (isFile : Bool) :
    (fuel : Nat) → (hasRun : Bool) → Cursor → Act Bool
  | 0, hasRun, _ => return hasRun
  | fuel + 1, hasRun, cursor => do
    match nextLine { cursor with aliases := (← process).aliases } with
    | .error m =>
      if isFile && (← process).has 'v' then
        let lines := PocketShell.Text.splitAfter (· == '\n') cursor.rest
        let _ ← write 2 (String.ofList (lines.take (m.line + 1 - cursor.line)).flatten)
      change fun p => { p with line := m.line, readLine := m.line }
      fail ("Syntax error: " ++ m.complaint)
    | .ok none => return hasRun
    | .ok (some (commands, next)) =>
      if isFile && (← process).has 'v' then
        let used := cursor.rest.take (cursor.rest.length - next.rest.length)
        let _ ← write 2 (String.ofList used)
      change fun p => { p with readLine := next.line }
      let isAtEnd := match next.ahead with | some .finish => true | _ => false
      if !(← process).has 'n' then
        runAll run { mode with isLast := mode.isLast && isAtEnd } commands
      readAndRun run mode isFile fuel (hasRun || !commands.isEmpty) next

/-- Runs the text of a script. Zero characters in it are passed over. -/
def runText (run : Runner) (mode : Mode) (isFile : Bool) (text : String) : Act Bool :=
  let script := text.toList.filter (· != '\x00')
  readAndRun run mode isFile (script.length + 2) false (Cursor.start script 1 [])

/-- Runs a text that is to have the status of its last command, or 0 if it has none. -/
def evaluateText (run : Runner) (mode : Mode) (isFile : Bool) (text : String) : Act Unit := do
  if !(← runText run mode isFile text) then finish 0

/-! ## Signals -/

/-- Ends the process if a signal has come that ends it. -/
def dieOfSignals : Act Unit := do
  let p ← process
  let sys ← system
  if let s :: _ := sys.signalsFor p.id sys.clock p.isDeadly then
    setSystem (sys.atTime s.time)
    throw (.ended (.negOfNat s.signal))

/-- Does what is planned for a signal. -/
def attendSignal (run : Runner) (signal : Nat) : Act Unit := do
  let p ← process
  match p.plan? signal with
  | none => return
  | some plan =>
    let status := p.savedStatus.getD p.status
    change fun p => { p with savedStatus := some status }
    let flow ← flow? do let _ ← runText run ⟨false, false⟩ false plan
    change fun after => { after with savedStatus := p.savedStatus }
    match flow with
    | none => finish status
    | some flow => throw flow

/-- Attends to the signals that have come, each once, in the order of their numbers. -/
def attendSignals (run : Runner) : Act Unit :=
  repeatWhile 1000 do
    let sys ← system
    if sys.signals.isEmpty then return false
    dieOfSignals
    let id := (← process).id
    match ((sys.signalsFor id sys.clock fun _ => true).map (·.signal)).min? with
    | none => return false
    | some signal =>
      setSystem (sys.withoutSignal id signal sys.clock)
      attendSignal run signal
      return true

/-- Tells that a process that was waited for was ended by a signal. -/
def announce (status : Int) : Act Unit := do
  if status < 0 && !Signal.isUnspoken status.natAbs then report (Signal.account status.natAbs)

/-! ## Jobs -/

/-- How long it takes to start a process, to end one, to execute a program, and to run a
command. -/
def startTime : Time := 500
@[inherit_doc startTime] def endTime : Time := 100
@[inherit_doc startTime] def executionTime : Time := 500
@[inherit_doc startTime] def commandTime : Time := 20

/-- How long jobs may go on behind the end of the process that started them. -/
def orphanTime : Time := 10000000

/-- The process that a subshell is. It keeps only the plans to take no notice of a signal. -/
def Process.child (p : Process) (id : Nat) : Process :=
  { p with
    id, parent := p.id
    plans := p.plans.filter fun (signal, plan) => signal ≠ 0 && plan.isEmpty }

/-- Forgets one of the jobs that nobody can ask about any more, as a new process needs its
place. -/
def forgetJob : Act Unit :=
  modify fun s =>
    let old := s.jobs.filter fun j => j.outcome.isSome && j.isWaitedFor
    match (old.map (·.place)).min? with
    | none => s
    | some place => { s with jobs := s.jobs.filter (·.place ≠ place) }

/-- Starts a command in the background, where it has nothing to read. -/
def startJob (c : Command) : Act Unit := do
  forgetJob
  modify fun s =>
    let (sys, n) := s.system.openChannel .device
    let (sys, id) := sys.startProcess
    let child := s.process.child id
    let descriptors := (0, n) :: child.descriptors.filter (·.1 ≠ 0)
    let places := s.jobs.map (·.place)
    let place := ((List.range (places.length + 1)).map (· + 1)).find? (!places.contains ·)
    let start := sys.clock + startTime
    let job : Job :=
      { place := place.getD 1, process := { child with descriptors }, command := c, past := []
        reached := start, wakes := start, outcome := none, isWaitedFor := false }
    { s with
      process := { s.process with background := some id }, system := sys, jobs := job :: s.jobs }

/-- What a job does. Signals from the keyboard do not reach it once it runs. -/
def jobBody (run : Runner) (c : Command) : Act Unit := do
  attendSignals run
  change fun p => { p with deafTo := [2, 3] ++ p.deafTo }
  run ⟨false, true⟩ c

section

variable (live : Act Unit → Act Int)

/-- Runs a job from where it has been run to, up to a horizon, and tells whether it has ended. -/
def advance (run : Runner) (horizon : Option Time) (job : Job) : Act Bool := do
  let s ← get
  let worlds := job.past ++ [(job.reached, s.system.toWorld)]
  match worlds with
  | [] => return false
  | (start, first) :: later =>
    let sys : System := { toWorld := first, clock := start, horizon, later }
    let (result, after) := (live (jobBody run job.command)).run.run ⟨job.process, sys, []⟩
    let world := (after.system.later.getLast?.map (·.2)).getD after.system.toWorld
    let wakes := after.system.clock
    let outcome := result.toOption
    let changed : Job :=
      { job with past := worlds, reached := horizon.getD wakes, wakes, outcome }
    let jobs := s.jobs.map fun j => if j.process.id = job.process.id then changed else j
    let sys : System := { s.system with toWorld := world }
    let sys := if outcome.isSome then sys.endProcess job.process.id else sys
    set { s with system := sys, jobs }
    return outcome.isSome

/-- The job that goes on first. -/
def nextJob? (jobs : List Job) : Option Job :=
  let running := jobs.filter (·.outcome.isNone)
  running.foldr (fun j first? =>
    match first? with
    | none => some j
    | some first => if j.wakes < first.wakes then some j else some first) none

/-- How long a job is run on before it is looked after the others, when that has been done
`n` times. -/
def turnTime (n : Nat) : Time := 10000 * Nat.pow 2 (n / 8)

/-- How often jobs are run on while they are waited for. -/
def turnLimit : Nat := 400

/-- Tells the process that one that it started has ended, if it has plans for that. -/
def tellEnd (time : Time) : Act Unit := do
  let p ← process
  if (p.plan? Signal.child).isSome then
    let sys ← system
    if let .ok sent := (sys.atTime time).send p.id Signal.child then
      setSystem (sent.atTime sys.clock)

/-- Runs the jobs up to a time. -/
def advanceAll (run : Runner) (time : Time) : Act Unit := do
  for n in [0:turnLimit] do
    let jobs := (← get).jobs
    match nextJob? jobs with
    | none => return
    | some job =>
      if time ≤ job.wakes then return
      let isAlone := (jobs.filter (·.outcome.isNone)).length = 1
      let horizon := if isAlone then time else min time (job.wakes + turnTime n)
      if ← advance live run (some horizon) job then
        let ended := (← get).jobs.find? (·.process.id = job.process.id)
        tellEnd ((ended.map (·.wakes)).getD time)

/-- Runs the jobs up to the time that the process has reached. -/
def catchUp (run : Runner) : Act Unit := do advanceAll live run (← system).clock

/-- The signal that ends the waiting of the process up to a time, if one does. -/
def interruption (time : Time) : Act (Option Nat) := do
  let p ← process
  let sys ← system
  let isHeard (signal : Nat) : Bool := (p.plan? signal).isSome || p.isDeadly signal
  match sys.signalsFor p.id time isHeard with
  | [] => return none
  | sent :: _ =>
    setSystem (sys.waitUntil sent.time)
    dieOfSignals
    return some sent.signal

/-- Waits until something holds of the jobs, or all have ended. The answer is the signal that
ended the waiting before, if one did. -/
def waitUntil (run : Runner) (holds : List Job → Bool) : Act (Option Nat) := do
  for n in [0:turnLimit] do
    let s ← get
    if holds s.jobs then return none
    match nextJob? s.jobs with
    | none => return none
    | some job =>
      if let some signal ← interruption (max s.system.clock job.wakes) then return some signal
      setSystem (s.system.waitUntil job.wakes)
      pass 0
      if ← advance live run (some (job.wakes + turnTime n)) job then
        let ended := (← get).jobs.find? (·.process.id = job.process.id)
        let time := (ended.map (·.wakes)).getD job.wakes
        tellEnd time
        if let some signal ← interruption (time - 1) then return some signal
        setSystem ((← system).waitUntil time)
  return none

/-- Lets the jobs go on without the process, which has ended. -/
def abandonJobs (run : Runner) : Act Unit := do
  let sys ← system
  if (← get).jobs.any (·.outcome.isNone) then
    advanceAll live run (sys.clock + orphanTime)
    modify fun s => { s with system := s.system.atTime sys.clock }

end

/-! ## Processes -/

/-- Runs what a process does, with what is planned for its end, and gives its status. -/
def toItsEnd (run : Runner) (body : Act Unit) : Act Int := do
  match ← flow? body with
  | some (.ended status) => return status
  | some .over => throw .over
  | flow =>
    if let some (.leaves n) := flow then finish n
    let p ← process
    match p.plans.lookup 0 with
    | none | some "" => return p.status
    | some plan =>
      change fun p =>
        { p with plans := p.plans.filter (·.1 ≠ 0), loops := 0, savedStatus := some p.status }
      match ← flow? do let _ ← runText run ⟨false, false⟩ false plan with
      | some (.ended status) => return status
      | some .over => throw .over
      | some (.leaves n) => return n
      | some .fails => return (← process).status
      | _ => return p.status

/-- Runs the whole life of a process and gives its status. Jobs that it leaves behind go on;
`depth` bounds how deep they may start others. -/
def live (run : Runner) : (depth : Nat) → (body : Act Unit) → Act Int
  | 0, body => toItsEnd run body
  | depth + 1, body => do
    let status ← toItsEnd run body
    pass endTime
    abandonJobs (live run depth) run
    return status

/-- How deep jobs may start other jobs. -/
def jobDepth : Nat := 8

/-- Runs the jobs up to the time that the process has reached, after a process that it waited
for has ended. -/
def resume (run : Runner) : Act Unit := do
  pass 0
  if (← get).jobs.any (·.outcome.isNone) then catchUp (live run jobDepth) run
  dieOfSignals
  tellEnd (← system).clock

/-- Runs a process of its own that starts as a copy of this one, and gives its number and its
status. -/
def asChild (run : Runner) (adjust : Process → Process) (body : Act Unit) : Act (Nat × Int) := do
  forgetJob
  let s ← get
  let (sys, id) := s.system.startProcess
  let act := live run jobDepth do
    pass startTime
    body
  let (result, after) := act.run.run ⟨adjust (s.process.child id), sys, []⟩
  setSystem (after.system.endProcess id)
  match result with
  | .error flow => throw flow
  | .ok status =>
    resume run
    return (id, status)

end PocketShell.Machine.Script
