import PocketShell.Machine.Script.Builtin
import PocketShell.Machine.Script.Life

/-!
# Commands about jobs

The commands of the shell itself that wait for what runs in the background, and that tell about
it. There is no job control: a job cannot be brought to the foreground.
-/

namespace PocketShell.Machine.Script

open Act

section

variable (run : Runner)

/-- Waits until something holds of the jobs. The answer is the signal that ended the waiting
before, if one did. -/
def waitFor (holds : List Job → Bool) : Act (Option Nat) := waitUntil (live run jobDepth) run holds

/-- Marks the jobs that have ended as waited for. -/
def markEnded (isMeant : Job → Bool) : Act Unit :=
  modify fun s =>
    let mark (j : Job) : Job :=
      if j.outcome.isSome && isMeant j then { j with isWaitedFor := true } else j
    { s with jobs := s.jobs.map mark }

/-- The process that an argument of `wait` names. -/
def waitTarget (s : String) : Act Nat := do
  if s.startsWith "%" then return (← findJob s).process.id else numberArgument s

/-- Waits for processes one after the other, and has the status of the last that is a job. -/
def waitForEach : (status : Nat) → List String → Act Unit
  | status, [] => finish status
  | status, s :: rest => do
    let id ← waitTarget s
    let isMeant (j : Job) : Bool := j.process.id = id
    match (← get).jobs.find? isMeant with
    | none => waitForEach status rest
    | some before =>
      let hasEnded (jobs : List Job) : Bool := jobs.all fun j => !isMeant j || j.outcome.isSome
      match ← waitFor run hasEnded with
      | some signal => finish (128 + signal)
      | none =>
        markEnded isMeant
        let outcome := ((← get).jobs.find? isMeant).bind (·.outcome)
        if before.outcome.isNone then announce (outcome.getD 0)
        waitForEach (Signal.seenStatus (outcome.getD 0)) rest

/-- Waits for all jobs, or for some processes. -/
def wait (arguments : List String) : Act Unit := do
  match (← takeFlags "" arguments).2 with
  | [] =>
    let signal ← waitFor run fun jobs => jobs.all (·.outcome.isSome)
    markEnded fun _ => true
    finish ((signal.map (128 + ·)).getD 0)
  | targets => waitForEach run 127 targets

/-- What a job does or has come to. -/
def Job.account (j : Job) : String :=
  match j.outcome with
  | none => "Running"
  | some status =>
    if status < 0 then Signal.account status.natAbs
    else if status = 0 then "Done"
    else "Done(" ++ toString status ++ ")"

/-- Shows the job with a process. One that has ended is forgotten then. -/
def showJob (withProcess : Bool) (id : Nat) : Act Unit := do
  match (← get).jobs.zipIdx.find? (·.1.process.id = id) with
  | none => return
  | some (j, n) =>
    let sign := if n = 0 then "+" else if n = 1 then "-" else " "
    let text := "[" ++ toString j.place ++ "] " ++ sign ++ " " ++
      (if withProcess then toString id ++ " " else "") ++ j.account
    let spaces := String.ofList (List.replicate (max 1 (33 - text.length)) ' ')
    let _ ← write 1 (text ++ spaces ++ "\n")
    if j.outcome.isSome then
      modify fun s => { s with jobs := s.jobs.filter (·.process.id ≠ id) }

/-- Tells about jobs. -/
def tellJobs (arguments : List String) : Act Unit := do
  let (options, targets) ← takeFlags "lp" arguments
  catchUp (live run jobDepth) run
  let showOne (id : Nat) : Act Unit :=
    if options.getLast? = some 'p' then do let _ ← write 1 (toString id ++ "\n")
    else showJob (options.getLast? = some 'l') id
  if targets.isEmpty then ((← get).jobs.map (·.process.id)).forM showOne
  else targets.forM fun s => do showOne (← findJob s).process.id
  finish 0

/-- Refuses to bring a job to the foreground or to let it go on in the background. -/
def refuseControl (arguments : List String) : Act Unit := do
  let (_, targets) ← takeFlags "" arguments
  let _ ← findJob (targets.headD "%")
  fail ("job " ++ targets.headD "(null)" ++ " not created under job control")

end

end PocketShell.Machine.Script
