import PocketShell.Machine.Interpreter
import PocketShell.Machine.Script.Invocation
import PocketShell.Machine.Utility.Expression
import PocketShell.Machine.Utility.Files
import PocketShell.Machine.Utility.Linking
import PocketShell.Machine.Utility.Listing
import PocketShell.Machine.Utility.Moving
import PocketShell.Machine.Utility.Naming
import PocketShell.Machine.Utility.Process
import PocketShell.Machine.Utility.Reading
import PocketShell.Machine.Utility.Removing
import PocketShell.Machine.Utility.Sequence
import PocketShell.Machine.Utility.Signalling
import PocketShell.Machine.Utility.Testing
import PocketShell.Machine.Utility.Translation

/-!
# Programs of the machine

What executing a path comes to: the programs are a shell that runs scripts and the utilities.
Programs may start one another up to a depth.
-/

namespace PocketShell.Machine

open Script (byteText toBytes)

/-- What a utility does. -/
def Utility.job (exec : Executor) : Utility → Job Int
  | basename => basenameJob
  | bracket => testJob true
  | cat => catJob
  | chmod => chmodJob
  | cp => cpJob
  | dirname => dirnameJob
  | echo => echoJob
  | env => envJob exec
  | expr => exprJob
  | fails => pure 1
  | head => headJob
  | kill => killJob
  | ln => lnJob
  | ls => lsJob
  | mkdir => mkdirJob
  | mv => mvJob
  | printenv => printenvJob
  | printf => printfJob
  | pwd => pwdJob
  | rm => rmJob
  | rmdir => rmdirJob
  | seq => seqJob
  | sleep => sleepJob
  | succeeds => pure 0
  | tail => tailJob
  | tee => teeJob
  | test => testJob false
  | touch => touchJob
  | tr => trJob
  | wc => wcJob
  | yes => yesJob

/-- How deep programs may start one another. -/
def nestingLimit : Nat := 64

/-- How many bytes one text that a program is given may have, with a zero behind it, and how many
all of them, with the room for their addresses. -/
def textLimit : Nat := 131072
@[inherit_doc textLimit] def callLimit : Nat := 2097144

/-- Whether a program is given more than there is room for. -/
def isTooLong (path : String) (call : Call) : Bool :=
  let texts := call.arguments ++ call.environment.map fun (name, value) => name ++ "=" ++ value
  let sizes := texts.map (·.length + 1)
  sizes.any (textLimit < ·) ||
    callLimit < path.length + 1 + sizes.foldl (· + ·) 0 + 8 * sizes.length

/-- Does the job of a utility: the system after it, and its status. -/
def perform (job : Job Int) (sys : System) (call : Call) : System × Int :=
  let act : Job Int := do
    Job.dieOfSignals (← get).clock
    job
  let (status, sys) := ((act.run call).run).run sys
  match status with
  | .ok status | .error status => (sys, status)

/-- Executes what a path leads to. A program that would nest too deep is refused, as a link
that leads to itself is. -/
def execute : (nesting : Nat) → Executor
  | 0, _, _, _ => .error .tooManyLinks
  | nesting + 1, sys, path, call => do
    let _ ← sys.files.executable call.here (toBytes path)
    if isTooLong path call then throw .listTooLong
    let (native, arguments) ←
      sys.files.program call.here FileSystem.interpreterLimit (toBytes path)
        (call.arguments.map toBytes)
    let call := { call with arguments := arguments.map byteText }
    match native with
    | .shell => return Script.executeShell (execute nesting) sys call
    | .utility u => return perform (u.job (execute nesting)) sys call

end PocketShell.Machine
