import PocketShell.Shell

/-!
# The command loop

The loop prompts, reads a line and executes it, until there is no more to read or a command
asks it to stop. `turn` is what it does with one read, and `converse` threads turns through a
list of reads.

The output is flushed before every read and before every execution, so nothing that the shell
wrote can come out behind what a program writes.
-/

namespace PocketShell

/-- What asking for a line gives: a line, which is empty exactly at the end of the input, or a
fault. -/
inductive Read where
  | line (text : String)
  | fails (fault : Fault)
  deriving DecidableEq, Repr

/-- The edge of the banner. -/
def bannerEdge : String := "+-----------------------------------------------------------+\n"

/-- An empty line of the banner. -/
def bannerGap : String := "|                                                           |\n"

/-- What the shell shows when it starts. -/
def banner : String :=
  bannerEdge ++ bannerGap ++
  "|              Minish v1.0.0 - POSIX Compatible             |\n" ++
  bannerGap ++
  "|  Type 'help' for commands, 'exit' to quit                 |\n" ++
  bannerGap ++ bannerEdge

/-- What the shell says when it stops. -/
def shutdownNotice : String := "[sh] Exiting shell..."

/-- What a turn of the loop comes to: the loop goes on, it is over, or a fault leaves it. -/
inductive Next where
  | again
  | over
  | escaped (fault : Fault)
  deriving DecidableEq, Repr

/-- A turn of the loop: how it goes on, the shell afterwards, and the events. -/
structure Turn (W : Type u) where
  next : Next
  shell : Shell W
  events : Trace

/-- A finished run of the loop. The result is the fault that left it, if one did. -/
structure Conversation (W : Type u) where
  result : Except Fault Unit
  shell : Shell W
  events : Trace
  unread : List Read

namespace Loop

variable {W : Type u}

/-- The events at the start of the loop. -/
def opening (showsBanner : Bool) : Trace :=
  if showsBanner then [.wrote (banner ++ "\n")] else []

/-- The events by which a line is asked for. -/
def ask (sh : Shell W) : Trace := [.wrote sh.session.prompt, .flushed, .asked]

/-- The events at the end of the loop. -/
def closing : Trace := [.wrote (shutdownNotice ++ "\n"), .flushed, .logged .ended]

/-- The events that show the text of a command. -/
def tell (text : String) : Trace := if text.isEmpty then [] else [.wrote text, .flushed]

/-- What the loop does with a read. -/
def turn (host : Host W) (handlers : Handlers) (sh : Shell W) : Read → Turn W
  | .fails fault =>
    if fault.kind.endsReading then ⟨.over, sh, [.logged (.readFailed fault)]⟩
    else if fault.kind = .interrupt then ⟨.over, sh, [.wrote "\n"]⟩
    else ⟨.escaped fault, sh, []⟩
  | .line text =>
    if text.isEmpty then ⟨.over, sh, [.wrote "\n"]⟩
    else
      let step := sh.execute host handlers text
      let events := [.flushed, .executing text] ++ step.events
      match step.result with
      | .ok out => ⟨.again, step.shell, events ++ tell out⟩
      | .error fault =>
        ⟨if fault.kind = .stop then .over else .escaped fault, step.shell, events⟩

/-- Asks for a line and takes a turn with what is read, then goes on with the reads that are
left. At the end of the list the input is at its end. -/
def converse (host : Host W) (handlers : Handlers) (sh : Shell W) : List Read → Conversation W
  | [] =>
    let t := turn host handlers sh (.line "")
    ⟨.ok (), t.shell, ask sh ++ t.events ++ closing, []⟩
  | read :: rest =>
    let t := turn host handlers sh read
    match t.next with
    | .again =>
      let later := converse host handlers t.shell rest
      { later with events := ask sh ++ t.events ++ later.events }
    | .over => ⟨.ok (), t.shell, ask sh ++ t.events ++ closing, rest⟩
    | .escaped fault => ⟨.error fault, t.shell, ask sh ++ t.events, rest⟩

/-- A run of the loop from its start. -/
def run (host : Host W) (handlers : Handlers) (showsBanner : Bool) (sh : Shell W)
    (reads : List Read) : Conversation W :=
  let talk := converse host handlers sh reads
  { talk with events := opening showsBanner ++ talk.events }

end Loop

end PocketShell
