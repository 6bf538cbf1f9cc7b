import PocketShell.Proofs.Commands

/-!
# Dispatch

The first word of a line decides who carries the line out, and the other words are handed on as they
are. The eleven names of built-in commands call the handler that the table has for them; every other
name is launched as a program. One of the two happens, and it happens once.

## Implementation notes

What is not done leaves no event, but the absence of an event says only that the shell does not tell
of it. So the statement also lets the rest of the host and of the table be anything else: a built-in
command comes to the same on hosts that differ in their programs, and a program to the same with
every table.
-/

namespace PocketShell

open Text (words)

namespace Shell

variable {W : Type u} (host : Host W) (handlers : Handlers) (sh : Shell W)

/-- Settling the result of a handler calls no other. -/
theorem calls_settle (result : Except Fault String) : Trace.calls (settle result).2 = [] := by
  apply List.filterMap_eq_nil_iff.mpr
  intro e he
  obtain ⟨r, rfl⟩ := eq_logged_of_mem_settle he
  rfl

/-- Behind the start of a launch no handler is called and no other launch starts. -/
theorem calls_launches_launchEvents (name : String) (launched : Except LaunchError (Run W)) :
    Trace.calls (launchEvents name launched) = [] ∧
      Trace.launches (launchEvents name launched) = [] := by
  cases launched with
  | error e => exact ⟨rfl, rfl⟩
  | ok run => simp [launchEvents, Trace.calls, Trace.launches]

variable {host handlers} in
/-- A handler looks up paths and lists directories. It sees nothing else of the host, and nothing of
the table but its own entry. -/
theorem handle_congr {host' : Host W} {handlers' : Handlers} {b : Builtin}
    (hpresent : host'.present = host.present) (hlist : host'.list = host.list)
    (hentry : handlers' b = handlers b) (arguments : List String) :
    sh.handle host' handlers' b arguments = sh.handle host handlers b arguments := by
  have hexists : sh.pathExists host' = sh.pathExists host := by
    funext path
    simp only [pathExists, hpresent]
  have hchange : sh.changeDirectory host' = sh.changeDirectory host := by
    funext arguments
    cases arguments <;> simp only [changeDirectory, hexists]
  have hlisted : sh.listDirectory host' = sh.listDirectory host := by
    funext path
    simp only [listDirectory, hlist]
  simp only [handle, hentry]
  cases handlers b with
  | standard => cases b <;> simp only [standardHandler, hchange, hlisted]
  | returns text => rfl
  | fails fault => rfl

end Shell

/-- A launch asks the host to execute programs with one list of arguments, in the world in which it
starts. -/
theorem launch_congr {W : Type u} {host host' : Host W} {world : W} {name : String}
    {arguments : List String} (hpath : host'.searchPath = host.searchPath)
    (hexecute : ∀ path,
      host'.execute world path (name :: arguments) = host.execute world path (name :: arguments)) :
    launch host' world name arguments = launch host world name arguments := by
  simp only [launch, hpath, hexecute]

namespace Builtin

/-- The names of the built-in commands. -/
theorem exists_name_eq_iff (word : String) :
    (∃ b, name b = word) ↔ word ∈ ["exit", "quit", "help", "echo", "pwd", "cd", "ls",
      "whoami", "uname", "date", "clear"] := by
  constructor
  · rintro ⟨b, rfl⟩
    cases b <;> decide
  · intro h
    have hnames : ["exit", "quit", "help", "echo", "pwd", "cd", "ls", "whoami", "uname", "date",
        "clear"] = all.map name := by
      decide
    rw [hnames] at h
    obtain ⟨b, -, hb⟩ := List.mem_map.mp h
    exact ⟨b, hb⟩

end Builtin

namespace Shell

variable {W : Type u}

/-- Dispatch is exact. A line calls one handler with the words behind its first, if this is one of
the eleven names, and otherwise attempts one launch with all words; it never does both, and nothing
else of the table or the host has an influence. -/
theorem execute_dispatch (host : Host W) (handlers : Handlers) (sh : Shell W) (line : String) :
    let step := sh.execute host handlers line
    (∀ name, (∃ b, Builtin.name b = name) ↔ name ∈ ["exit", "quit", "help", "echo", "pwd", "cd",
      "ls", "whoami", "uname", "date", "clear"]) ∧
    (words line = [] → step = ⟨.ok "", sh, []⟩) ∧
    ∀ name arguments, words line = name :: arguments →
      (∀ b, Builtin.name b = name →
        step.events.calls = [(b, arguments)] ∧ step.events.launches = [] ∧
        step.result = (settle (sh.handle host handlers b arguments).1).1 ∧
        step.shell = { sh with session := (sh.handle host handlers b arguments).2 } ∧
        ∀ (host' : Host W) (handlers' : Handlers), host'.present = host.present →
          host'.list = host.list → handlers' b = handlers b →
          sh.execute host' handlers' line = step) ∧
      ((∀ b, Builtin.name b ≠ name) →
        step.events.calls = [] ∧ step.events.launches = [(name, arguments)] ∧
        step.result = .ok (describe name (outcomeOf (launch host sh.world name arguments))) ∧
        step.shell.home = sh.home ∧ step.shell.session = sh.session ∧
        ∀ (host' : Host W) (handlers' : Handlers), host'.searchPath = host.searchPath →
          (∀ path, host'.execute sh.world path (name :: arguments) =
            host.execute sh.world path (name :: arguments)) →
          sh.execute host' handlers' line = step) := by
  intro step
  refine ⟨Builtin.exists_name_eq_iff, execute_of_blank host handlers sh, ?_⟩
  intro name arguments hw
  constructor
  · rintro b rfl
    have hstep : step = sh.runBuiltin host handlers b arguments :=
      execute_of_builtin host handlers sh hw
    obtain ⟨-, hlaunches⟩ := execute_keeps_world host handlers sh (Or.inr ⟨b, arguments, hw⟩)
    have hcalls : (sh.runBuiltin host handlers b arguments).events.calls = [(b, arguments)] :=
      congrArg ((b, arguments) :: ·) (calls_settle _)
    refine ⟨hstep ▸ hcalls, hlaunches, by rw [hstep]; rfl, by rw [hstep]; rfl, ?_⟩
    intro host' handlers' hpresent hlist hentry
    rw [execute_of_builtin host' handlers' sh hw, hstep, runBuiltin, runBuiltin,
      handle_congr sh hpresent hlist hentry]
  · intro hname
    have hnone : Builtin.named? name = none := Builtin.named?_eq_none_iff.mpr hname
    have hstep : step = sh.runExternal host name arguments :=
      execute_of_external host handlers sh hw hnone
    obtain ⟨hcalls, hlater⟩ :=
      calls_launches_launchEvents name (launch host sh.world name arguments)
    have hlaunches : (sh.runExternal host name arguments).events.launches = [(name, arguments)] :=
      congrArg ((name, arguments) :: ·) hlater
    refine ⟨hstep ▸ hcalls, hstep ▸ hlaunches, by rw [hstep]; rfl, by rw [hstep]; rfl,
      by rw [hstep]; rfl, ?_⟩
    intro host' handlers' hpath hexecute
    rw [execute_of_external host' handlers' sh hw hnone, hstep, runExternal, runExternal,
      launch_congr hpath hexecute]

/-- A name that is built in gets what its entry returns, on a machine without programs too. In upper
case it is launched, with an argument that holds a separator control. -/
theorem execute_dispatch_of_altered :
    let sh := Shell.start "/" "root" ["/a"]
    let builtin := sh.execute .removing .altered "uname\t-a \n"
    let external := sh.execute .removing .altered "UNAME  a\x1cb \"c\n"
    builtin.events.calls = [(.uname, ["-a"])] ∧ builtin.events.launches = [] ∧
    builtin.result = .ok "box\n" ∧
    sh.execute { Host.removing with execute := fun _ _ _ => .error .noEntry } .altered
      "uname\t-a \n" = builtin ∧
    external.events.calls = [] ∧ external.events.launches = [("UNAME", ["a\x1cb", "\"c"])] ∧
    external.result = .ok "[sh] command not found: UNAME\n" ∧
    sh.execute .removing .standard "UNAME  a\x1cb \"c\n" = external := by
  intro sh builtin external
  have huname : words "uname\t-a \n" = ["uname", "-a"] := by decide +kernel
  have hupper : words "UNAME  a\x1cb \"c\n" = ["UNAME", "a\x1cb", "\"c"] := by decide +kernel
  obtain ⟨-, -, hbuiltin⟩ := execute_dispatch Host.removing .altered sh "uname\t-a \n"
  obtain ⟨hcalls, hlaunches, hresult, -, hsame⟩ := (hbuiltin _ _ huname).1 .uname rfl
  obtain ⟨hnames, -, hexternal⟩ :=
    execute_dispatch Host.removing .altered sh "UNAME  a\x1cb \"c\n"
  have hnone : ∀ b, Builtin.name b ≠ "UNAME" :=
    not_exists.mp (mt (hnames "UNAME").mp (by decide))
  have hzero : ["UNAME", "a\x1cb", "\"c"].any hasZero = false := by decide +kernel
  have hpaths : candidates Host.removing.searchPath "UNAME" = ["/usr/bin/UNAME", "/bin/UNAME"] := by
    decide +kernel
  have hlaunch : outcomeOf (launch Host.removing sh.world "UNAME" ["a\x1cb", "\"c"]) =
      .error (.refused .noEntry) := by
    simp only [launch, hzero, hpaths]
    rfl
  obtain ⟨hcalls', hlaunches', hresult', -, -, hsame'⟩ := (hexternal _ _ hupper).2 hnone
  rw [hlaunch] at hresult'
  exact ⟨hcalls, hlaunches, hresult, hsame _ _ rfl rfl rfl, hcalls', hlaunches', hresult',
    hsame' _ _ rfl fun _ => rfl⟩

end Shell

end PocketShell
