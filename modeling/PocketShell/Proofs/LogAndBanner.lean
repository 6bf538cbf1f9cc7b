import PocketShell.Proofs.CommandLines
import PocketShell.Proofs.FaultContainment
import PocketShell.Proofs.FlushOrder

/-!
# The level of the log and the banner

A command line that sets a level decides which records are seen, and one with an option against
the banner keeps the banner back. Neither reaches the loop otherwise: on the same input two such
programs run to the same end, launch the same programs and write the same, up to the banner.

The run always comes to its own end, as `reads` only fails in a way that the loop knows, and the
handlers that come with the commands never interrupt.
-/

namespace PocketShell

open Text (Bytes encode)

namespace Loop

variable {W : Type u} (host : Host W)

/-- With the handlers that come with the commands, no fault leaves a run whose reads fail only in
ways that the loop knows. -/
theorem run_standard_eq_ok (showsBanner : Bool) (sh : Shell W) {reads : List Read}
    (hreads : ∀ fault, .fails fault ∈ reads →
      fault.kind.endsReading = true ∨ fault.kind = .interrupt) :
    (run host .standard showsBanner sh reads).result = .ok () := by
  cases hresult : (run host .standard showsBanner sh reads).result with
  | ok => rfl
  | error fault =>
      obtain ⟨lines, text, last, read, rest, rfl, -, hnext⟩ := converse_eq_error_iff.mp hresult
      cases read with
      | line line =>
          obtain ⟨-, b, arguments, -, hb⟩ := turn_line_eq_escaped_iff_interrupt.mp hnext
          cases hb
      | fails f =>
          rcases hreads f (by simp) with hends | hinterrupt
          · rw [turn_of_endsReading hends] at hnext
            cases hnext
          · rw [turn_of_interrupt hinterrupt] at hnext
            cases hnext

/-- So none leaves a run on an input, whose reads only fail where it is no text. -/
theorem run_reads_eq_ok (showsBanner : Bool) (sh : Shell W) (input : Bytes) :
    (run host .standard showsBanner sh (Console.reads input)).result = .ok () := by
  apply run_standard_eq_ok
  intro fault h
  rw [Console.eq_undecodable_of_mem_reads h]
  exact Or.inl rfl

/-- What an opening puts into the output. -/
theorem inOrder_opening (showsBanner : Bool) :
    (opening showsBanner).inOrder = if showsBanner then encode (banner ++ "\n") else [] := by
  cases showsBanner <;> simp [opening, Trace.inOrder]

end Loop

namespace Program

variable {W : Type u} (host : Host W)

/-- What a program writes that runs the loop: the banner, and behind it what the loop and its
programs write in their order. -/
theorem output_ran (level : LogLevel) (showsBanner : Bool) (sh : Shell W) (reads : List Read) :
    (Program.ran level (Shell.startEvents defaultHome defaultIdentity)
        (Loop.run host .standard showsBanner sh reads)).output =
      (if showsBanner then encode (banner ++ "\n") else []) ++
        (Loop.converse host .standard sh reads).events.inOrder := by
  obtain ⟨htime, -⟩ := Loop.onTime_run host .standard showsBanner sh reads
  calc (Program.ran level (Shell.startEvents defaultHome defaultIdentity)
        (Loop.run host .standard showsBanner sh reads)).output
    _ = (Loop.run host .standard showsBanner sh reads).events.inOrder :=
        htime.terminalFrom_eq
    _ = (Loop.opening showsBanner).inOrder ++
          (Loop.converse host .standard sh reads).events.inOrder := Trace.inOrder_append _ _
    _ = _ := by rw [Loop.inOrder_opening]

/-- A command line that sets a level runs the loop on the whole input. -/
theorem start_of_sets (world : W) (environment : Option String) (input : Bytes)
    {arguments : List String} {shows : Bool} {level : LogLevel}
    (h : Options.Sets arguments shows (some level)) :
    start host world environment arguments input =
      .ran level (Shell.startEvents defaultHome defaultIdentity)
        (Loop.run host .standard shows (Shell.start defaultHome defaultIdentity world)
          (Console.reads input)) := by
  simp only [start, h.parse_eq]

/-- Such a run comes to its own end. -/
theorem code?_ran_reads (level : LogLevel) (startUp : Trace) (shows : Bool) (sh : Shell W)
    (input : Bytes) :
    (Program.ran level startUp
      (Loop.run host .standard shows sh (Console.reads input))).code? = some 0 := by
  simp only [code?, Loop.run_reads_eq_ok]

/-- The programs that are launched do not depend on the banner. -/
theorem launches_run (shows : Bool) (sh : Shell W) (reads : List Read) :
    (Loop.run host .standard shows sh reads).events.launches =
      (Loop.converse host .standard sh reads).events.launches := by
  simp only [Loop.run, Trace.launches_append]
  cases shows <;> rfl

/-- The level of the log and the banner change nothing of what the shell does: command lines that
set them make programs that exit with 0, launch the same programs, leave the same shell and world,
and write the same behind the banner. -/
theorem same_run_of_sets (world : W) (environment : Option String) (input : Bytes)
    {arguments arguments' : List String} {shows shows' : Bool} {level level' : LogLevel}
    (h : Options.Sets arguments shows (some level))
    (h' : Options.Sets arguments' shows' (some level')) :
    let program := Program.start host world environment arguments input
    let program' := Program.start host world environment arguments' input
    ∃ startUp talk talk', program = .ran level startUp talk ∧
      program' = .ran level' startUp talk' ∧
      program.code? = some 0 ∧ program'.code? = some 0 ∧
      program.trace.launches = program'.trace.launches ∧ talk.shell = talk'.shell ∧
      ∃ written : Bytes,
        program.output = (if shows then encode (banner ++ "\n") else []) ++ written ∧
        program'.output = (if shows' then encode (banner ++ "\n") else []) ++ written := by
  intro program program'
  have hstart := start_of_sets host world environment input h
  have hstart' := start_of_sets host world environment input h'
  let talk := Loop.converse host .standard (Shell.start defaultHome defaultIdentity world)
    (Console.reads input)
  refine ⟨_, _, _, hstart, hstart', ?_, ?_, ?_, rfl, talk.events.inOrder, ?_, ?_⟩
  · simp only [program, hstart, code?_ran_reads]
  · simp only [program', hstart', code?_ran_reads]
  · simp only [program, program', hstart, hstart', trace, Trace.launches_append, launches_run]
  · simp only [program, hstart]
    exact output_ran host level shows _ _
  · simp only [program', hstart']
    exact output_ran host level' shows' _ _

/-- A shortened option with a dotless letter in its level, and an attached level with the banner
kept back, on an input that stops being a text, while the environment has no level at all. -/
theorem same_run_of_sets_of_removal :
    let input := encode "rm /a\nls a\x00\n" ++ [0xFF, 0x0A]
    let arguments := ["--log", "ınfo"]
    let arguments' := ["--no-banner", "--log-level=critical", "--log-level=Debug"]
    let program := start Host.removing ["/a"] (some "none") arguments input
    let program' := start Host.removing ["/a"] (some "none") arguments' input
    Options.Sets arguments true (some .info) ∧ Options.Sets arguments' false (some .debug) ∧
    ∃ startUp talk talk', program = .ran .info startUp talk ∧
      program' = .ran .debug startUp talk' ∧
      program.code? = some 0 ∧ program'.code? = some 0 ∧
      program.trace.launches = program'.trace.launches ∧ talk.shell = talk'.shell ∧
      ∃ written : Bytes,
        program.output = encode (banner ++ "\n") ++ written ∧ program'.output = written := by
  intro input arguments arguments' program program'
  have hsets : Options.Sets arguments true (some .info) :=
    .level ⟨by decide, by decide⟩ (by decide +kernel) .nil
  have hlevel : Options.Abbreviates "--log-level" .logLevel := ⟨by decide, by decide⟩
  have hcritical : LogLevel.named? "critical" = some .critical := by decide +kernel
  have hdebug : LogLevel.named? "Debug" = some .debug := by decide +kernel
  have hsets' : Options.Sets arguments' false (some .debug) :=
    .noBanner ⟨by decide, by decide⟩ (.attached hlevel hcritical (.attached hlevel hdebug .nil))
  obtain ⟨startUp, talk, talk', hrun, hrun', hcode, hcode', hlaunches, hshell, written, hout,
    hout'⟩ := same_run_of_sets Host.removing ["/a"] (some "none") input hsets hsets'
  rw [if_pos rfl] at hout
  rw [if_neg Bool.false_ne_true, List.nil_append] at hout'
  exact ⟨hsets, hsets', startUp, talk, talk', hrun, hrun', hcode, hcode', hlaunches, hshell,
    written, hout, hout'⟩

end Program

end PocketShell
