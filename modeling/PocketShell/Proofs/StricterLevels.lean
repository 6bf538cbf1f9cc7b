import PocketShell.Proofs.LogAndBanner
import PocketShell.Proofs.StandardRuns

/-!
# Stricter levels of the log

Records of the shell and bytes of its programs share the diagnostics stream. A stricter level takes
records out of it and nothing else: what is left stands in the order in which it stood, and every
byte of a program is among it.

What there is to take out of is said line by line: `Shell.told` lists what a command sends to the
stream at the laxest level, by its words, and a run is the list of what its lines tell between the
record of its start and that of its end.
-/

namespace PocketShell

open Text (Bytes encode words)

/-- Whether a diagnostic is seen when records are kept from a level on. What a program writes is
seen at every level. -/
def Diagnostic.passes (threshold : LogLevel) : Diagnostic → Bool
  | .record r => threshold.keeps r.level
  | .child _ => true

/-- An event that is seen from a level on is seen from every laxer level on, and it passes. -/
theorem Event.diagnostic?_eq_filter {lax strict : LogLevel} (h : lax.rank ≤ strict.rank)
    (e : Event) : e.diagnostic? strict = (e.diagnostic? lax).filter (·.passes strict) := by
  cases e with
  | logged r =>
      have hlax (hstrict : strict.rank ≤ r.level.rank) := Nat.le_trans h hstrict
      by_cases hl : lax.rank ≤ r.level.rank
      · simp [diagnostic?, LogLevel.keeps, hl, Diagnostic.passes, Option.filter]
      · simp [diagnostic?, LogLevel.keeps, hl, mt hlax hl]
  | child stream bytes =>
      cases stream <;> simp [diagnostic?, Diagnostic.passes, Option.filter]
  | wrote | flushed | asked | executing | called | launching => rfl

namespace Trace

@[simp] theorem diagnostics_append (threshold : LogLevel) (s t : Trace) :
    diagnostics threshold (s ++ t) = diagnostics threshold s ++ diagnostics threshold t :=
  List.filterMap_append

/-- What is seen from a level on is a part of what is seen from a laxer one on, and the records
below the level are all that is missing. -/
theorem diagnostics_eq_filter {lax strict : LogLevel} (h : lax.rank ≤ strict.rank) (t : Trace) :
    t.diagnostics strict = (t.diagnostics lax).filter (·.passes strict) := by
  rw [diagnostics, diagnostics, List.filter_filterMap]
  congr 1
  funext e
  exact e.diagnostic?_eq_filter h

end Trace

namespace Shell

variable {W : Type u}

/-- What a launch tells, from what came of it: the refusal, or the start of the program, all that it
writes to the stream, and its end. -/
def toldOfLaunch (name : String) : Except LaunchError (Run W) → List Diagnostic
  | .error e => [.record (.notLaunched name e)]
  | .ok run =>
    .record (.spawned run.processName) ::
      (run.writes.filter (·.1 = .diagnostics)).map (fun write => .child write.2) ++
        [.record (.exited run.status)]

/-- What a command tells, by its words. A built-in command tells that it is called, and `ls` also
that a path with a zero character is of no use to it. Every other command tells what its launch
does. -/
def told (host : Host W) (sh : Shell W) : List String → List Diagnostic
  | [] => []
  | name :: arguments =>
    match Builtin.named? name with
    | some b =>
      .record (.dispatched name true) ::
        if b = .ls ∧ hasZero (arguments.headD sh.session.workingDirectory) then
          [.record (.unexpected ⟨.badValue, "embedded null byte"⟩)]
        else []
    | none =>
      .record (.dispatched name false) :: toldOfLaunch name (launch host sh.world name arguments)

variable (host : Host W) (sh : Shell W)

theorem diagnostics_launchEvents (name : String) (launched : Except LaunchError (Run W)) :
    (launchEvents name launched).diagnostics .debug = toldOfLaunch name launched := by
  cases launched with
  | error e => rfl
  | ok run =>
      have hwrites : Trace.diagnostics .debug (run.writes.map fun write => .child write.1 write.2) =
          (run.writes.filter (·.1 = .diagnostics)).map fun write => .child write.2 := by
        induction run.writes with
        | nil => rfl
        | cons write writes ih =>
            obtain ⟨_ | _, bytes⟩ := write <;>
              simpa [Trace.diagnostics, Event.diagnostic?] using ih
      change Trace.diagnostics .debug ([.logged (.spawned run.processName)] ++
        (run.writes.map fun write => .child write.1 write.2) ++ [.logged (.exited run.status)]) = _
      rw [Trace.diagnostics_append, Trace.diagnostics_append, hwrites]
      rfl

/-- The records of a built-in command beside that of its call. -/
theorem diagnostics_settle (b : Builtin) (arguments : List String) :
    Trace.diagnostics .debug (settle (sh.handle host .standard b arguments).1).2 =
      if b = .ls ∧ hasZero (arguments.headD sh.session.workingDirectory) then
        [.record (.unexpected ⟨.badValue, "embedded null byte"⟩)]
      else [] := by
  have hfaults : ∀ fault, (sh.handle host .standard b arguments).1 = .error fault ↔
      Faults .standard sh b arguments fault := fun fault => handle_eq_error_iff host .standard sh
  split
  · next h =>
      obtain ⟨rfl, hz⟩ := h
      rw [(hfaults _).mpr (.unusable rfl hz)]
      rfl
  · next h =>
      cases hr : (sh.handle host .standard b arguments).1 with
      | ok text => rfl
      | error fault =>
          cases (hfaults fault).mp hr with
          | replaced h => cases h
          | stops _ hb => rfl
          | unusable _ hz => exact absurd ⟨rfl, hz⟩ h

/-- What the execution of a line sends to the diagnostics is what its words tell. -/
theorem diagnostics_execute (line : String) :
    (sh.execute host .standard line).events.diagnostics .debug = sh.told host (words line) := by
  rcases execute_cases host .standard sh line with
    ⟨hw, hx⟩ | ⟨b, arguments, hw, hx⟩ | ⟨name, arguments, hw, hn, hx⟩
  · rw [hx, hw]
    rfl
  · have hb : Builtin.named? b.name = some b := Builtin.named?_eq_some_iff.mpr rfl
    rw [hx, hw, told, hb]
    exact congrArg _ (diagnostics_settle host sh b arguments)
  · rw [hx, hw, told, hn]
    exact congrArg _ (diagnostics_launchEvents name _)

end Shell

namespace Loop

variable {W : Type u} (host : Host W)

/-- The loop itself sends nothing to the diagnostics while it goes on. -/
theorem diagnostics_round {line : String} (hline : line ≠ "") (sh : Shell W) :
    (round host sh line).diagnostics .debug = sh.told host (words line) := by
  obtain ⟨text, hround⟩ := exists_round_eq host hline sh
  have htell : (tell text).diagnostics .debug = [] := by
    by_cases htext : text = "" <;> simp [tell, htext, Trace.diagnostics, Event.diagnostic?]
  have hexecute := Shell.diagnostics_execute host sh line
  rw [hround, Trace.diagnostics_append, Trace.diagnostics_append, htell, List.append_nil]
  exact hexecute

/-- So what rounds send there is what their lines tell. -/
theorem diagnostics_along {lines : List String} (hne : ∀ line ∈ lines, line ≠ "") (sh : Shell W) :
    Trace.diagnostics .debug (Shell.along host (round host) sh lines) =
      Shell.along host (fun sh line => sh.told host (words line)) sh lines := by
  apply Shell.view_along (round host) (Trace.diagnostics .debug)
    (fun _ lines => ∀ line ∈ lines, line ≠ "") rfl (Trace.diagnostics_append .debug)
  · intro sh line lines hlines
    exact ⟨diagnostics_round host (hlines line List.mem_cons_self) sh,
      fun k hk => hlines k (List.mem_cons_of_mem _ hk)⟩
  · exact hne

end Loop

namespace Program

variable {W : Type u} (host : Host W)

/-- What a program that runs the loop sends to its diagnostics at the laxest level: what its lines
tell, in their order, between the record of its start and that of its end. In front of the last
record it may say that a read failed, if one does. -/
theorem exists_diagnostics_eq (world : W) {environment : Option String} {arguments : List String}
    {shows : Bool} {level : LogLevel}
    (h : Options.parse environment arguments = .ok (.run shows level)) {input : Bytes}
    {lines : List String} {tail : List Read}
    (hreads : Console.reads input = lines.map .line ++ tail) (hne : ∀ line ∈ lines, line ≠ "")
    (htail : tail = [] ∨ tail = [.fails Console.undecodable]) :
    let trace := (start host world environment arguments input).trace
    ∃ failed : List Diagnostic,
      (failed = [] ∨ tail ≠ [] ∧ failed = [.record (.readFailed Console.undecodable)]) ∧
      trace.diagnostics .debug = .record (.started defaultHome defaultIdentity) ::
        Shell.along host (fun sh line => sh.told host (words line))
          (Shell.start defaultHome defaultIdentity world) trace.executed ++ failed ++
        [.record .ended] := by
  intro trace
  obtain ⟨ending, htrace, hlines, hending⟩ := exists_trace_eq host world h hreads hne htail
  have hopening : (Loop.opening shows).diagnostics .debug = [] := by cases shows <;> rfl
  have hexecuted : ∀ line ∈ trace.executed, line ≠ "" := by
    intro line hl
    rw [hlines] at hl
    exact hne line (mem_of_mem_upToFirst hl)
  have hrounds := Loop.diagnostics_along host hexecuted
    (Shell.start defaultHome defaultIdentity world)
  have hall := congrArg (Trace.diagnostics .debug) htrace
  rw [Trace.diagnostics_append, Trace.diagnostics_append, Trace.diagnostics_append, hopening,
    List.append_nil, hrounds] at hall
  rcases hending with hending | ⟨hfails, hending⟩
  · refine ⟨[], Or.inl rfl, ?_⟩
    rw [hall, hending, List.append_nil]
    rfl
  · refine ⟨[.record (.readFailed Console.undecodable)], Or.inr ⟨hfails, rfl⟩, ?_⟩
    rw [hall, hending, List.append_assoc _ [_] [_]]
    rfl

/-- What reaches the diagnostics stream of such a program is the transcript of what is seen of its
events from its level on. -/
theorem diagnostics_eq_transcript (world : W) {environment : Option String}
    {arguments : List String} {shows : Bool} {level : LogLevel}
    (h : Options.parse environment arguments = .ok (.run shows level)) (input : Bytes) :
    (start host world environment arguments input).diagnostics =
      Diagnostic.transcript
        ((start host world environment arguments input).trace.diagnostics level) := by
  simp only [start_of_parse host world h, diagnostics]

/-- The banner is not among the diagnostics, so they are those of the loop behind the record of
the start. -/
theorem diagnostics_trace (threshold : LogLevel) (world : W) {environment : Option String}
    {arguments : List String} {shows : Bool} {level : LogLevel}
    (h : Options.parse environment arguments = .ok (.run shows level)) (input : Bytes) :
    (start host world environment arguments input).trace.diagnostics threshold =
      (Shell.startEvents defaultHome defaultIdentity).diagnostics threshold ++
        (Loop.converse host .standard (Shell.start defaultHome defaultIdentity world)
          (Console.reads input)).events.diagnostics threshold := by
  have hopening : (Loop.opening shows).diagnostics threshold = [] := by cases shows <;> rfl
  rw [start_of_parse host world h, trace, Loop.run, Trace.diagnostics_append,
    Trace.diagnostics_append, hopening, List.nil_append]

/-- A stricter level only takes records out of the diagnostics: it leaves the others and all that
programs write, in the same order. What there is to take out of is told by the lines that are
executed, between the records of the start and of the end. -/
theorem diagnostics_of_stricter_level (world : W) (input : Bytes)
    {environment environment' : Option String} {arguments arguments' : List String}
    {shows shows' : Bool} {level level' : LogLevel}
    (h : Options.parse environment arguments = .ok (.run shows level))
    (h' : Options.parse environment' arguments' = .ok (.run shows' level'))
    (hle : level.rank ≤ level'.rank) :
    let program := start host world environment arguments input
    let program' := start host world environment' arguments' input
    program.diagnostics = Diagnostic.transcript (program.trace.diagnostics level) ∧
    program'.diagnostics = Diagnostic.transcript (program'.trace.diagnostics level') ∧
    program'.trace.diagnostics level' =
      (program.trace.diagnostics level).filter (·.passes level') ∧
    ∃ failed : List Diagnostic,
      (failed = [] ∨ failed = [.record (.readFailed Console.undecodable)]) ∧
      program.trace.diagnostics level =
        (Diagnostic.record (.started defaultHome defaultIdentity) ::
          Shell.along host (fun sh line => sh.told host (words line))
            (Shell.start defaultHome defaultIdentity world) program.trace.executed ++ failed ++
          [Diagnostic.record .ended]).filter (·.passes level) := by
  intro program program'
  -- the two programs differ in the banner only, so one level sees the same of both
  have hsame : program'.trace.diagnostics level' = program.trace.diagnostics level' := by
    rw [diagnostics_trace host level' world h, diagnostics_trace host level' world h']
  refine ⟨diagnostics_eq_transcript host world h input,
    diagnostics_eq_transcript host world h' input, ?_, ?_⟩
  · rw [hsame, Trace.diagnostics_eq_filter hle]
  · obtain ⟨lines, tail, hreads, hne, htail⟩ := Console.exists_reads_eq input
    obtain ⟨failed, hfailed, hdebug⟩ := exists_diagnostics_eq host world h hreads hne htail
    have hlaxest : LogLevel.debug.rank ≤ level.rank := Nat.zero_le _
    exact ⟨failed, hfailed.imp_right And.right, by rw [Trace.diagnostics_eq_filter hlaxest, hdebug]⟩

/-- A program that complains about its argument and is killed, a name of no program, and a path
with a zero character, at level `debug` and at level `error`, at which only the complaint and the
record of the fault are left. -/
theorem diagnostics_of_stricter_level_of_complaint :
    let host : Host (List String) :=
      { Host.removing with
        execute world path arguments :=
          if path = "/bin/rm" then
            .ok ⟨none, -9,
              [(.output, encode "rm\n"), (.diagnostics, encode (arguments.headD ""))], world⟩
          else .error .accessDenied }
    let input := encode "rm /a\nmv\nls \x00\n" ++ [0xC0, 0x0A]
    let program := start host ["/a"] (some "none") ["--log-level", "debug"] input
    let program' := start host ["/a"] none ["--no-banner", "--log-l=ERROR"] input
    program'.trace.diagnostics .error =
      (program.trace.diagnostics .debug).filter (·.passes .error) ∧
    program'.trace.diagnostics .error =
      [.child (encode "rm"), .record (.unexpected ⟨.badValue, "embedded null byte"⟩)] ∧
    (program.trace.diagnostics .debug).length = 11 := by
  intro host input program program'
  have hdebug : LogLevel.named? "debug" = some .debug := by decide +kernel
  have herror : LogLevel.named? "ERROR" = some .error := by decide +kernel
  have hsets : Options.Sets ["--log-level", "debug"] true (some .debug) :=
    .level ⟨by decide, by decide⟩ hdebug .nil
  have hlevel : Options.Abbreviates "--log-l" .logLevel := ⟨by decide, by decide⟩
  have hsets' : Options.Sets ["--no-banner", "--log-l=ERROR"] false (some .error) :=
    .noBanner ⟨by decide, by decide⟩ (.attached hlevel herror .nil)
  obtain ⟨-, -, hfilter, -⟩ := diagnostics_of_stricter_level host ["/a"] input
    (hsets.parse_eq (some "none")) (hsets'.parse_eq none) (by decide)
  exact ⟨hfilter, by decide +kernel, by decide +kernel⟩

end Program

end PocketShell
