import PocketShell.Proofs.LineEnds
import PocketShell.Proofs.LogAndBanner
import PocketShell.Proofs.StandardRuns

/-!
# Input that is no text

A line of the input that is no text ends the run, and nothing of it or of what stands behind it is
executed. A run on such an input is the run on the lines in front of the bad one, up to its last
event: the loop logs the failed read where it would have finished the line of the prompt.

If a line in front of the bad one asks to stop, the two runs do not differ at all.
-/

namespace PocketShell

open Shell (along asksToStop)
open Text (Bytes IsLine encode)

/-- No line changes the name of the user. -/
theorem Shell.afterLines_identity {W : Type u} (host : Host W) (sh : Shell W)
    (lines : List String) : (sh.afterLines host lines).session.identity = sh.session.identity := by
  induction lines generalizing sh with
  | nil => rfl
  | cons line lines ih => rw [afterLines_cons, ih, execute_identity]

/-- When a line asks to stop, nothing depends on what is read behind the lines. -/
theorem Loop.exists_converse_eq_of_stops {W : Type u} (host : Host W) {lines : List String}
    (hne : ∀ line ∈ lines, line ≠ "") (hstop : ∃ line ∈ lines, asksToStop line = true)
    (sh : Shell W) :
    ∃ shell events, ∀ tail, ∃ left,
      converse host .standard sh (lines.map .line ++ tail) = ⟨.ok (), shell, events, left⟩ := by
  rcases forall_or_exists_first asksToStop lines with
    hpass | ⟨before, line, after, rfl, hbefore, hline⟩
  · obtain ⟨line, hl, hstop⟩ := hstop
    rw [hpass line hl] at hstop
    cases hstop
  · refine ⟨sh.afterLines host (before ++ [line]),
      along host (round host) sh (before ++ [line]) ++ closing,
      fun tail => ⟨after.map .line ++ tail, ?_⟩⟩
    rw [List.map_append, List.map_cons, List.append_assoc, List.cons_append]
    exact converse_of_stops host (fun k hk => ⟨hne k (by simp [hk]), hbefore k hk⟩)
      (hne line (by simp)) hline sh _

/-- Behind lines of which none asks to stop, a run at the end of its input and a run on a read that
fails go on to the same end, up to one event. -/
theorem Loop.exists_converse_eq_of_passes {W : Type u} (host : Host W) {lines : List String}
    (h : ∀ line ∈ lines, line ≠ "" ∧ asksToStop line = false) (sh : Shell W) :
    ∃ (rounds : Trace) (last : Shell W), last.session.identity = sh.session.identity ∧
      converse host .standard sh (lines.map .line ++ []) =
        ⟨.ok (), last, rounds ++ ask last ++ .wrote "\n" :: closing, []⟩ ∧
      converse host .standard sh (lines.map .line ++ [.fails Console.undecodable]) =
        ⟨.ok (), last,
          rounds ++ ask last ++ .logged (.readFailed Console.undecodable) :: closing, []⟩ := by
  refine ⟨along host (round host) sh lines, sh.afterLines host lines,
    Shell.afterLines_identity host sh lines, ?_, ?_⟩
  · rw [converse_of_passes host h, converse_nil]
    simp only [List.append_assoc, List.singleton_append]
  · rw [converse_of_passes host h, converse_undecodable]
    simp only [List.append_assoc, List.singleton_append]

/-- What a run puts into the output, when one event stands between the last prompt and what closes
the loop. -/
theorem Loop.inOrder_ending {W : Type u} (rounds : Trace) (last : Shell W) (mark : Event) :
    Trace.inOrder (rounds ++ ask last ++ mark :: closing) =
      Trace.inOrder rounds ++ (encode last.session.prompt ++
        (Trace.inOrder [mark] ++ encode (shutdownNotice ++ "\n"))) := by
  have hask : Trace.inOrder (ask last) = encode last.session.prompt := by
    simp [Trace.inOrder, ask]
  have hclosing : Trace.inOrder closing = encode (shutdownNotice ++ "\n") := by
    simp [Trace.inOrder, closing]
  rw [Trace.inOrder_append, Trace.inOrder_append, hask, ← hclosing, ← Trace.inOrder_append,
    List.append_assoc]
  rfl

namespace Program

variable {W : Type u} (host : Host W)

/-- Input that is no text stops the program cleanly. Where a line of bytes that is no text follows a
text, the program exits with 0 and does what it does on the text alone; if it gets to the line, the
record of a failed read stands for the line feed behind the last prompt. -/
theorem undecodable_line (world : W) {environment : Option String} {arguments : List String}
    {shows : Bool} {level : LogLevel}
    (h : Options.parse environment arguments = .ok (.run shows level)) {text : String}
    (htext : ∀ c ∈ text.toList.getLast?, c = '\n') {bad : Bytes} (hline : IsLine (· == 0x0A) bad)
    (hbad : ∀ s, encode s ≠ bad) (rest : Bytes) :
    let program := start host world environment arguments (encode text ++ bad ++ rest)
    let program' := start host world environment arguments (encode text)
    program.code? = some 0 ∧
    ((∃ line ∈ Console.textLines text, asksToStop line = true) →
      program.trace = program'.trace ∧ program.effects world = program'.effects world) ∧
    ((∀ line ∈ Console.textLines text, asksToStop line = false) →
      program.trace.executed = Console.textLines text ∧
      program'.trace.executed = Console.textLines text ∧
      program.trace.launches = program'.trace.launches ∧
      (program.effects world).world = (program'.effects world).world ∧
      (∃ events, program.trace =
          events ++ .logged (.readFailed Console.undecodable) :: Loop.closing ∧
        program'.trace = events ++ .wrote "\n" :: Loop.closing) ∧
      ∃ written : Bytes,
        program.output = written ++ encode (defaultIdentity ++ "$ " ++ (shutdownNotice ++ "\n")) ∧
        program'.output =
          written ++ encode (defaultIdentity ++ "$ " ++ "\n" ++ (shutdownNotice ++ "\n"))) := by
  intro program program'
  have hne : ∀ line ∈ Console.textLines text, line ≠ "" :=
    fun line hl => Console.ne_empty_of_mem_textLines hl
  have hreads : Console.reads (encode text ++ bad ++ rest) =
      (Console.textLines text).map .line ++ [.fails Console.undecodable] := by
    rw [Console.reads_undecodable_line htext hline hbad, Console.reads_encode_eq_map]
  have hreads' : Console.reads (encode text) = (Console.textLines text).map .line ++ [] := by
    rw [Console.reads_encode_eq_map, List.append_nil]
  have hprogram := start_of_parse host world h (encode text ++ bad ++ rest)
  have hprogram' := start_of_parse host world h (encode text)
  refine ⟨?_, ?_, ?_⟩
  · simp only [program, hprogram]
    exact code?_ran_reads host level _ shows _ _
  · -- a line that asks to stop is never followed by the read in which the inputs differ
    intro hstop
    obtain ⟨shell, events, htalk⟩ := Loop.exists_converse_eq_of_stops host hne hstop
      (Shell.start defaultHome defaultIdentity world)
    obtain ⟨left, hconverse⟩ := htalk [.fails Console.undecodable]
    obtain ⟨left', hconverse'⟩ := htalk []
    simp only [program, program', hprogram, hprogram', hreads, hreads', Loop.run, hconverse,
      hconverse']
    exact ⟨rfl, rfl⟩
  · -- otherwise both runs come to their last prompt, and part there
    intro hpass
    have hlines : ∀ line ∈ Console.textLines text, line ≠ "" ∧ asksToStop line = false :=
      fun line hl => ⟨hne line hl, hpass line hl⟩
    obtain ⟨-, -, hexecuted, -⟩ := exists_trace_eq host world h hreads hne (Or.inr rfl)
    obtain ⟨-, -, hexecuted', -⟩ := exists_trace_eq host world h hreads' hne (Or.inl rfl)
    rw [upToFirst_of_forall hpass] at hexecuted hexecuted'
    obtain ⟨rounds, last, hidentity, hconverse', hconverse⟩ :=
      Loop.exists_converse_eq_of_passes host hlines (Shell.start defaultHome defaultIdentity world)
    rw [← hreads'] at hconverse'
    rw [← hreads] at hconverse
    have hprompt : last.session.prompt = defaultIdentity ++ "$ " := by
      rw [Session.prompt, hidentity]
      rfl
    refine ⟨hexecuted, hexecuted', ?_, ?_, ?_, ?_⟩
    · simp only [program, program', hprogram, hprogram', trace, Loop.run, hconverse, hconverse',
        Trace.launches_append]
      rfl
    · simp only [program, program', hprogram, hprogram', effects, Loop.run, hconverse, hconverse']
    · refine ⟨Shell.startEvents defaultHome defaultIdentity ++
        (Loop.opening shows ++ (rounds ++ Loop.ask last)), ?_, ?_⟩
      · simp only [program, hprogram, trace, Loop.run]
        rw [hconverse, List.append_assoc (Shell.startEvents _ _),
          List.append_assoc (Loop.opening _)]
      · simp only [program', hprogram', trace, Loop.run]
        rw [hconverse', List.append_assoc (Shell.startEvents _ _),
          List.append_assoc (Loop.opening _)]
    · refine ⟨(if shows then encode (banner ++ "\n") else []) ++ Trace.inOrder rounds, ?_, ?_⟩
      · simp only [program, hprogram, output_ran]
        rw [hconverse, Loop.inOrder_ending, hprompt, Trace.encode_append (_ ++ _),
          List.append_assoc]
        rfl
      · simp only [program', hprogram', output_ran]
        rw [hconverse', Loop.inOrder_ending, hprompt, Trace.encode_append (_ ++ _ ++ _),
          Trace.encode_append (_ ++ _) "\n", List.append_assoc, List.append_assoc]
        rfl

/-- A line that asks to remove a file in front of a carriage return, and then has an overlong form
in it, between two lines that could be executed: the file is still there at the end. -/
theorem undecodable_line_of_removal :
    let text := "rm /a\n \n"
    let bad := encode "rm /b\r" ++ [0xC0, 0x80, 0x0A]
    let rest := encode "rm /c\n"
    let program := start Host.removing ["/a", "/b", "/c"] none [] (encode text ++ bad ++ rest)
    let program' := start Host.removing ["/a", "/b", "/c"] none [] (encode text)
    (∀ c ∈ text.toList.getLast?, c = '\n') ∧ IsLine (· == 0x0A) bad ∧ (∀ s, encode s ≠ bad) ∧
    program.code? = some 0 ∧ program.trace.executed = ["rm /a\n", " \n"] ∧
    program.trace.launches = program'.trace.launches ∧
    (program.effects ["/a", "/b", "/c"]).world = ["/b", "/c"] := by
  intro text bad rest program program'
  have hlast : text.toList.getLast? = some '\n' := by decide +kernel
  have htext : ∀ c ∈ text.toList.getLast?, c = '\n' := by simp [hlast]
  have hline : IsLine (· == 0x0A) bad :=
    ⟨encode "rm /b\r" ++ [0xC0, 0x80], 0x0A, by simp [bad], by decide +kernel, rfl⟩
  have hbroken : (Text.decode bad).ending = .broken := by decide +kernel
  have hbad : ∀ s, encode s ≠ bad := by
    intro s hs
    rw [← hs, Text.decode_encode] at hbroken
    cases hbroken
  have hparse : Options.parse none [] = .ok (.run true .warning) := by rfl
  have hlines : Console.textLines text = ["rm /a\n", " \n"] := by decide +kernel
  have hpass : ∀ line ∈ Console.textLines text, asksToStop line = false := by decide +kernel
  obtain ⟨hcode, -, hrun⟩ := undecodable_line Host.removing ["/a", "/b", "/c"] hparse htext hline
    hbad rest
  obtain ⟨hexecuted, -, hlaunches, hworld, -⟩ := hrun hpass
  have hremoved : (program'.effects ["/a", "/b", "/c"]).world = ["/b", "/c"] := by decide +kernel
  exact ⟨htext, hline, hbad, hcode, hexecuted.trans hlines, hlaunches, hworld.trans hremoved⟩

end Program

end PocketShell
