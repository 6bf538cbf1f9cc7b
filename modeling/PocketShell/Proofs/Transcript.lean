import PocketShell.Proofs.Conversations
import PocketShell.Proofs.Faults

/-!
# The transcript of a run

All that a run of the loop writes is a fold of executions: behind the banner comes the prompt
and the text of every line that does not end the loop, then the last prompt, what finishes its
line, and the notice. `Ends` lists the ways in which the loop can end and `transcript_of_run`
puts the two together.
-/

namespace PocketShell.Loop

variable {W : Type u} {host : Host W} {handlers : Handlers}

/-- A read that does not let the loop go on ends it in one of these ways, if a failed read is of
the kinds that end the input or interrupts, and a fault of a command asks to stop. -/
theorem exists_ends {sh : Shell W} {ending : List Read}
    (hlast : ∀ read ∈ ending.head?, (turn host handlers sh read).next ≠ .again)
    (hreads : ∀ fault, .fails fault ∈ ending →
      fault.kind.endsReading = true ∨ fault.kind = .interrupt)
    (hstop : ∀ line rest fault, ending = .line line :: rest →
      (sh.execute host handlers line).result = .error fault → fault.kind = .stop) :
    ∃ tail final left, Ends host handlers sh ending tail final left := by
  cases ending with
  | nil => exact ⟨_, _, _, .exhausted⟩
  | cons read rest =>
      cases read with
      | fails fault =>
          have hknown := hreads fault (by simp)
          obtain ⟨tail, hends⟩ := exists_ends_of_fails host handlers sh rest hknown
          exact ⟨tail, sh, rest, hends⟩
      | line line =>
          by_cases hline : line = ""
          · subst hline
            exact ⟨_, _, _, .empty⟩
          · cases hr : (sh.execute host handlers line).result with
            | ok out =>
                have hagain := turn_next_eq_again_iff.mpr ⟨line, out, rfl, hline, hr⟩
                exact absurd hagain (hlast _ rfl)
            | error fault =>
                exact ⟨_, _, _, .stopped hline hr (hstop line rest fault rfl hr)⟩

/-- The events of the execution of a line that is asked for are events of the run. -/
theorem mem_converse_of_mem_execute {sh : Shell W} {line : String} {rest : List Read}
    {e : Event} (hline : line ≠ "") (h : e ∈ (sh.execute host handlers line).events) :
    e ∈ (converse host handlers sh (.line line :: rest)).events := by
  have ht : e ∈ (turn host handlers sh (.line line)).events := by
    simp only [turn, String.isEmpty_iff, hline, if_false]
    cases (sh.execute host handlers line).result <;> simp [h]
  simp only [converse]
  cases (turn host handlers sh (.line line)).next <;> simp [ht]

/-- A run of the loop is a fold of executions. It writes the banner, what the lines show, the prompt
of the shell after them and the notice, as long as the loop knows the kinds of the failed reads and
no command that is called is interrupted. -/
theorem transcript_of_run (host : Host W) (handlers : Handlers) (showsBanner : Bool)
    (sh : Shell W) (reads : List Read)
    (hreads : ∀ fault, .fails fault ∈ reads →
      fault.kind.endsReading = true ∨ fault.kind = .interrupt)
    (hcalls : ∀ b arguments,
      .called b arguments ∈ (run host handlers showsBanner sh reads).events →
        ∀ message, handlers b ≠ .fails ⟨.interrupt, message⟩) :
    let talk := run host handlers showsBanner sh reads
    ∃ lines text last ending tail final left,
      reads = lines.map .line ++ ending ∧
      Shows host handlers sh lines text last ∧
      last = lines.foldl (fun sh line => (sh.execute host handlers line).shell) sh ∧
      Ends host handlers last ending tail final left ∧
      talk.result = .ok () ∧ talk.shell = final ∧ talk.unread = left ∧
      talk.events.count .asked = lines.length + 1 ∧
      talk.events.written =
        (if showsBanner then banner ++ "\n" else "") ++ text ++ last.session.prompt ++ tail ++
          (shutdownNotice ++ "\n") := by
  intro talk
  obtain ⟨lines, text, last, ending, rfl, hshows, hlast⟩ :=
    exists_shows host handlers sh reads
  obtain ⟨shown, hshown, hcount, hrun⟩ := hshows.run_eq showsBanner ending
  have hstop : ∀ line rest fault, ending = .line line :: rest →
      (last.execute host handlers line).result = .error fault → fault.kind = .stop := by
    rintro line rest fault rfl herr
    apply Shell.stop_of_execute_error host handlers last herr
    intro b arguments hcalled
    have hline : line ≠ "" := by
      rintro rfl
      cases herr
    apply hcalls b arguments
    rw [hrun]
    exact List.mem_append_right _ (mem_converse_of_mem_execute hline hcalled)
  obtain ⟨tail, final, left, hends⟩ := exists_ends hlast
    (fun fault h => hreads fault (List.mem_append_right _ h)) hstop
  obtain ⟨events, hconverse, hwritten, hasked⟩ := hends.converse_eq
  have htalk : talk = ⟨.ok (), final, shown ++ events, left⟩ := by
    simp only [talk, hrun, hconverse]
  rw [htalk]
  refine ⟨lines, text, last, ending, tail, final, left, rfl, hshows, hshows.last_eq_foldl, hends,
    rfl, rfl, rfl, ?_, ?_⟩
  · rw [List.count_append, hcount, hasked]
  · rw [Trace.written_append, hshown, hwritten]
    simp only [String.append_assoc]

/-- A run that a failed read ends, in which a directory is gone when it is changed to, a
handler is denied and another one that would interrupt is never called. -/
theorem transcript_of_run_of_refused_read :
    let sh := Shell.start "/" "root" ["/a", "/b"]
    let reads : List Read := [.line "cd /a\n", .line "rm /a /b\n", .line "\t\n", .line "cd /b\n",
      .line "date", .fails ⟨.refused, "gone"⟩, .line "clear"]
    let talk := run Host.removing Handlers.altered true sh reads
    (∀ fault, .fails fault ∈ reads → fault.kind.endsReading = true ∨ fault.kind = .interrupt) ∧
    (∀ b arguments, .called b arguments ∈ talk.events →
      ∀ message, Handlers.altered b ≠ .fails ⟨.interrupt, message⟩) ∧
    ∃ lines text last ending tail final left,
      reads = lines.map .line ++ ending ∧
      Shows Host.removing Handlers.altered sh lines text last ∧
      last = lines.foldl
        (fun sh line => (sh.execute Host.removing Handlers.altered line).shell) sh ∧
      Ends Host.removing Handlers.altered last ending tail final left ∧
      talk.result = .ok () ∧ talk.shell = final ∧ talk.unread = left ∧
      talk.events.count .asked = lines.length + 1 ∧
      talk.events.written =
        banner ++ "\n" ++ text ++ last.session.prompt ++ tail ++ (shutdownNotice ++ "\n") := by
  intro sh reads talk
  have hreads : ∀ fault, .fails fault ∈ reads →
      fault.kind.endsReading = true ∨ fault.kind = .interrupt := by
    intro fault h
    simp only [reads, List.mem_cons, Read.fails.injEq, reduceCtorEq, List.not_mem_nil,
      false_or, or_false] at h
    subst h
    exact Or.inl rfl
  have hcalls : ∀ b arguments, .called b arguments ∈ talk.events →
      ∀ message, Handlers.altered b ≠ .fails ⟨.interrupt, message⟩ := by
    have hnone : ∀ arguments, (Builtin.clear, arguments) ∉ talk.events.calls := by
      have hothers : (talk.events.calls.all fun call => call.1 != .clear) = true := by
        decide +kernel
      intro arguments hm
      exact absurd (List.all_eq_true.mp hothers _ hm) (by simp)
    intro b arguments hm message hb
    cases b <;> simp only [Handlers.altered, Entry.fails.injEq, Fault.mk.injEq, reduceCtorEq,
      false_and] at hb
    exact hnone arguments (Trace.mem_calls_iff.mpr hm)
  exact ⟨hreads, hcalls, transcript_of_run _ _ true sh reads hreads hcalls⟩

end PocketShell.Loop
