import PocketShell.Proofs.FlushOrder

/-!
# Reads that fail

A read can fail behind any number of lines. The loop knows the refusals of the system, input
that is not a text, and the interruption, and ends at them as at the end of its input. It does
not know a fault that reports the end of the input: that one leaves the loop behind a prompt
that nothing finishes.
-/

namespace PocketShell.Loop

variable {W : Type u} {host : Host W} {handlers : Handlers}

/-- A run that is over as it should be behind a failed read: no fault leaves it, the shell is
the one from before the read, the reads behind it are left, and the notice is the last of what
went out. -/
structure EndsGracefully (talk : Conversation W) (last : Shell W) (rest : List Read) : Prop where
  result : talk.result = .ok ()
  shell : talk.shell = last
  unread : talk.unread = rest
  notice : ∃ text, talk.events.written = text ++ (shutdownNotice ++ "\n")
  flushed : Trace.pending "" talk.events = ""

/-- Every other fault of a read leaves the loop behind the prompt. -/
theorem converse_of_escape {last : Shell W} {fault : Fault} (rest : List Read)
    (h : ¬ (fault.kind.endsReading = true ∨ fault.kind = .interrupt)) :
    converse host handlers last (.fails fault :: rest) =
      ⟨.error fault, last, ask last, rest⟩ := by
  obtain ⟨hr, hi⟩ := not_or.mp h
  rw [converse_of_escaped (turn_of_escape (Bool.eq_false_iff.mpr hr) hi), List.append_nil]

/-- A read that fails ends the run gracefully exactly if the loop knows its fault. Otherwise the
fault leaves the run, behind one more prompt, and no other read is asked for. -/
theorem endsGracefully_iff (showsBanner : Bool) {sh last : Shell W} {lines : List String}
    {text : String} (hshows : Shows host handlers sh lines text last) (fault : Fault)
    (rest : List Read) :
    let talk := run host handlers showsBanner sh (lines.map .line ++ .fails fault :: rest)
    (EndsGracefully talk last rest ↔
      fault.kind.endsReading = true ∨ fault.kind = .interrupt) ∧
    (¬ (fault.kind.endsReading = true ∨ fault.kind = .interrupt) →
      talk.result = .error fault ∧ talk.shell = last ∧ talk.unread = rest ∧
      talk.events.written =
        (if showsBanner then banner ++ "\n" else "") ++ text ++ last.session.prompt) := by
  intro talk
  obtain ⟨shown, hshown, -, hrun⟩ := hshows.run_eq showsBanner (.fails fault :: rest)
  have hescape : ¬ (fault.kind.endsReading = true ∨ fault.kind = .interrupt) →
      talk = ⟨.error fault, last, shown ++ ask last, rest⟩ := by
    intro h
    simp only [talk, hrun, converse_of_escape rest h]
  refine ⟨⟨?_, ?_⟩, ?_⟩
  · intro hgrace
    apply Decidable.byContradiction
    intro h
    have hresult := hgrace.result
    rw [hescape h] at hresult
    cases hresult
  · intro h
    obtain ⟨tail, hends⟩ := exists_ends_of_fails host handlers last rest h
    obtain ⟨events, hconverse, hwritten, -⟩ := hends.converse_eq
    have htalk : talk = ⟨.ok (), last, shown ++ events, rest⟩ := by
      simp only [talk, hrun, hconverse]
    have hflushed : Trace.pending "" talk.events = "" :=
      (onTime_run host handlers showsBanner sh _).2
    have hnotice : talk.events.written =
        shown.written ++ (last.session.prompt ++ tail) ++ (shutdownNotice ++ "\n") := by
      rw [htalk, Trace.written_append, hwritten, ← String.append_assoc]
    exact ⟨by rw [htalk], by rw [htalk], by rw [htalk], ⟨_, hnotice⟩, hflushed⟩
  · intro h
    rw [hescape h]
    refine ⟨rfl, rfl, rfl, ?_⟩
    rw [Trace.written_append, hshown]
    simp [ask]

/-- Behind a command that was denied, a run is over gracefully when the input is gone, and not
when a read reports its end. -/
theorem endsGracefully_iff_of_altered :
    let sh := Shell.start "/" "root" ["/a"]
    let failing (fault : Fault) := run Host.removing .altered true sh
      ([Read.line "cd /a", .line "date\n"] ++ .fails fault :: [.line "pwd"])
    ∃ text last, Shows Host.removing .altered sh ["cd /a", "date\n"] text last ∧
      EndsGracefully (failing ⟨.missing, "gone"⟩) last [.line "pwd"] ∧
      (failing ⟨.endOfInput, "end"⟩).result = .error ⟨.endOfInput, "end"⟩ := by
  intro sh failing
  have hshows : Shows Host.removing .altered sh ["cd /a", "date\n"] _ _ :=
    .cons (by decide) rfl (.cons (by decide) rfl .nil)
  obtain ⟨hgone, -⟩ := endsGracefully_iff true hshows ⟨.missing, "gone"⟩ [.line "pwd"]
  obtain ⟨-, hend⟩ := endsGracefully_iff true hshows ⟨.endOfInput, "end"⟩ [.line "pwd"]
  exact ⟨_, _, hshows, hgone.mpr (Or.inl rfl), (hend (by decide)).1⟩

/-- Not every failed read that reports a refusal, an input that is no text, an interruption or
the end of the input ends the run gracefully: the first read of a run can report the end. -/
theorem not_endsGracefully_of_endOfInput :
    ¬ ∀ (sh last : Shell (List String)) (lines : List String) (text : String) (fault : Fault)
        (rest : List Read), Shows Host.removing .standard sh lines text last →
        fault.kind = .endOfInput ∨ fault.kind.endsReading = true ∨ fault.kind = .interrupt →
        EndsGracefully
          (run Host.removing .standard false sh (lines.map .line ++ .fails fault :: rest))
          last rest := by
  intro h
  have hgrace := h (Shell.start defaultHome defaultIdentity []) _ [] _ ⟨.endOfInput, ""⟩ []
    .nil (Or.inl rfl)
  cases hgrace.result

end PocketShell.Loop
