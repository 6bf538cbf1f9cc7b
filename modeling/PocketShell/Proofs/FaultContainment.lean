import PocketShell.Proofs.Conversations
import PocketShell.Proofs.Faults

/-!
# How far a fault goes

Of the faults that leave a command, the loop takes the request to stop as its end, and only the
interruption leaves it. Every other fault stays in its command, and behind it the loop prompts
for the next line.

`converse_eq_error_iff` finds the turn that a fault leaves a run at, and `fault_containment`
follows the faults of handlers through the command and through the loop.
-/

namespace PocketShell.Loop

open Text (words)

variable {W : Type u} {host : Host W} {handlers : Handlers}

/-- Every run begins with a prompt. -/
theorem exists_converse_eq_ask (host : Host W) (handlers : Handlers) (sh : Shell W)
    (reads : List Read) :
    ∃ later, (converse host handlers sh reads).events = ask sh ++ later := by
  cases reads with
  | nil => exact ⟨_, List.append_assoc ..⟩
  | cons read rest =>
      rcases ht : turn host handlers sh read with ⟨_ | _ | fault, shell, events⟩
      · rw [converse_of_again ht]
        exact ⟨_, List.append_assoc ..⟩
      · rw [converse_of_over ht]
        exact ⟨_, List.append_assoc ..⟩
      · rw [converse_of_escaped ht]
        exact ⟨_, rfl⟩

/-- A fault leaves a run exactly if it leaves a turn that the run comes to. -/
theorem converse_eq_error_iff {sh : Shell W} {reads : List Read} {fault : Fault} :
    (converse host handlers sh reads).result = .error fault ↔
      ∃ lines text last read rest, reads = lines.map .line ++ read :: rest ∧
        Shows host handlers sh lines text last ∧
        (turn host handlers last read).next = .escaped fault := by
  constructor
  · intro h
    obtain ⟨lines, text, last, rest, rfl, hshows, hlast⟩ := exists_shows host handlers sh reads
    obtain ⟨shown, -, -, hconverse⟩ := hshows.converse_eq rest
    rw [hconverse] at h
    cases rest with
    | nil => cases h
    | cons read rest =>
        refine ⟨lines, text, last, read, rest, rfl, hshows, ?_⟩
        rcases ht : turn host handlers last read with ⟨_ | _ | f, shell, events⟩
        · exact absurd (by rw [ht]) (hlast read rfl)
        · rw [converse_of_over ht] at h
          cases h
        · rw [converse_of_escaped ht] at h
          cases h
          rfl
  · rintro ⟨lines, text, last, read, rest, rfl, hshows, hnext⟩
    obtain ⟨shown, -, -, hconverse⟩ := hshows.converse_eq (read :: rest)
    rcases ht : turn host handlers last read with ⟨next, shell, events⟩
    rw [ht] at hnext
    subst hnext
    rw [hconverse, converse_of_escaped ht]

/-- The faults that leave the turn of a line are those that leave its execution and do not ask
to stop. -/
theorem turn_line_eq_escaped_iff {sh : Shell W} {line : String} {fault : Fault} :
    (turn host handlers sh (.line line)).next = .escaped fault ↔
      (sh.execute host handlers line).result = .error fault ∧ fault.kind ≠ .stop := by
  by_cases hline : line = ""
  · subst hline
    have hout : (sh.execute host handlers "").result = .ok "" := rfl
    simp [turn_empty, hout]
  · cases hr : (sh.execute host handlers line).result with
    | ok out => simp [turn_of_ok hline hr]
    | error f =>
        rw [turn_of_error hline hr]
        constructor
        · intro h
          dsimp only at h
          split at h
          · cases h
          · next hs =>
              cases h
              exact ⟨rfl, hs⟩
        · rintro ⟨h, hs⟩
          cases h
          exact if_neg hs

/-- Of the faults that leave a command, only an interruption that stands in the table leaves the
turn of its line. -/
theorem turn_line_eq_escaped_iff_interrupt {sh : Shell W} {line : String} {fault : Fault} :
    (turn host handlers sh (.line line)).next = .escaped fault ↔
      fault.kind = .interrupt ∧ ∃ b arguments, words line = Builtin.name b :: arguments ∧
        handlers b = .fails fault := by
  rw [turn_line_eq_escaped_iff, Shell.execute_eq_error_iff]
  constructor
  · rintro ⟨⟨hk, b, arguments, hw, hfaults⟩, hs⟩
    have hi := hk.resolve_left hs
    exact ⟨hi, b, arguments, hw, hfaults.eq_fails_of_interrupt hi⟩
  · rintro ⟨hi, b, arguments, hw, h⟩
    exact ⟨⟨Or.inr hi, b, arguments, hw, .replaced h⟩, by simp [hi]⟩

/-- Behind a line that returned a text, the loop shows it and asks for the next line. -/
theorem Shows.exists_run_eq_tell_ask {sh last : Shell W} {before : List String}
    {text line out : String} (h : Shows host handlers sh before text last) (hline : line ≠ "")
    (hout : (last.execute host handlers line).result = .ok out) (showsBanner : Bool)
    (after : List Read) :
    ∃ shown later : Trace, shown.count .asked = before.length + 1 ∧
      (run host handlers showsBanner sh (before.map .line ++ .line line :: after)).events =
        shown ++ tell out ++ ask (last.execute host handlers line).shell ++ later := by
  obtain ⟨shown, -, hcount, hrun⟩ := h.run_eq showsBanner (.line line :: after)
  have ht := turn_of_ok hline hout
  obtain ⟨later, hlater⟩ :=
    exists_converse_eq_ask host handlers (last.execute host handlers line).shell after
  refine ⟨shown ++ ask last ++
    (.flushed :: .executing line :: (last.execute host handlers line).events), later, ?_, ?_⟩
  · simp [hcount, ask]
  · rw [hrun, converse_of_again ht, hlater]
    simp [List.append_assoc]

/-- Of a run on lines, a fault leaves exactly the one that comes to a line whose handler
interrupts. -/
theorem run_lines_eq_error_iff {showsBanner : Bool} {sh : Shell W} {lines : List String}
    {fault : Fault} :
    (run host handlers showsBanner sh (lines.map .line)).result = .error fault ↔
      fault.kind = .interrupt ∧ ∃ before line after text last b arguments,
        lines = before ++ line :: after ∧ Shows host handlers sh before text last ∧
        words line = Builtin.name b :: arguments ∧ handlers b = .fails fault := by
  have hinj : ∀ l l', Read.line l = Read.line l' → l = l' := fun _ _ => Read.line.inj
  constructor
  · intro h
    obtain ⟨before, text, last, read, rest, heq, hshows, hnext⟩ := converse_eq_error_iff.mp h
    obtain ⟨lines₁, lines₂, rfl, hbefore, hrest⟩ := List.map_eq_append_iff.mp heq
    obtain ⟨line, after, rfl, rfl, rfl⟩ := List.map_eq_cons_iff.mp hrest
    obtain rfl := (List.map_inj_right hinj).mp hbefore
    obtain ⟨hi, b, arguments, hw, hb⟩ := turn_line_eq_escaped_iff_interrupt.mp hnext
    exact ⟨hi, lines₁, line, after, text, last, b, arguments, rfl, hshows, hw, hb⟩
  · rintro ⟨hi, before, line, after, text, last, b, arguments, rfl, hshows, hw, hb⟩
    apply converse_eq_error_iff.mpr
    refine ⟨before, text, last, .line line, after.map .line, by simp, hshows, ?_⟩
    exact turn_line_eq_escaped_iff_interrupt.mpr ⟨hi, b, arguments, hw, hb⟩

/-- How far a fault goes. Only a request to stop and an interruption leave a command, and every
other fault of a handler is told. So a run on lines is left exactly by the interruptions that it
comes to, and behind every other fault the loop prompts for the next line. -/
theorem fault_containment (host : Host W) (handlers : Handlers) :
    (∀ (sh : Shell W) (name : String) (arguments : List String),
      let result := (sh.runWords host handlers (name :: arguments)).result
      (∀ fault, result = .error fault ↔
        (fault.kind = .stop ∨ fault.kind = .interrupt) ∧
          ∃ b, Builtin.name b = name ∧ Shell.Faults handlers sh b arguments fault) ∧
      (∀ b fault, Builtin.name b = name → Shell.Faults handlers sh b arguments fault →
        fault.kind ≠ .stop → fault.kind ≠ .interrupt →
        result = .ok ((if fault.kind = .denied then "PermissionError: " else "Error: ") ++
          fault.message ++ "\n")) ∧
      ((∀ b, Builtin.name b ≠ name) → ∃ outcome, result = .ok (describe name outcome))) ∧
    ∀ (showsBanner : Bool) (sh : Shell W) (lines : List String),
      let talk := run host handlers showsBanner sh (lines.map .line)
      (∀ fault, talk.result = .error fault ↔
        fault.kind = .interrupt ∧ ∃ before line after text last b arguments,
          lines = before ++ line :: after ∧ Shows host handlers sh before text last ∧
          words line = Builtin.name b :: arguments ∧ handlers b = .fails fault) ∧
      ∀ before line after text last, lines = before ++ line :: after →
        Shows host handlers sh before text last → line ≠ "" →
        (∀ b arguments fault, words line = Builtin.name b :: arguments →
          Shell.Faults handlers last b arguments fault →
          fault.kind ≠ .stop ∧ fault.kind ≠ .interrupt) →
        ∃ (out : String) (shown later : Trace),
          (last.execute host handlers line).result = .ok out ∧
          shown.count .asked = before.length + 1 ∧
          talk.events =
            shown ++ tell out ++ ask (last.execute host handlers line).shell ++ later := by
  constructor
  · intro sh name arguments result
    refine ⟨fun fault => Shell.runWords_eq_error_iff host handlers sh, ?_, ?_⟩
    · rintro b fault rfl hfaults hs hi
      exact Shell.runWords_of_faults host handlers sh hfaults hs hi
    · intro hname
      exact Shell.exists_describe_of_external host handlers sh hname arguments
  · intro showsBanner sh lines talk
    refine ⟨fun fault => run_lines_eq_error_iff, ?_⟩
    rintro before line after text last rfl hshows hline hkept
    cases hr : (last.execute host handlers line).result with
    | error fault =>
        obtain ⟨hk, b, arguments, hw, hfaults⟩ :=
          (Shell.execute_eq_error_iff host handlers last).mp hr
        obtain ⟨hs, hi⟩ := hkept b arguments fault hw hfaults
        exact absurd hk (not_or.mpr ⟨hs, hi⟩)
    | ok out =>
        obtain ⟨shown, later, hcount, hevents⟩ :=
          hshows.exists_run_eq_tell_ask hline hr showsBanner (after.map .line)
        refine ⟨out, shown, later, rfl, hcount, ?_⟩
        simp only [talk, List.map_append, List.map_cons]
        exact hevents

/-- A denied date is told and the loop goes on behind it, `ls` tells what it has no use for, and
the command that interrupts ends the run. -/
theorem fault_containment_of_altered :
    let sh := Shell.start "/" "root" ["/a"]
    let lines := ["date now\n", "clear", "pwd"]
    let talk := run Host.removing .altered true sh (lines.map .line)
    (sh.runWords Host.removing .altered ["date", "now"]).result =
      .ok "PermissionError: no clock\n" ∧
    (sh.runWords Host.removing .altered ["ls", "a\x00"]).result =
      .ok "Error: embedded null byte\n" ∧
    talk.result = .error ⟨.interrupt, ""⟩ ∧
    ∃ (out : String) (shown later : Trace),
      (sh.execute Host.removing .altered "date now\n").result = .ok out ∧
      shown.count .asked = 1 ∧
      talk.events = shown ++ tell out ++
        ask (sh.execute Host.removing .altered "date now\n").shell ++ later := by
  intro sh lines talk
  obtain ⟨hcommand, hrun⟩ := fault_containment Host.removing Handlers.altered
  obtain ⟨hescape, hnext⟩ := hrun true sh lines
  have hfirst : words "date now\n" = Builtin.date.name :: ["now"] := by decide +kernel
  have hdate : ∀ b arguments fault, words "date now\n" = Builtin.name b :: arguments →
      Shell.Faults .altered sh b arguments fault → fault = ⟨.denied, "no clock"⟩ := by
    intro b arguments fault hw h
    obtain ⟨hb, -⟩ := List.cons.inj (hfirst.symm.trans hw)
    obtain rfl := Builtin.name_injective hb
    cases h with
    | replaced h => exact (Entry.fails.inj h).symm
    | stops h => cases h
  have hshows : Shows Host.removing .altered sh ["date now\n"] _ _ :=
    .cons (by decide) rfl .nil
  refine ⟨?_, ?_, ?_, ?_⟩
  · exact (hcommand sh "date" ["now"]).2.1 .date ⟨.denied, "no clock"⟩ rfl
      (.replaced rfl) (by decide) (by decide)
  · exact (hcommand sh "ls" ["a\x00"]).2.1 .ls ⟨.badValue, "embedded null byte"⟩ rfl
      (.unusable rfl (by decide)) (by decide) (by decide)
  · exact (hescape ⟨.interrupt, ""⟩).mpr ⟨rfl, ["date now\n"], "clear", ["pwd"], _, _, .clear, [],
      rfl, hshows, by decide +kernel, rfl⟩
  · refine hnext [] "date now\n" ["clear", "pwd"] _ _ rfl .nil (by decide) ?_
    intro b arguments fault hw h
    obtain rfl := hdate b arguments fault hw h
    exact ⟨by decide, by decide⟩

end PocketShell.Loop
