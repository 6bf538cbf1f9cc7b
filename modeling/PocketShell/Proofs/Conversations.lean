import PocketShell.Loop
import PocketShell.Proofs.Commands

/-!
# Conversations, turn by turn

A turn is decided by its read: a failed read and an empty line end the loop, and so does a
command that leaves a fault. All other reads are lines that show a text, and a run begins with a
longest sequence of them, which `Shows` relates to the shells that it passes through.

## Implementation notes

`Shows` names the shell after the lines as well as their text. A statement on the rest of a
run starts from that shell, so no statement has to carry the reads before it along.
-/

namespace PocketShell.Loop

variable {W : Type u} {host : Host W} {handlers : Handlers}

/-- Lines that are executed one after the other without ending the loop, with the text that
they show, for every line the prompt before it and what its execution returned, and with the
shell after the last of them. Every line is executed in the shell that the one before it left. -/
inductive Shows (host : Host W) (handlers : Handlers) :
    Shell W → List String → String → Shell W → Prop
  | nil {sh} : Shows host handlers sh [] "" sh
  | cons {sh line out lines text last} (hline : line ≠ "")
      (hout : (sh.execute host handlers line).result = .ok out)
      (later : Shows host handlers (sh.execute host handlers line).shell lines text last) :
      Shows host handlers sh (line :: lines) (sh.session.prompt ++ out ++ text) last

/-- The ways in which the loop ends by itself, by the reads that are left then: what it writes
behind the last prompt, the shell at the end, and the reads that nobody asks for. -/
inductive Ends (host : Host W) (handlers : Handlers) (sh : Shell W) :
    List Read → String → Shell W → List Read → Prop
  | exhausted : Ends host handlers sh [] "\n" sh []
  | empty {rest} : Ends host handlers sh (.line "" :: rest) "\n" sh rest
  | failed {fault rest} (h : fault.kind.endsReading = true) :
      Ends host handlers sh (.fails fault :: rest) "" sh rest
  | interrupted {fault rest} (h : fault.kind = .interrupt) :
      Ends host handlers sh (.fails fault :: rest) "\n" sh rest
  | stopped {line fault rest} (hline : line ≠ "")
      (herr : (sh.execute host handlers line).result = .error fault)
      (hstop : fault.kind = .stop) :
      Ends host handlers sh (.line line :: rest) "" (sh.execute host handlers line).shell rest

/-- The faults of a read at which the loop ends by itself. -/
theorem exists_ends_of_fails (host : Host W) (handlers : Handlers) (last : Shell W)
    {fault : Fault} (rest : List Read)
    (h : fault.kind.endsReading = true ∨ fault.kind = .interrupt) :
    ∃ tail, Ends host handlers last (.fails fault :: rest) tail last rest := by
  rcases h with h | h
  · exact ⟨"", .failed h⟩
  · exact ⟨"\n", .interrupted h⟩

/-- An empty line is the end of the input and finishes the line of the prompt. -/
theorem turn_empty (sh : Shell W) :
    turn host handlers sh (.line "") = ⟨.over, sh, [.wrote "\n"]⟩ := by
  simp [turn]

/-- A line whose execution returns a text shows it, and the loop goes on. -/
theorem turn_of_ok {sh : Shell W} {line out : String} (hline : line ≠ "")
    (hout : (sh.execute host handlers line).result = .ok out) :
    turn host handlers sh (.line line) =
      ⟨.again, (sh.execute host handlers line).shell,
        .flushed :: .executing line :: (sh.execute host handlers line).events ++ tell out⟩ := by
  simp [turn, hline, hout]

/-- A fault that leaves the execution of a line leaves the loop as well, unless it asks to
stop. -/
theorem turn_of_error {sh : Shell W} {line : String} {fault : Fault} (hline : line ≠ "")
    (herr : (sh.execute host handlers line).result = .error fault) :
    turn host handlers sh (.line line) =
      ⟨if fault.kind = .stop then .over else .escaped fault,
        (sh.execute host handlers line).shell,
        .flushed :: .executing line :: (sh.execute host handlers line).events⟩ := by
  simp [turn, hline, herr]

/-- A failed read of the kinds that end the input is only logged. -/
theorem turn_of_endsReading {sh : Shell W} {fault : Fault}
    (h : fault.kind.endsReading = true) :
    turn host handlers sh (.fails fault) = ⟨.over, sh, [.logged (.readFailed fault)]⟩ := by
  simp only [turn, h, if_true]

/-- The interruption of a read finishes the line of the prompt. -/
theorem turn_of_interrupt {sh : Shell W} {fault : Fault} (h : fault.kind = .interrupt) :
    turn host handlers sh (.fails fault) = ⟨.over, sh, [.wrote "\n"]⟩ := by
  simp [turn, h, Fault.Kind.endsReading]

/-- Every other fault of a read leaves the loop at once. -/
theorem turn_of_escape {sh : Shell W} {fault : Fault} (hr : fault.kind.endsReading = false)
    (hi : fault.kind ≠ .interrupt) :
    turn host handlers sh (.fails fault) = ⟨.escaped fault, sh, []⟩ := by
  simp [turn, hr, hi]

/-- The loop goes on exactly behind a line whose execution returns a text. -/
theorem turn_next_eq_again_iff {sh : Shell W} {read : Read} :
    (turn host handlers sh read).next = .again ↔
      ∃ line out, read = .line line ∧ line ≠ "" ∧
        (sh.execute host handlers line).result = .ok out := by
  constructor
  · intro h
    cases read with
    | fails fault =>
        simp only [turn] at h
        split at h
        · cases h
        · split at h <;> cases h
    | line line =>
        by_cases hline : line = ""
        · rw [hline, turn_empty] at h
          cases h
        · cases hr : (sh.execute host handlers line).result with
          | ok out => exact ⟨line, out, rfl, hline, hr⟩
          | error fault =>
              rw [turn_of_error hline hr] at h
              dsimp only at h
              split at h <;> cases h
  · rintro ⟨line, out, rfl, hline, hout⟩
    rw [turn_of_ok hline hout]

/-- Behind a turn that goes on, the run goes on from the shell that the turn left. -/
theorem converse_of_again {sh next : Shell W} {read : Read} {events : Trace}
    (h : turn host handlers sh read = ⟨.again, next, events⟩) (rest : List Read) :
    converse host handlers sh (read :: rest) =
      { converse host handlers next rest with
        events := ask sh ++ events ++ (converse host handlers next rest).events } := by
  simp only [converse, h]

/-- Behind a turn that is the last, the loop closes and leaves the other reads alone. -/
theorem converse_of_over {sh next : Shell W} {read : Read} {events : Trace}
    (h : turn host handlers sh read = ⟨.over, next, events⟩) (rest : List Read) :
    converse host handlers sh (read :: rest) =
      ⟨.ok (), next, ask sh ++ events ++ closing, rest⟩ := by
  simp only [converse, h]

/-- A fault that leaves a turn leaves the run, and the loop does not close. -/
theorem converse_of_escaped {sh next : Shell W} {read : Read} {fault : Fault} {events : Trace}
    (h : turn host handlers sh read = ⟨.escaped fault, next, events⟩) (rest : List Read) :
    converse host handlers sh (read :: rest) = ⟨.error fault, next, ask sh ++ events, rest⟩ := by
  simp only [converse, h]

/-- The text of a command is shown as it is. -/
@[simp] theorem written_tell (text : String) : (tell text).written = text := by
  by_cases h : text = "" <;> simp [tell, h]

@[simp] theorem count_asked_tell (text : String) : (tell text).count .asked = 0 := by
  by_cases h : text = "" <;> simp [tell, h]

theorem written_opening (showsBanner : Bool) :
    (opening showsBanner).written = if showsBanner then banner ++ "\n" else "" := by
  cases showsBanner <;> simp [opening]

theorem count_asked_opening (showsBanner : Bool) : (opening showsBanner).count .asked = 0 := by
  cases showsBanner <;> simp [opening]

/-- Lines that do not end the loop put what they show in front of the run that follows them. -/
theorem Shows.converse_eq {sh last : Shell W} {lines : List String} {text : String}
    (h : Shows host handlers sh lines text last) (rest : List Read) :
    ∃ shown : Trace, shown.written = text ∧ shown.count .asked = lines.length ∧
      converse host handlers sh (lines.map .line ++ rest) =
        { converse host handlers last rest with
          events := shown ++ (converse host handlers last rest).events } := by
  induction h with
  | nil => exact ⟨[], rfl, rfl, rfl⟩
  | @cons sh line out lines text last hline hout later ih =>
      obtain ⟨shown, hw, hc, he⟩ := ih
      have ht := turn_of_ok hline hout
      refine ⟨ask sh ++ (turn host handlers sh (.line line)).events ++ shown, ?_, ?_, ?_⟩
      · rw [ht]
        simp [ask, hw, String.append_assoc]
      · rw [ht]
        simp [ask, hc]
      · rw [List.map_cons, List.cons_append, converse_of_again ht, he]
        simp [ht, List.append_assoc]

/-- So a run goes on behind such lines as the loop does from the shell after them. -/
theorem Shows.run_eq {sh last : Shell W} {lines : List String} {text : String}
    (h : Shows host handlers sh lines text last) (showsBanner : Bool) (rest : List Read) :
    ∃ shown : Trace,
      shown.written = (if showsBanner then banner ++ "\n" else "") ++ text ∧
      shown.count .asked = lines.length ∧
      run host handlers showsBanner sh (lines.map .line ++ rest) =
        { converse host handlers last rest with
          events := shown ++ (converse host handlers last rest).events } := by
  obtain ⟨shown, hw, hc, he⟩ := h.converse_eq rest
  refine ⟨opening showsBanner ++ shown, ?_, ?_, ?_⟩
  · rw [Trace.written_append, written_opening, hw]
  · rw [List.count_append, count_asked_opening, hc, Nat.zero_add]
  · simp only [run, he, List.append_assoc]

/-- What the loop does from its last prompt on: one more request for a line, and the notice
behind whatever finishes the line of the prompt. -/
theorem Ends.converse_eq {sh final : Shell W} {ending left : List Read} {tail : String}
    (h : Ends host handlers sh ending tail final left) :
    ∃ events : Trace, converse host handlers sh ending = ⟨.ok (), final, events, left⟩ ∧
      events.written = sh.session.prompt ++ tail ++ (shutdownNotice ++ "\n") ∧
      events.count .asked = 1 := by
  cases h with
  | exhausted =>
      refine ⟨_, rfl, ?_⟩
      simp [turn_empty, ask, closing, String.append_assoc]
  | empty =>
      refine ⟨_, converse_of_over (turn_empty sh) left, ?_⟩
      simp [ask, closing, String.append_assoc]
  | failed h =>
      refine ⟨_, converse_of_over (turn_of_endsReading h) left, ?_⟩
      simp [ask, closing]
  | interrupted h =>
      refine ⟨_, converse_of_over (turn_of_interrupt h) left, ?_⟩
      simp [ask, closing, String.append_assoc]
  | @stopped line fault rest hline herr hstop =>
      have ht := turn_of_error hline herr
      rw [if_pos hstop] at ht
      refine ⟨_, converse_of_over ht left, ?_⟩
      simp [ask, closing]

/-- The shell after such lines is that of a fold over them. -/
theorem Shows.last_eq_foldl {sh last : Shell W} {lines : List String} {text : String}
    (h : Shows host handlers sh lines text last) :
    last = lines.foldl (fun sh line => (sh.execute host handlers line).shell) sh := by
  induction h with
  | nil => rfl
  | cons _ _ _ ih => exact ih

/-- Every list of reads begins with lines that do not end the loop, up to a read that does. -/
theorem exists_shows (host : Host W) (handlers : Handlers) (sh : Shell W) (reads : List Read) :
    ∃ lines text last rest, reads = lines.map .line ++ rest ∧
      Shows host handlers sh lines text last ∧
      ∀ read ∈ rest.head?, (turn host handlers last read).next ≠ .again := by
  induction reads generalizing sh with
  | nil => exact ⟨[], "", sh, [], rfl, .nil, by simp⟩
  | cons read reads ih =>
      by_cases h : (turn host handlers sh read).next = .again
      · obtain ⟨line, out, rfl, hline, hout⟩ := turn_next_eq_again_iff.mp h
        obtain ⟨lines, text, last, rest, rfl, hs, hr⟩ := ih (sh.execute host handlers line).shell
        exact ⟨line :: lines, _, last, rest, rfl, .cons hline hout hs, hr⟩
      · exact ⟨[], "", sh, read :: reads, rfl, .nil, by simpa using h⟩

end PocketShell.Loop
