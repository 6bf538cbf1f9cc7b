import PocketShell.Program
import PocketShell.Proofs.Conversations

/-!
# Output goes out on time

The shell and its programs share one output, and the shell holds its text back until it
flushes. Held back text could come out behind what a program writes, or not be seen when a line
is asked for. `Trace.OnTime` says that nothing is held back wherever that could be noticed, and
the loop keeps it through every turn and on every way out.

## Implementation notes

The invariant takes the text that waits before a trace, so that it splits at any place. A
trace that is on time from an empty start need not be so behind a text that waits.
-/

namespace PocketShell

open Text (Bytes encode)

/-- The events at which held back text can be noticed: a line is asked for or about to be
executed, a program is launched, or a program writes. -/
def Event.isCheckpoint : Event → Bool
  | .asked | .executing _ | .launching _ _ | .child _ _ => true
  | _ => false

namespace Trace

/-- Nothing waits at any checkpoint of a trace, given what waits before the trace. -/
def OnTime (waiting : String) (t : Trace) : Prop :=
  ∀ before e after, t = before ++ e :: after → e.isCheckpoint = true →
    pending waiting before = ""

/-- What the shell and its programs write to the output, in the order of the events. -/
def inOrder (t : Trace) : Bytes :=
  t.flatMap fun | .wrote text => encode text | .child .output bytes => bytes | _ => []

@[simp] theorem inOrder_append (s t : Trace) : inOrder (s ++ t) = inOrder s ++ inOrder t :=
  List.flatMap_append

theorem onTime_nil (waiting : String) : OnTime waiting [] := by
  intro before e after h
  simp at h

/-- A trace is on time if its first event is, and the others are behind it. -/
theorem onTime_cons_iff {waiting : String} {e : Event} {t : Trace} :
    OnTime waiting (e :: t) ↔
      (e.isCheckpoint = true → waiting = "") ∧ OnTime (pending waiting [e]) t := by
  constructor
  · intro h
    refine ⟨h [] e t rfl, ?_⟩
    intro before c after ht hc
    rw [← pending_append]
    exact h (e :: before) c after (by rw [ht]; rfl) hc
  · rintro ⟨he, ht⟩ before c after h hc
    rcases List.cons_eq_append_iff.mp h with ⟨rfl, hcons⟩ | ⟨before, rfl, htail⟩
    · obtain ⟨rfl, rfl⟩ := List.cons.inj hcons
      exact he hc
    · have := ht before c after htail hc
      rwa [← pending_append] at this

/-- Two traces in a row are on time if the second is behind what the first leaves waiting. -/
theorem OnTime.append {waiting : String} {s t : Trace} (hs : OnTime waiting s)
    (ht : OnTime (pending waiting s) t) : OnTime waiting (s ++ t) := by
  induction s generalizing waiting with
  | nil => exact ht
  | cons e rest ih =>
      obtain ⟨he, hrest⟩ := onTime_cons_iff.mp hs
      refine onTime_cons_iff.mpr ⟨he, ih hrest ?_⟩
      rw [← pending_append]
      exact ht

/-- A command is on time when nothing waits, since it writes nothing itself. -/
theorem onTime_of_isCommand {t : Trace} (h : ∀ e ∈ t, e.isCommand = true) : OnTime "" t := by
  intro before e after ht _
  exact pending_of_isCommand (fun c hc => h c (by simp [ht, hc])) ""

theorem encode_append (s t : String) : encode (s ++ t) = encode s ++ encode t := by
  simp [encode]

/-- What reaches the output of a trace that is on time is in the order of the events. -/
theorem OnTime.terminalFrom_eq {waiting : String} {t : Trace} (h : OnTime waiting t) :
    terminalFrom waiting t = encode waiting ++ inOrder t := by
  induction t generalizing waiting with
  | nil => simp [terminalFrom, inOrder]
  | cons e rest ih =>
      obtain ⟨he, hrest⟩ := onTime_cons_iff.mp h
      have ht := ih hrest
      cases e with
      | wrote text =>
          simp only [pending] at ht
          simp [terminalFrom, ht, inOrder, encode_append]
      | flushed =>
          simp only [pending] at ht
          simp [terminalFrom, ht, inOrder, encode]
      | child stream bytes =>
          obtain rfl := he rfl
          simp only [pending] at ht
          cases stream <;> simp [terminalFrom, ht, inOrder, encode]
      | asked | executing | called | launching | logged =>
          simp only [pending] at ht
          simp [terminalFrom, ht, inOrder]

end Trace

namespace Loop

open Trace (OnTime pending onTime_nil onTime_cons_iff)

variable {W : Type u}

/-- The prompt goes out before the line is asked for, whatever else waits. -/
theorem onTime_ask (waiting : String) (sh : Shell W) :
    OnTime waiting (ask sh) ∧ pending waiting (ask sh) = "" := by
  simp [ask, onTime_cons_iff, onTime_nil, Event.isCheckpoint, pending]

/-- The notice goes out at the end, whatever else waits. -/
theorem onTime_closing (waiting : String) :
    OnTime waiting closing ∧ pending waiting closing = "" := by
  simp [closing, onTime_cons_iff, onTime_nil, Event.isCheckpoint, pending]

/-- The text of a command goes out at once. -/
theorem onTime_tell (text : String) : OnTime "" (tell text) ∧ pending "" (tell text) = "" := by
  by_cases h : text = "" <;>
    simp [tell, h, onTime_cons_iff, onTime_nil, Event.isCheckpoint, pending]

section Turns

variable (host : Host W) (handlers : Handlers)

/-- A line is executed on time when nothing waits. -/
theorem onTime_execute (sh : Shell W) (line : String) :
    OnTime "" (sh.execute host handlers line).events := by
  apply Trace.onTime_of_isCommand
  intro e he
  exact Shell.isCommand_of_mem_execute host handlers sh he

/-- A turn is on time, and it leaves text waiting only if it is the last. -/
theorem onTime_turn (sh : Shell W) (read : Read) :
    OnTime "" (turn host handlers sh read).events ∧
      ((turn host handlers sh read).next ≠ .over →
        pending "" (turn host handlers sh read).events = "") := by
  cases read with
  | fails fault =>
      by_cases hr : fault.kind.endsReading = true
      · rw [turn_of_endsReading hr]
        simp [onTime_cons_iff, onTime_nil, Event.isCheckpoint]
      · by_cases hi : fault.kind = .interrupt
        · rw [turn_of_interrupt hi]
          simp [onTime_cons_iff, onTime_nil, Event.isCheckpoint]
        · rw [turn_of_escape (Bool.eq_false_iff.mpr hr) hi]
          simp [onTime_nil, pending]
  | line line =>
      by_cases hline : line = ""
      · rw [hline, turn_empty]
        simp [onTime_cons_iff, onTime_nil, Event.isCheckpoint]
      · have hrun := onTime_execute host handlers sh line
        cases hr : (sh.execute host handlers line).result with
        | ok out =>
            obtain ⟨htell, hout⟩ := onTime_tell out
            rw [turn_of_ok hline hr]
            constructor
            · simpa [onTime_cons_iff, Event.isCheckpoint, pending] using
                hrun.append (by rwa [Shell.pending_execute])
            · simp [pending, hout]
        | error fault =>
            rw [turn_of_error hline hr]
            constructor
            · simpa [onTime_cons_iff, Event.isCheckpoint, pending] using hrun
            · simp [pending]

/-- A run is on time from the first prompt to its end, and nothing waits behind it, whether the
loop closes or a fault leaves it. -/
theorem onTime_converse (sh : Shell W) (reads : List Read) (waiting : String) :
    OnTime waiting (converse host handlers sh reads).events ∧
      pending waiting (converse host handlers sh reads).events = "" := by
  induction reads generalizing sh waiting with
  | nil =>
      obtain ⟨hask, hprompt⟩ := onTime_ask waiting sh
      obtain ⟨hturn, -⟩ := onTime_turn host handlers sh (.line "")
      obtain ⟨hclose, hnotice⟩ :=
        onTime_closing (pending "" (turn host handlers sh (.line "")).events)
      simp only [converse, Trace.pending_append, hprompt, hnotice]
      refine ⟨(hask.append (by rwa [hprompt])).append ?_, trivial⟩
      rwa [Trace.pending_append, hprompt]
  | cons read rest ih =>
      obtain ⟨hask, hprompt⟩ := onTime_ask waiting sh
      obtain ⟨hturn, hleft⟩ := onTime_turn host handlers sh read
      have hfirst : OnTime waiting (ask sh ++ (turn host handlers sh read).events) :=
        hask.append (by rwa [hprompt])
      -- the three ways to go on: another turn, the notice, or a fault that leaves the run
      rcases hn : turn host handlers sh read with ⟨_ | _ | fault, shell, events⟩
      · rw [hn] at hleft hfirst
        obtain ⟨hlater, hend⟩ := ih shell ""
        have hwait := hleft (by simp)
        rw [converse_of_again hn]
        simp only [Trace.pending_append, hprompt, hwait, hend]
        refine ⟨hfirst.append ?_, trivial⟩
        rwa [Trace.pending_append, hprompt, hwait]
      · rw [hn] at hfirst
        obtain ⟨hclose, hnotice⟩ := onTime_closing (pending "" events)
        rw [converse_of_over hn]
        simp only [Trace.pending_append, hprompt, hnotice]
        refine ⟨hfirst.append ?_, trivial⟩
        rwa [Trace.pending_append, hprompt]
      · rw [hn] at hleft hfirst
        rw [converse_of_escaped hn]
        simp only [Trace.pending_append, hprompt]
        exact ⟨hfirst, hleft (by simp)⟩

/-- The banner waits for the first prompt and goes out with it. -/
theorem onTime_run (showsBanner : Bool) (sh : Shell W) (reads : List Read) :
    OnTime "" (run host handlers showsBanner sh reads).events ∧
      pending "" (run host handlers showsBanner sh reads).events = "" := by
  have hopening : OnTime "" (opening showsBanner) := by
    cases showsBanner <;> simp [opening, onTime_cons_iff, onTime_nil, Event.isCheckpoint]
  obtain ⟨htalk, hend⟩ := onTime_converse host handlers sh reads
    (pending "" (opening showsBanner))
  simp only [run, Trace.pending_append]
  exact ⟨hopening.append htalk, hend⟩

end Turns

end Loop

/-- A program that runs the loop logs its start and runs it on its input. -/
theorem Program.eq_run_of_start {W : Type u} {host : Host W} {world : W}
    {environment : Option String} {arguments : List String} {input : Bytes} {level : LogLevel}
    {startUp : Trace} {talk : Conversation W}
    (h : Program.start host world environment arguments input = .ran level startUp talk) :
    startUp = Shell.startEvents defaultHome defaultIdentity ∧
      ∃ showsBanner, talk = Loop.run host .standard showsBanner
        (Shell.start defaultHome defaultIdentity world) (Console.reads input) := by
  simp only [Program.start] at h
  split at h
  · cases h
  · cases h
  · cases h
  · next showsBanner l _ =>
      cases h
      exact ⟨rfl, showsBanner, rfl⟩

namespace Loop

open Trace (pending inOrder)

/-- Output goes out on time: nothing waits when a line is asked for, when a program is launched or
writes, or when the run is over. So the bytes that reach the output are those that the shell and its
programs write, in the order in which they write them. -/
theorem output_in_order {W : Type u} (host : Host W) (handlers : Handlers) (showsBanner : Bool)
    (sh : Shell W) (reads : List Read) :
    let talk := run host handlers showsBanner sh reads
    (∀ before e after, talk.events = before ++ e :: after → e.isCheckpoint = true →
      pending "" before = "") ∧
    pending "" talk.events = "" ∧ talk.events.terminal = inOrder talk.events ∧
    ∀ environment arguments input level startUp later,
      Program.start host sh.world environment arguments input = .ran level startUp later →
      (Program.start host sh.world environment arguments input).output =
        inOrder (startUp ++ later.events) := by
  intro talk
  obtain ⟨htime, hend⟩ := onTime_run host handlers showsBanner sh reads
  refine ⟨htime, hend, ?_, ?_⟩
  · exact htime.terminalFrom_eq
  · intro environment arguments input level startUp later h
    obtain ⟨rfl, b, rfl⟩ := Program.eq_run_of_start h
    obtain ⟨hmain, -⟩ := onTime_run host .standard b
      (Shell.start defaultHome defaultIdentity sh.world) (Console.reads input)
    have hstart : Trace.OnTime "" (Shell.startEvents defaultHome defaultIdentity) :=
      Trace.onTime_of_isCommand (by simp [Shell.startEvents, Event.isCommand])
    have hall := (hstart.append (t := (run host .standard b _ _).events) hmain).terminalFrom_eq
    rw [h]
    exact hall

/-- A run in which a program writes between two prompts, and a program started on the same
input. -/
theorem output_in_order_of_removal :
    let sh := Shell.start "/" "root" ["/a"]
    let talk := run Host.removing .standard true sh [.line "rm /a\n", .fails ⟨.endOfInput, ""⟩]
    let input := encode "rm /a\n"
    let main := Program.start Host.removing ["/a"] none ["--no-banner"] input
    (∃ before after, talk.events = before ++ .child .output (encode "/a\n") :: after ∧
      pending "" before = "") ∧
    pending "" talk.events = "" ∧
    ∃ startUp later, main = .ran .warning startUp later ∧
      main.output = inOrder (startUp ++ later.events) := by
  intro sh talk input main
  obtain ⟨htime, hend, -, hmain⟩ := output_in_order Host.removing .standard true sh
    [.line "rm /a\n", .fails ⟨.endOfInput, ""⟩]
  have hsplit : talk.events = talk.events.take 9 ++
      .child .output (encode "/a\n") :: talk.events.drop 10 := by decide +kernel
  have hoptions : Options.parse none ["--no-banner"] = .ok (.run false .warning) := by
    rfl
  have hstart : main = .ran .warning (Shell.startEvents defaultHome defaultIdentity)
      (run Host.removing .standard false (Shell.start defaultHome defaultIdentity ["/a"])
        (Console.reads input)) := by
    simp only [main, Program.start, hoptions]
  exact ⟨⟨_, _, hsplit, htime _ _ _ hsplit rfl⟩, hend, _, _, hstart, hmain _ _ _ _ _ _ hstart⟩

end Loop

end PocketShell
