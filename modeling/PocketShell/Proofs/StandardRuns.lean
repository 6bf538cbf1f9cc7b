import PocketShell.Proofs.ConsoleLines
import PocketShell.Proofs.Conversations
import PocketShell.Proofs.Faults
import PocketShell.Program

/-!
# Runs with the standard handlers

With the handlers that come with the commands, only `exit` and `quit` end the loop from inside. So
a run on lines executes them up to the first that asks to stop, and everything that it does up to
there follows from the lines one by one: `along` puts together what is said of every line in the
shell that the lines before it left, and the events of a run are those of its rounds.

Main statements: `converse_of_passes`, for lines that do not ask to stop, whatever is read behind
them; `converse_of_stops`, for lines up to one that does; `Program.exists_trace_eq`, for a program
on all that its input comes to.
-/

namespace PocketShell

open Text (Bytes words)

/-- The elements up to the first for which `p` holds, itself included, or all of them. -/
def upToFirst (p : α → Bool) : List α → List α
  | [] => []
  | a :: as => if p a then [a] else a :: upToFirst p as

theorem upToFirst_of_forall {p : α → Bool} {as : List α} (h : ∀ a ∈ as, p a = false) :
    upToFirst p as = as := by
  induction as with
  | nil => rfl
  | cons a as ih =>
      have ha := h a List.mem_cons_self
      simp [upToFirst, ha, ih fun b hb => h b (List.mem_cons_of_mem _ hb)]

theorem mem_of_mem_upToFirst {p : α → Bool} {as : List α} {a : α} (h : a ∈ upToFirst p as) :
    a ∈ as := by
  induction as with
  | nil => exact h
  | cons b as ih =>
      by_cases hb : p b = true
      · simp_all [upToFirst]
      · rw [upToFirst, if_neg hb] at h
        exact List.mem_cons.mpr ((List.mem_cons.mp h).imp_right ih)

theorem upToFirst_append_cons {p : α → Bool} {before : List α} (h : ∀ b ∈ before, p b = false)
    {a : α} (ha : p a = true) (after : List α) :
    upToFirst p (before ++ a :: after) = before ++ [a] := by
  induction before with
  | nil => simp [upToFirst, ha]
  | cons b before ih =>
      have hb := h b List.mem_cons_self
      simp [upToFirst, hb, ih fun c hc => h c (List.mem_cons_of_mem _ hc)]

/-- A list has a first element for which `p` holds, or none at all. -/
theorem forall_or_exists_first (p : α → Bool) (as : List α) :
    (∀ a ∈ as, p a = false) ∨ ∃ before a after, as = before ++ a :: after ∧
      (∀ b ∈ before, p b = false) ∧ p a = true := by
  cases h : as.find? p with
  | none => exact Or.inl (by simpa using h)
  | some a =>
      obtain ⟨ha, before, after, rfl, hbefore⟩ := List.find?_eq_some_iff_append.mp h
      exact Or.inr ⟨before, a, after, rfl, by simpa using hbefore, ha⟩

/-- The lines that are executed. -/
def Trace.executed (t : Trace) : List String :=
  t.filterMap fun | .executing line => some line | _ => none

@[simp] theorem Trace.executed_append (s t : Trace) :
    (s ++ t).executed = s.executed ++ t.executed := List.filterMap_append

/-- A command executes no other line. -/
theorem Trace.executed_of_isCommand {t : Trace} (h : ∀ e ∈ t, e.isCommand = true) :
    t.executed = [] := by
  simp only [executed, List.filterMap_eq_nil_iff]
  intro e he
  have hcommand := h e he
  cases e <;> simp_all [Event.isCommand]

namespace Shell

variable {W : Type u}

/-- Whether a line asks the shell to stop. -/
def asksToStop (line : String) : Bool :=
  (words line).head? == some "exit" || (words line).head? == some "quit"

theorem asksToStop_iff {line : String} :
    asksToStop line = true ↔
      ∃ b arguments, words line = Builtin.name b :: arguments ∧ (b = .exit ∨ b = .quit) := by
  simp only [asksToStop, Bool.or_eq_true, beq_iff_eq, List.head?_eq_some_iff]
  constructor
  · rintro (⟨arguments, h⟩ | ⟨arguments, h⟩)
    · exact ⟨.exit, arguments, h, Or.inl rfl⟩
    · exact ⟨.quit, arguments, h, Or.inr rfl⟩
  · rintro ⟨b, arguments, h, rfl | rfl⟩
    · exact Or.inl ⟨arguments, h⟩
    · exact Or.inr ⟨arguments, h⟩

/-- What leaves the execution of a line is the request to stop, if the line asks for it. -/
theorem execute_standard_eq_error_iff (host : Host W) (sh : Shell W) {line : String}
    {fault : Fault} :
    (sh.execute host .standard line).result = .error fault ↔
      asksToStop line = true ∧ fault = ⟨.stop, ""⟩ := by
  rw [execute_eq_error_iff, asksToStop_iff]
  constructor
  · rintro ⟨hkind, b, arguments, hw, hfaults⟩
    cases hfaults with
    | replaced h => cases h
    | stops h hb => exact ⟨⟨b, arguments, hw, hb⟩, rfl⟩
    | unusable h hz => simp at hkind
  · rintro ⟨⟨b, arguments, hw, hb⟩, rfl⟩
    exact ⟨Or.inl rfl, b, arguments, hw, .stops rfl hb⟩

/-- The shell after lines that are executed one after the other. -/
def afterLines (host : Host W) (sh : Shell W) (lines : List String) : Shell W :=
  lines.foldl (fun sh line => (sh.execute host .standard line).shell) sh

@[simp] theorem afterLines_nil (host : Host W) (sh : Shell W) : sh.afterLines host [] = sh :=
  rfl

@[simp] theorem afterLines_cons (host : Host W) (sh : Shell W) (line : String)
    (lines : List String) :
    sh.afterLines host (line :: lines) =
      (sh.execute host .standard line).shell.afterLines host lines := rfl

@[simp] theorem afterLines_append (host : Host W) (sh : Shell W) (before after : List String) :
    sh.afterLines host (before ++ after) = (sh.afterLines host before).afterLines host after := by
  simp [afterLines]

/-- What is said of lines, line by line, each in the shell that the lines before it left. -/
def along (host : Host W) (tell : Shell W → String → List β) : Shell W → List String → List β
  | _, [] => []
  | sh, line :: lines =>
    tell sh line ++ along host tell (sh.execute host .standard line).shell lines

theorem along_append (host : Host W) (tell : Shell W → String → List β) (sh : Shell W)
    (before after : List String) :
    along host tell sh (before ++ after) =
      along host tell sh before ++ along host tell (sh.afterLines host before) after := by
  induction before generalizing sh with
  | nil => rfl
  | cons line before ih => simp [along, ih]

/-- What is said of lines is said of one of them. -/
theorem exists_mem_of_mem_along {host : Host W} {tell : Shell W → String → List β} {sh : Shell W}
    {lines : List String} {b : β} (h : b ∈ along host tell sh lines) :
    ∃ sh' line, line ∈ lines ∧ b ∈ tell sh' line := by
  induction lines generalizing sh with
  | nil => cases h
  | cons line lines ih =>
      rcases List.mem_append.mp h with hline | hlines
      · exact ⟨sh, line, List.mem_cons_self, hline⟩
      · obtain ⟨sh', line', hline', hb⟩ := ih hlines
        exact ⟨sh', line', List.mem_cons_of_mem _ hline', hb⟩

/-- A view of what is said of lines is put together line by line too. What the view of a line
rests on is handed on from every shell to the next. -/
theorem view_along {host : Host W} (tell : Shell W → String → List β) (view : List β → List γ)
    {seen : Shell W → String → List γ} (Inv : Shell W → List String → Prop) (hnil : view [] = [])
    (happend : ∀ s t, view (s ++ t) = view s ++ view t)
    (hstep : ∀ sh line lines, Inv sh (line :: lines) →
      view (tell sh line) = seen sh line ∧ Inv (sh.execute host .standard line).shell lines)
    {sh : Shell W} {lines : List String} (h : Inv sh lines) :
    view (along host tell sh lines) = along host seen sh lines := by
  induction lines generalizing sh with
  | nil => exact hnil
  | cons line lines ih =>
      obtain ⟨hline, hnext⟩ := hstep sh line lines h
      rw [along, happend, hline, ih hnext, along]

end Shell

namespace Loop

open Shell (along asksToStop)

variable {W : Type u} (host : Host W)

/-- The events of a round of the loop, from the prompt to the text of the command. -/
def round (sh : Shell W) (line : String) : Trace :=
  ask sh ++ (turn host .standard sh (.line line)).events

/-- Lines that do not ask to stop are executed one by one, whatever is read behind them. -/
theorem converse_of_passes {lines : List String}
    (h : ∀ line ∈ lines, line ≠ "" ∧ asksToStop line = false) (sh : Shell W)
    (rest : List Read) :
    converse host .standard sh (lines.map .line ++ rest) =
      { converse host .standard (sh.afterLines host lines) rest with
        events := along host (round host) sh lines ++
          (converse host .standard (sh.afterLines host lines) rest).events } := by
  induction lines generalizing sh with
  | nil => rfl
  | cons line lines ih =>
      obtain ⟨hline, hpass⟩ := h line List.mem_cons_self
      have hlines := ih fun k hk => h k (List.mem_cons_of_mem _ hk)
      cases hr : (sh.execute host .standard line).result with
      | error fault =>
          rw [((Shell.execute_standard_eq_error_iff host sh).mp hr).1] at hpass
          cases hpass
      | ok out =>
          have ht := turn_of_ok hline hr
          rw [List.map_cons, List.cons_append, converse_of_again ht, hlines]
          simp only [along, round, ht, Shell.afterLines_cons, List.append_assoc]

/-- A line that asks to stop is the last one, and what is read behind it is left. -/
theorem converse_of_stops {before : List String}
    (h : ∀ line ∈ before, line ≠ "" ∧ asksToStop line = false) {line : String}
    (hline : line ≠ "") (hstop : asksToStop line = true) (sh : Shell W) (rest : List Read) :
    converse host .standard sh (before.map .line ++ .line line :: rest) =
      ⟨.ok (), sh.afterLines host (before ++ [line]),
        along host (round host) sh (before ++ [line]) ++ closing, rest⟩ := by
  have herr := (Shell.execute_standard_eq_error_iff host (sh.afterLines host before)).mpr
    ⟨hstop, rfl⟩
  have ht := turn_of_error hline herr
  rw [if_pos rfl] at ht
  rw [converse_of_passes host h, converse_of_over ht]
  simp [Shell.along_append, along, round, ht]

/-- At the end of the input, the loop finishes the line of the prompt and closes. -/
theorem converse_nil (sh : Shell W) :
    converse host .standard sh [] = ⟨.ok (), sh, ask sh ++ [.wrote "\n"] ++ closing, []⟩ := rfl

/-- Where the input stops being a text, the loop logs it and closes. -/
theorem converse_undecodable (sh : Shell W) :
    converse host .standard sh [.fails Console.undecodable] =
      ⟨.ok (), sh, ask sh ++ [.logged (.readFailed Console.undecodable)] ++ closing, []⟩ := rfl

/-- A run on the reads of an input, which are lines, and perhaps a read that fails since the
input is no text. The lines are executed up to the first that asks to stop. Behind them the run
only ends, with a record of the failed read if it gets so far. -/
theorem exists_converse_eq {lines : List String} (hne : ∀ line ∈ lines, line ≠ "")
    {tail : List Read} (htail : tail = [] ∨ tail = [.fails Console.undecodable]) (sh : Shell W) :
    ∃ (ending : Trace) (left : List Read),
      converse host .standard sh (lines.map .line ++ tail) =
        ⟨.ok (), sh.afterLines host (upToFirst asksToStop lines),
          along host (round host) sh (upToFirst asksToStop lines) ++ ending, left⟩ ∧
      ending.executed = [] ∧
      (ending.diagnostics .debug = [.record .ended] ∨ tail ≠ [] ∧ ending.diagnostics .debug =
        [.record (.readFailed Console.undecodable), .record .ended]) := by
  rcases forall_or_exists_first asksToStop lines with
    hpass | ⟨before, line, after, rfl, hbefore, hstop⟩
  · have hlines := converse_of_passes host (fun line hl => ⟨hne line hl, hpass line hl⟩) sh tail
    rw [hlines, upToFirst_of_forall hpass]
    rcases htail with rfl | rfl
    · exact ⟨_, _, rfl, rfl, Or.inl rfl⟩
    · exact ⟨_, _, rfl, rfl, Or.inr ⟨by simp, rfl⟩⟩
  · have hlines := converse_of_stops host
      (fun k hk => ⟨hne k (by simp [hk]), hbefore k hk⟩) (hne line (by simp)) hstop sh
      (after.map .line ++ tail)
    rw [List.map_append, List.map_cons, List.append_assoc, List.cons_append, hlines,
      upToFirst_append_cons hbefore hstop]
    exact ⟨_, _, rfl, rfl, Or.inl rfl⟩

/-- A round asks for its line, executes it, and shows the text of the command if there is one. -/
theorem exists_round_eq {line : String} (hline : line ≠ "") (sh : Shell W) :
    ∃ text, round host sh line = ask sh ++
      (.flushed :: .executing line :: (sh.execute host .standard line).events ++ tell text) := by
  cases hr : (sh.execute host .standard line).result with
  | ok text => exact ⟨text, by rw [round, turn_of_ok hline hr]⟩
  | error fault => exact ⟨"", by rw [round, turn_of_error hline hr]; simp [tell]⟩

/-- A round executes its line and nothing else. -/
theorem executed_round {line : String} (hline : line ≠ "") (sh : Shell W) :
    (round host sh line).executed = [line] := by
  have hexecute : (sh.execute host .standard line).events.executed = [] :=
    Trace.executed_of_isCommand fun e he => Shell.isCommand_of_mem_execute host .standard sh he
  obtain ⟨text, hround⟩ := exists_round_eq host hline sh
  rw [hround]
  by_cases htext : text = "" <;> simp_all [ask, tell, Trace.executed]

/-- The lines that rounds execute are their lines. -/
theorem executed_along {lines : List String} (hne : ∀ line ∈ lines, line ≠ "") (sh : Shell W) :
    Trace.executed (along host (round host) sh lines) = lines := by
  induction lines generalizing sh with
  | nil => rfl
  | cons line lines ih =>
      have hline := executed_round host (hne line List.mem_cons_self) sh
      have hlines := fun sh => ih (fun k hk => hne k (List.mem_cons_of_mem _ hk)) sh
      rw [along, Trace.executed_append, hline, hlines, List.singleton_append]

end Loop

namespace Program

variable {W : Type u} (host : Host W)

/-- A command line from which a level comes runs the loop on the whole input. -/
theorem start_of_parse (world : W) {environment : Option String} {arguments : List String}
    {shows : Bool} {level : LogLevel}
    (h : Options.parse environment arguments = .ok (.run shows level)) (input : Bytes) :
    start host world environment arguments input =
      .ran level (Shell.startEvents defaultHome defaultIdentity)
        (Loop.run host .standard shows (Shell.start defaultHome defaultIdentity world)
          (Console.reads input)) := by
  simp only [start, h]

/-- The events of such a program when its reads are lines and perhaps one that fails: those of
the rounds of the lines that it executes, up to the first that asks to stop, between what opens
and what ends the run. -/
theorem exists_trace_eq (world : W) {environment : Option String} {arguments : List String}
    {shows : Bool} {level : LogLevel}
    (h : Options.parse environment arguments = .ok (.run shows level)) {input : Bytes}
    {lines : List String} {tail : List Read}
    (hreads : Console.reads input = lines.map .line ++ tail) (hne : ∀ line ∈ lines, line ≠ "")
    (htail : tail = [] ∨ tail = [.fails Console.undecodable]) :
    let sh := Shell.start defaultHome defaultIdentity world
    let trace := (start host world environment arguments input).trace
    ∃ ending : Trace,
      trace = Shell.startEvents defaultHome defaultIdentity ++ Loop.opening shows ++
        Shell.along host (Loop.round host) sh trace.executed ++ ending ∧
      trace.executed = upToFirst Shell.asksToStop lines ∧
      (ending.diagnostics .debug = [.record .ended] ∨ tail ≠ [] ∧ ending.diagnostics .debug =
        [.record (.readFailed Console.undecodable), .record .ended]) := by
  intro sh trace
  obtain ⟨ending, left, hconverse, hexecuted, hending⟩ :=
    Loop.exists_converse_eq host hne htail sh
  have htrace : trace = Shell.startEvents defaultHome defaultIdentity ++ Loop.opening shows ++
      Shell.along host (Loop.round host) sh (upToFirst Shell.asksToStop lines) ++ ending := by
    simp only [trace, start_of_parse host world h, Program.trace, Loop.run, hreads]
    rw [hconverse, List.append_assoc, List.append_assoc]
  have hlines : trace.executed = upToFirst Shell.asksToStop lines := by
    have hfirst : ∀ line ∈ upToFirst Shell.asksToStop lines, line ≠ "" :=
      fun line hl => hne line (mem_of_mem_upToFirst hl)
    have hrounds := Loop.executed_along host hfirst sh
    have hopening : (Loop.opening shows).executed = [] := by
      cases shows <;> rfl
    rw [htrace, Trace.executed_append, Trace.executed_append, Trace.executed_append, hrounds,
      hopening, hexecuted]
    simp [Shell.startEvents, Trace.executed]
  exact ⟨ending, hlines.symm ▸ htrace, hlines, hending⟩

end Program

end PocketShell
