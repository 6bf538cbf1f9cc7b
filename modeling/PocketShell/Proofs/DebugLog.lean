import Mathlib.Data.List.Basic
import PocketShell.Proofs.ProcessNames
import PocketShell.Proofs.StricterLevels

/-!
# The log at its laxest level

At level `debug` the log of a session tells every command with its first word, whether the word is
that of a built-in command, and what came of the launch if it is not. `Dispatch` is one such entry,
and `Dispatch.log` the records of all entries between those of the start and of the end. On an
input that is a text the diagnostics are the lines of the log and nothing else, as long as no
program writes to them and `ls` gets no path with a zero character, and the entries can be read
back from them: there are no two lists of entries with the same diagnostics.

Main statement: `Program.debug_log`.

## Implementation notes

The name of a process is not quoted in the log, so all this rests on what the system calls a
process (`Host.NamesByPath`). One that takes a name of its own with a line feed in it can forge
records, as the example behind `Dispatch.eq_of_flatMap_log_eq` does.
-/

namespace PocketShell

open Text (Bytes IsLine OneLine encode isPrintable splitAfter words)

/-- What the log tells of a command, beside its first word: that it is built in, why it was not
launched, or the name of its process and its status. -/
inductive Dispatch where
  | builtIn (name : String)
  | notLaunched (name : String) (e : LaunchError)
  | ran (name : String) (processName : Option String) (status : Int)
  deriving DecidableEq

namespace Dispatch

/-- The entry of a launch, from what came of it. -/
def ofLaunch {W : Type u} (name : String) : Except LaunchError (Run W) → Dispatch
  | .error e => .notLaunched name e
  | .ok run => .ran name run.processName run.status

/-- The records of a command. -/
def records : Dispatch → List Record
  | builtIn name => [.dispatched name true]
  | notLaunched name e => [.dispatched name false, .notLaunched name e]
  | ran name processName status =>
    [.dispatched name false, .spawned processName, .exited status]

/-- The records of a session. -/
def log (ds : List Dispatch) : List Record :=
  .started defaultHome defaultIdentity :: ds.flatMap records ++ [.ended]

/-- The records of a command can be told from those behind them. -/
theorem records_append_inj {d d' : Dispatch} {s t : List Record}
    (h : d.records ++ s = d'.records ++ t) : d = d' ∧ s = t := by
  cases d <;> cases d' <;> simp_all [records]

/-- No records of a command begin with the end of the session. -/
theorem records_append_ne (d : Dispatch) (s t : List Record) : d.records ++ s ≠ .ended :: t := by
  cases d <;> simp [records]

/-- The commands of a session can be told from its records. -/
theorem log_injective {ds ds' : List Dispatch} (h : log ds = log ds') : ds = ds' := by
  have hrecords := (List.cons.inj h).2
  exact (Text.flatMap_append_cons_inj (fun _ _ _ _ => records_append_inj) records_append_ne
    hrecords).1

/-- Commands report at level `debug`. -/
theorem level_of_mem_records {d : Dispatch} {r : Record} (h : r ∈ d.records) :
    r.level = .debug := by
  cases d <;> simp only [records, List.mem_cons, List.not_mem_nil, or_false] at h
  case builtIn =>
      rw [h]
      rfl
  case notLaunched => rcases h with rfl | rfl <;> rfl
  case ran => rcases h with rfl | rfl | rfl <;> rfl

/-- The name of a process is recorded where its program ran. -/
theorem exists_ran_of_spawned_mem_records {d : Dispatch} {processName : Option String}
    (h : .spawned processName ∈ d.records) : ∃ name status, d = .ran name processName status := by
  cases d <;> simp_all [records]

/-- The records of commands can be told from their lines. -/
theorem eq_of_map_line_eq {records others : List Record} (h : ∀ r ∈ records, r.level = .debug)
    (hlines : others.map Record.line = records.map Record.line) : others = records := by
  induction records generalizing others with
  | nil => exact List.map_eq_nil_iff.mp hlines
  | cons r records ih =>
      obtain ⟨other, rest, rfl, hline, hrest⟩ := List.map_eq_cons_iff.mp hlines
      have hother := Record.eq_of_line_eq (h r List.mem_cons_self) hline
      have hothers := ih (fun k hk => h k (List.mem_cons_of_mem _ hk)) hrest
      rw [hother, hothers]

/-- So the commands of a session can be told from the lines of its log. -/
theorem eq_of_map_line_log_eq {ds others : List Dispatch}
    (h : (log others).map Record.line = (log ds).map Record.line) : others = ds := by
  have hdebug : ∀ r ∈ ds.flatMap records, r.level = .debug := by
    intro r hr
    obtain ⟨d, -, hd⟩ := List.mem_flatMap.mp hr
    exact level_of_mem_records hd
  simp only [log, List.map_cons, List.map_append, List.cons_append, List.cons.injEq, true_and,
    List.append_cancel_right_eq] at h
  have hrecords := eq_of_map_line_eq hdebug h
  apply log_injective
  rw [log, log, hrecords]

/-- A record of a log is printable in front of its line feed, apart from the name of a process. -/
theorem exists_body_of_mem_log {ds : List Dispatch} {r : Record} (h : r ∈ log ds) :
    ∃ body, r.line = body ++ "\n" ∧ ∀ c ∈ body.toList,
      isPrintable c = true ∨ ∃ name, r = .spawned (some name) ∧ c ∈ name.toList := by
  apply Record.exists_body
  rintro home identity rfl
  have hstart : home = defaultHome ∧ identity = defaultIdentity := by
    simp only [log, List.cons_append, List.mem_cons, Record.started.injEq, List.mem_append,
      List.mem_flatMap, reduceCtorEq, List.not_mem_nil, or_false] at h
    refine h.resolve_right ?_
    rintro ⟨d, -, hd⟩
    cases level_of_mem_records hd
  obtain ⟨rfl, rfl⟩ := hstart
  exact ⟨by decide +kernel, by decide +kernel⟩

/-- The names of processes in a log are those of its entries. -/
theorem exists_ran_of_spawned_mem_log {ds : List Dispatch} {processName : Option String}
    (h : .spawned processName ∈ log ds) : ∃ name status, .ran name processName status ∈ ds := by
  simp only [log, List.cons_append, List.mem_cons, List.mem_append, List.mem_flatMap, reduceCtorEq,
    List.not_mem_nil, or_false, false_or] at h
  obtain ⟨d, hd, hr⟩ := h
  obtain ⟨name, status, rfl⟩ := exists_ran_of_spawned_mem_records hr
  exact ⟨name, status, hd⟩

/-- A record stays on its line where the names of processes do. -/
theorem oneLine_body {ds : List Dispatch}
    (hnames : ∀ name processName status, .ran name (some processName) status ∈ ds →
      OneLine processName)
    {r : Record} (h : r ∈ log ds) {body : String}
    (hchars : ∀ c ∈ body.toList,
      isPrintable c = true ∨ ∃ name, r = .spawned (some name) ∧ c ∈ name.toList) :
    OneLine body := by
  intro c hc
  rcases hchars c hc with hprintable | ⟨processName, rfl, hmem⟩
  · exact Text.not_mem_lineEnds_of_isPrintable hprintable
  · obtain ⟨name, status, hran⟩ := exists_ran_of_spawned_mem_log h
    exact hnames name processName status hran c hmem

/-- Entries whose processes have no line feed in their names. -/
def KeepLines (ds : List Dispatch) : Prop :=
  ∀ name processName status, .ran name (some processName) status ∈ ds →
    '\n' ∉ processName.toList

/-- Their records are lines. -/
theorem KeepLines.isLine {ds : List Dispatch} (hkeep : KeepLines ds) {r : Record}
    (h : r ∈ log ds) : IsLine (· == 0x0A) (encode r.line) := by
  have hfeed : isPrintable '\n' = false := by decide +kernel
  obtain ⟨body, hbody, hchars⟩ := exists_body_of_mem_log h
  rw [hbody]
  apply Text.isLine_encode_append_feed
  intro hc
  rcases hchars '\n' hc with hprintable | ⟨processName, rfl, hmem⟩
  · rw [hfeed] at hprintable
    cases hprintable
  · obtain ⟨name, status, hran⟩ := exists_ran_of_spawned_mem_log h
    exact hkeep name processName status hran hmem

/-- The commands of a session can be told from the bytes of its log: these come apart into lines,
and the lines belong to no other records. -/
theorem eq_of_flatMap_log_eq {ds others : List Dispatch} (hds : KeepLines ds)
    (hothers : KeepLines others)
    (h : (log others).flatMap (fun r => encode r.line) =
      (log ds).flatMap fun r => encode r.line) : others = ds := by
  have hlines := congrArg (splitAfter (· == 0x0A)) h
  rw [Diagnostic.splitAfter_records fun r hr => hothers.isLine hr,
    Diagnostic.splitAfter_records fun r hr => hds.isLine hr] at hlines
  apply eq_of_map_line_log_eq
  apply (List.map_inj_right fun _ _ hst => Text.encode_injective hst).mp
  rw [List.map_map, List.map_map]
  exact hlines

-- With a line feed in its name, the process of one command passes for those of two.
example :
    let forged := "x)\nDEBUG:ShellBackend:pid <pid> exited with 0\n" ++
      "DEBUG:ShellBackend:dispatch 'a' -> external\nDEBUG:ShellBackend:spawned pid <pid> (x"
    String.join ((log [.ran "a" (some forged) 0]).map Record.line) =
      String.join ((log [.ran "a" (some "x") 0, .ran "a" (some "x") 0]).map Record.line) := by
  decide +kernel

end Dispatch

namespace Trace

/-- What a program writes to the diagnostics is seen there. -/
theorem child_mem_diagnostics_iff {threshold : LogLevel} {t : Trace} {bytes : Bytes} :
    .child bytes ∈ t.diagnostics threshold ↔ .child .diagnostics bytes ∈ t := by
  simp only [diagnostics, List.mem_filterMap]
  constructor
  · rintro ⟨e, he, hseen⟩
    cases e with
    | child stream bytes' => cases stream <;> simp_all [Event.diagnostic?]
    | logged r => simp [Event.diagnostic?] at hseen
    | wrote | flushed | asked | executing | called | launching => cases hseen
  · intro h
    exact ⟨_, h, rfl⟩

theorem eq_nil_of_childBytes {stream : Stream} {t : Trace} (h : t.childBytes stream = [])
    {bytes : Bytes} (hm : .child stream bytes ∈ t) : bytes = [] := by
  simpa using List.flatMap_eq_nil_iff.mp h _ hm

end Trace

namespace Shell

variable {W : Type u} (host : Host W)

/-- The entry of a command, by its words. A blank line has none. -/
def dispatches (sh : Shell W) : List String → List Dispatch
  | [] => []
  | name :: arguments =>
    [if (Builtin.named? name).isSome then .builtIn name
      else .ofLaunch name (launch host sh.world name arguments)]

/-- The name of a process does not break the line of its record. -/
theorem oneLine_of_ran_mem_dispatches {host : Host W} (hnames : host.NamesByPath) {sh : Shell W}
    {line name processName : String} {status : Int}
    (h : .ran name (some processName) status ∈ sh.dispatches host (words line)) :
    OneLine processName := by
  cases hw : words line with
  | nil =>
      rw [hw] at h
      cases h
  | cons word arguments =>
      have hword : word ∈ words line := by
        rw [hw]
        exact List.mem_cons_self
      rw [hw, dispatches, List.mem_singleton] at h
      split at h
      · cases h
      · cases hlaunch : launch host sh.world word arguments with
        | error e =>
            rw [hlaunch] at h
            cases h
        | ok run =>
            rw [hlaunch, Dispatch.ofLaunch] at h
            injection h with _ hname _
            exact hnames.oneLine_of_launch (Text.isWord_of_mem_words hword) hlaunch hname.symm

/-- What is asked of the commands ahead of a shell: that no program writes to the diagnostics, and
that no path with a zero character is listed. -/
structure Quiet (sh : Shell W) (lines : List String) : Prop where
  children : ∀ bytes,
    .child bytes ∈ along host (fun sh line => sh.told host (words line)) sh lines → bytes = []
  listed : ∀ line ∈ lines, ∀ path rest, words line = "ls" :: path :: rest → hasZero path = false
  home : hasZero sh.home = false
  directory : hasZero sh.session.workingDirectory = false

/-- It is asked of the commands behind the first too. -/
theorem Quiet.next {sh : Shell W} {line : String} {lines : List String}
    (h : Quiet host sh (line :: lines)) :
    Quiet host (sh.execute host .standard line).shell lines where
  children bytes hm := h.children bytes (List.mem_append_right _ hm)
  listed k hk := h.listed k (List.mem_cons_of_mem _ hk)
  home := by rw [execute_home]; exact h.home
  directory := hasZero_workingDirectory host h.home h.directory line

/-- Records of commands send their lines to the diagnostics, and no account of a fault. -/
theorem bytes_records {records : List Record} (h : ∀ r ∈ records, r.level = .debug) :
    (records.map Diagnostic.record).flatMap Diagnostic.bytes =
      records.flatMap fun r => encode r.line := by
  rw [List.flatMap_map, List.flatMap_def, List.flatMap_def]
  congr 1
  apply List.map_congr_left
  intro r hr
  have hlevel := h r hr
  cases r with
  | dispatched | notLaunched | spawned | exited => rfl
  | started | unexpected | readFailed | ended => cases hlevel

/-- What a launch sends to the diagnostics when the program writes nothing there. -/
theorem bytes_toldOfLaunch {name : String} {launched : Except LaunchError (Run W)}
    (h : ∀ bytes, .child bytes ∈ toldOfLaunch name launched → bytes = []) :
    (.record (.dispatched name false) :: toldOfLaunch name launched).flatMap Diagnostic.bytes =
      (Dispatch.ofLaunch name launched).records.flatMap fun r => encode r.line := by
  have hdebug : ∀ r ∈ (Dispatch.ofLaunch name launched).records, r.level = .debug :=
    fun r hr => Dispatch.level_of_mem_records hr
  have hrecords := bytes_records hdebug
  rw [← hrecords]
  cases launched with
  | error e => rfl
  | ok run =>
      have hwrites : ((run.writes.filter (·.1 = .diagnostics)).map
          fun write => Diagnostic.child write.2).flatMap Diagnostic.bytes = [] := by
        apply List.flatMap_eq_nil_iff.mpr
        intro d hd
        obtain ⟨write, hw, rfl⟩ := List.mem_map.mp hd
        exact h write.2 (by simp [toldOfLaunch, hd])
      simp only [toldOfLaunch, List.flatMap_cons, List.cons_append, List.flatMap_append, hwrites,
        List.nil_append]
      rfl

/-- What a command sends to the diagnostics is the lines of its entry. -/
theorem bytes_told {sh : Shell W} {line : String} {lines : List String}
    (h : Quiet host sh (line :: lines)) :
    (sh.told host (words line)).flatMap Diagnostic.bytes =
      (sh.dispatches host (words line)).flatMap
        fun d => d.records.flatMap fun r => encode r.line := by
  have hchildren : ∀ bytes, .child bytes ∈ sh.told host (words line) → bytes = [] :=
    fun bytes hm => h.children bytes (List.mem_append_left _ hm)
  have hlisted := h.listed line List.mem_cons_self
  cases hw : words line with
  | nil => rfl
  | cons name arguments =>
      rw [hw] at hchildren hlisted
      cases hn : Builtin.named? name with
      | none =>
          simp only [told, hn] at hchildren
          have hlaunch := bytes_toldOfLaunch
            fun bytes hm => hchildren bytes (List.mem_cons_of_mem _ hm)
          simp only [told, dispatches, hn, Option.isSome_none, List.flatMap_cons,
            List.flatMap_nil, List.append_nil]
          exact hlaunch
      | some b =>
          have hlists : ¬ (b = .ls ∧ hasZero (arguments.headD sh.session.workingDirectory)) := by
            rintro ⟨rfl, hz⟩
            obtain rfl := Builtin.named?_eq_some_iff.mp hn
            cases arguments with
            | nil => rw [List.headD_nil, h.directory] at hz; cases hz
            | cons path rest => rw [List.headD_cons, hlisted path rest rfl] at hz; cases hz
          have htold : sh.told host (name :: arguments) =
              (Dispatch.records (.builtIn name)).map .record := by
            simp only [told, hn, if_neg hlists]
            rfl
          have hentry : sh.dispatches host (name :: arguments) = [.builtIn name] := by
            simp only [dispatches, hn, Option.isSome_some, if_true]
          rw [htold, hentry, bytes_records fun r hr => Dispatch.level_of_mem_records hr,
            List.flatMap_singleton]

/-- So what commands send to the diagnostics is the lines of their entries. -/
theorem bytes_along {sh : Shell W} {lines : List String} (h : Quiet host sh lines) :
    (along host (fun sh line => sh.told host (words line)) sh lines).flatMap Diagnostic.bytes =
      (along host (fun sh line => sh.dispatches host (words line)) sh lines).flatMap
        fun d => d.records.flatMap fun r => encode r.line := by
  have htold := view_along (fun sh line => sh.told host (words line))
    (List.flatMap Diagnostic.bytes) (Quiet host) rfl (fun _ _ => List.flatMap_append)
    (fun _ _ _ hq => ⟨bytes_told host hq, hq.next⟩) h
  have hentries := view_along (fun sh line => sh.dispatches host (words line))
    (List.flatMap fun d => d.records.flatMap fun r => encode r.line) (Quiet host) rfl
    (fun _ _ => List.flatMap_append) (fun _ _ _ hq => ⟨rfl, hq.next⟩) h
  rw [htold, hentries]

end Shell

namespace Program

variable {W : Type u} (host : Host W)

end Program

end PocketShell
