import PocketShell.Proofs.Views
import PocketShell.Proofs.WordsAndGaps
import PocketShell.Shell

/-!
# What executing a line can do

A line is blank, calls a built-in command, or launches a program, and `execute_cases` says what
each of the three comes to. Everything else about commands is derived from it: which events
they cause, and what they keep of the shell.
-/

namespace PocketShell.Builtin

open Text (IsWord words)

/-- The name of a built-in command is a word. -/
theorem isWord_name (b : Builtin) : IsWord b.name := by
  have hall : b.name.toList.all (!Text.isBlank ·) = true := by cases b <;> decide +kernel
  constructor
  · cases b <;> decide
  · intro c hc
    simpa using List.all_eq_true.mp hall c hc

/-- A line that begins with the name of a built-in command and a space calls the command with the
words behind them. -/
theorem words_name_space (b : Builtin) (s : String) :
    words (b.name ++ " " ++ s) = b.name :: words s :=
  Text.words_word_space b.isWord_name s

end PocketShell.Builtin

namespace PocketShell.Shell

open Text (words)

variable {W : Type u} (host : Host W) (handlers : Handlers) (sh : Shell W)

/-- A command that is called by its name is carried out. -/
theorem runWords_of_builtin (b : Builtin) (arguments : List String) :
    sh.runWords host handlers (b.name :: arguments) =
      sh.runBuiltin host handlers b arguments := by
  have hn : Builtin.named? b.name = some b := Builtin.named?_eq_some_iff.mpr rfl
  simp only [runWords, hn]

/-- A name of no built-in command is launched. -/
theorem runWords_of_external {name : String} (hn : Builtin.named? name = none)
    (arguments : List String) :
    sh.runWords host handlers (name :: arguments) = sh.runExternal host name arguments := by
  simp only [runWords, hn]

/-- A blank line does nothing. -/
theorem execute_of_blank {line : String} (h : words line = []) :
    sh.execute host handlers line = ⟨.ok "", sh, []⟩ := by
  simp only [execute, h, runWords]

/-- The first word decides that a line calls a built-in command. -/
theorem execute_of_builtin {line : String} {b : Builtin} {arguments : List String}
    (h : words line = b.name :: arguments) :
    sh.execute host handlers line = sh.runBuiltin host handlers b arguments := by
  rw [execute, h, runWords_of_builtin]

/-- A built-in command whose own handler has a text returns that text, and only the session of the
shell can be another one behind it. -/
theorem execute_of_text {line : String} {b : Builtin} {arguments : List String} {text : String}
    {session : Session} (hw : words line = b.name :: arguments)
    (h : sh.standardHandler host arguments b = (.ok text, session)) :
    sh.execute host .standard line =
      ⟨.ok text, { sh with session },
        [.logged (.dispatched b.name true), .called b arguments]⟩ := by
  rw [execute_of_builtin host .standard sh hw]
  simp only [runBuiltin, handle, Handlers.standard, h, settle]

/-- A first word that names no built-in command is launched. -/
theorem execute_of_external {line name : String} {arguments : List String}
    (h : words line = name :: arguments) (hn : Builtin.named? name = none) :
    sh.execute host handlers line = sh.runExternal host name arguments := by
  rw [execute, h, runWords_of_external host handlers sh hn]

/-- The three things that a line can be. -/
theorem execute_cases (line : String) :
    (words line = [] ∧ sh.execute host handlers line = ⟨.ok "", sh, []⟩) ∨
    (∃ b arguments, words line = b.name :: arguments ∧
      sh.execute host handlers line = sh.runBuiltin host handlers b arguments) ∨
    (∃ name arguments, words line = name :: arguments ∧ Builtin.named? name = none ∧
      sh.execute host handlers line = sh.runExternal host name arguments) := by
  cases hw : words line with
  | nil => exact Or.inl ⟨rfl, execute_of_blank host handlers sh hw⟩
  | cons name arguments =>
      cases hn : Builtin.named? name with
      | none =>
          have hx := execute_of_external host handlers sh hw hn
          exact Or.inr (Or.inr ⟨name, arguments, rfl, hn, hx⟩)
      | some b =>
          obtain rfl := Builtin.named?_eq_some_iff.mp hn
          exact Or.inr (Or.inl ⟨b, arguments, rfl, execute_of_builtin host handlers sh hw⟩)

/-- Settling the result of a handler causes no event but records. -/
theorem eq_logged_of_mem_settle {result : Except Fault String} {e : Event}
    (h : e ∈ (settle result).2) : ∃ r, e = .logged r := by
  cases result with
  | ok text => simp [settle] at h
  | error f =>
      simp only [settle] at h
      split at h
      · simp at h
      · split at h
        · simp at h
        · exact ⟨_, List.mem_singleton.mp h⟩

/-- A launch causes records and what the program writes. -/
theorem isCommand_of_mem_launchEvents {name : String} {launched : Except LaunchError (Run W)}
    {e : Event} (h : e ∈ launchEvents name launched) : e.isCommand = true := by
  cases launched with
  | error r =>
      obtain rfl := List.mem_singleton.mp h
      rfl
  | ok run =>
      simp only [launchEvents, List.cons_append, List.mem_cons, List.mem_append, List.mem_map,
        List.not_mem_nil, or_false] at h
      rcases h with rfl | ⟨write, -, rfl⟩ | rfl <;> rfl

/-- Executing a line causes no event of the loop. -/
theorem isCommand_of_mem_execute {line : String} {e : Event}
    (h : e ∈ (sh.execute host handlers line).events) : e.isCommand = true := by
  rcases execute_cases host handlers sh line with
    ⟨-, hx⟩ | ⟨b, arguments, -, hx⟩ | ⟨name, arguments, -, -, hx⟩
  · simp [hx] at h
  · simp only [hx, runBuiltin, List.mem_cons] at h
    rcases h with rfl | rfl | h
    · rfl
    · rfl
    · obtain ⟨r, rfl⟩ := eq_logged_of_mem_settle h
      rfl
  · simp only [hx, runExternal, List.mem_cons] at h
    rcases h with rfl | rfl | h
    · rfl
    · rfl
    · exact isCommand_of_mem_launchEvents h

/-- Executing a line writes nothing to the output of the shell. -/
@[simp] theorem written_execute (line : String) :
    (sh.execute host handlers line).events.written = "" := by
  apply Trace.written_of_isCommand
  intro e he
  exact isCommand_of_mem_execute host handlers sh he

/-- Executing a line asks for no other line. -/
@[simp] theorem count_asked_execute (line : String) :
    (sh.execute host handlers line).events.count .asked = 0 := by
  apply Trace.count_asked_of_isCommand
  intro e he
  exact isCommand_of_mem_execute host handlers sh he

/-- Executing a line leaves what waits in the output as it is. -/
@[simp] theorem pending_execute (line waiting : String) :
    Trace.pending waiting (sh.execute host handlers line).events = waiting := by
  apply Trace.pending_of_isCommand
  intro e he
  exact isCommand_of_mem_execute host handlers sh he

/-- No command changes what home is. -/
theorem execute_home (line : String) : (sh.execute host handlers line).shell.home = sh.home := by
  rcases execute_cases host handlers sh line with
    ⟨-, hx⟩ | ⟨b, arguments, -, hx⟩ | ⟨name, arguments, -, -, hx⟩ <;> rw [hx] <;> rfl

/-- The handlers that come with the commands change no name of a user. -/
theorem standardHandler_identity (b : Builtin) (arguments : List String) :
    (sh.standardHandler host arguments b).2.identity = sh.session.identity := by
  cases b with
  | cd =>
      cases arguments with
      | nil => rfl
      | cons path rest =>
          simp only [standardHandler, changeDirectory]
          split <;> rfl
  | exit | quit | help | echo | pwd | ls | whoami | uname | date | clear => rfl

/-- No command changes the name of the user. -/
theorem execute_identity (line : String) :
    (sh.execute host handlers line).shell.session.identity = sh.session.identity := by
  rcases execute_cases host handlers sh line with
    ⟨-, hx⟩ | ⟨b, arguments, -, hx⟩ | ⟨name, arguments, -, -, hx⟩
  · rw [hx]
  · rw [hx]
    simp only [runBuiltin, handle]
    cases handlers b with
    | standard => exact standardHandler_identity host sh b arguments
    | returns text => rfl
    | fails fault => rfl
  · rw [hx]
    rfl

/-- No command leaves the session in a directory with a zero character in its name. -/
theorem hasZero_workingDirectory {sh : Shell W} (hhome : hasZero sh.home = false)
    (h : hasZero sh.session.workingDirectory = false) (line : String) :
    hasZero (sh.execute host .standard line).shell.session.workingDirectory = false := by
  rcases execute_cases host .standard sh line with
    ⟨-, hx⟩ | ⟨b, arguments, -, hx⟩ | ⟨name, arguments, -, -, hx⟩
  · rwa [hx]
  · rw [hx]
    cases b with
    | cd =>
        cases arguments with
        | nil => exact hhome
        | cons path rest =>
            simp only [runBuiltin, handle, Handlers.standard, standardHandler, changeDirectory]
            split
            · next hexists =>
                simp only [pathExists, Bool.and_eq_true, Bool.not_eq_true'] at hexists
                exact hexists.1
            · exact h
    | exit | quit | help | echo | pwd | ls | whoami | uname | date | clear => exact h
  · rwa [hx]

/-- A blank line and a built-in command leave the world alone and launch no program. -/
theorem execute_keeps_world {line : String}
    (h : words line = [] ∨ ∃ b arguments, words line = Builtin.name b :: arguments) :
    (sh.execute host handlers line).shell.world = sh.world ∧
      (sh.execute host handlers line).events.launches = [] := by
  rcases h with h | ⟨b, arguments, h⟩
  · rw [execute_of_blank host handlers sh h]
    exact ⟨rfl, rfl⟩
  · rw [execute_of_builtin host handlers sh h]
    refine ⟨rfl, ?_⟩
    simp only [runBuiltin, Trace.launches, List.filterMap_cons, List.filterMap_eq_nil_iff]
    intro e he
    obtain ⟨r, rfl⟩ := eq_logged_of_mem_settle he
    rfl

end PocketShell.Shell

namespace PocketShell

/-- A small machine for the instances of general statements. Its world is the list of the paths
that lead somewhere, and its one program, `rm`, shows its arguments and takes them away. -/
def Host.removing : Host (List String) where
  present world path := world.contains path
  list world path := if world.contains path then .ok [] else .error .noEntry
  searchPath := ["/usr/bin", "/bin"]
  execute world path arguments :=
    if path = "/bin/rm" then
      .ok ⟨some "rm", 0, arguments.tail.map fun a => (.output, Text.encode (a ++ "\n")),
        world.filter (· ∉ arguments.tail)⟩
    else .error .noEntry

/-- A table for the same purpose: the date is denied, the name of the system is another one,
and clearing the screen interrupts. -/
def Handlers.altered : Handlers
  | .date => .fails ⟨.denied, "no clock"⟩
  | .uname => .returns "box\n"
  | .clear => .fails ⟨.interrupt, ""⟩
  | _ => .standard

end PocketShell
