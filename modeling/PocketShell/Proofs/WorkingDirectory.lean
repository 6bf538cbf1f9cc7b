import PocketShell.Proofs.Commands

/-!
# The working directory over a history

The session of a shell is decided by the last line that moved it. A line moves the shell to a
path if it is `cd` with that path first and the path leads somewhere when the line is executed,
and bare `cd` takes it home. Everything else keeps the session.

## Implementation notes

A history gives every line its own host, and lets the world change between lines. Nothing ties
what the machine answers, or its programs do, at one line to what they do at another. A fault
that leaves a line is not kept, so a history goes on behind a command that asks to stop.
-/

namespace PocketShell

open Text (words)

/-- What happens to a shell: it executes a line on a host, or its world changes by itself. -/
inductive Happening (W : Type u) where
  | executes (host : Host W) (line : String)
  | changes (world : W)

namespace Shell

variable {W : Type u}

/-- The shell after something happened to it. -/
def undergo (sh : Shell W) : Happening W → Shell W
  | .executes host line => (sh.execute host .standard line).shell
  | .changes world => { sh with world }

/-- The shell after a history, the earliest happening first. -/
def after (sh : Shell W) (history : List (Happening W)) : Shell W := history.foldl undergo sh

/-- A line moves the shell to a path: its words are `cd` and the path, whatever comes behind,
and the path leads somewhere. -/
def Moves (host : Host W) (sh : Shell W) (line path : String) : Prop :=
  ∃ rest, words line = "cd" :: path :: rest ∧ sh.pathExists host path = true

/-- A line changes the directory: it moves the shell to a path, or it is bare `cd`. -/
def Turns (host : Host W) (sh : Shell W) (line : String) : Prop :=
  (∃ path, Moves host sh line path) ∨ words line = ["cd"]

/-- No line of a history changes the directory. -/
def Stays (sh : Shell W) (history : List (Happening W)) : Prop :=
  ∀ before host line rest, history = before ++ .executes host line :: rest →
    ¬ Turns host (sh.after before) line

/-- A line of the history moved the shell to the path, and no line behind it changed the
directory again. -/
def LastMove (sh : Shell W) (history : List (Happening W)) (path : String) : Prop :=
  ∃ before host line rest, history = before ++ .executes host line :: rest ∧
    Moves host (sh.after before) line path ∧
    Stays (sh.after (before ++ [.executes host line])) rest

/-- Whether a line changes the directory can be told from its first two words. -/
theorem turns_iff {host : Host W} {sh : Shell W} {line : String} :
    Turns host sh line ↔
      (words line).head? = some "cd" ∧
        ∀ path ∈ (words line)[1]?, sh.pathExists host path = true := by
  constructor
  · rintro (⟨path, rest, hw, hp⟩ | hw)
    · simpa [hw] using hp
    · simp [hw]
  · rintro ⟨hcd, hpath⟩
    obtain ⟨arguments, hw⟩ := List.head?_eq_some_iff.mp hcd
    cases arguments with
    | nil => exact Or.inr hw
    | cons path rest => exact Or.inl ⟨path, rest, hw, hpath path (by simp [hw])⟩

instance (host : Host W) (sh : Shell W) (line : String) : Decidable (Turns host sh line) :=
  decidable_of_iff _ turns_iff.symm

@[simp] theorem after_nil (sh : Shell W) : sh.after [] = sh := rfl

@[simp] theorem after_cons (sh : Shell W) (h : Happening W) (history : List (Happening W)) :
    sh.after (h :: history) = (sh.undergo h).after history := rfl

@[simp] theorem after_append (sh : Shell W) (before rest : List (Happening W)) :
    sh.after (before ++ rest) = (sh.after before).after rest := by
  simp [after]

section Execution

variable (host : Host W) (sh : Shell W)

/-- A line that moves the shell to a path says nothing, and keeps the path as it is typed. -/
theorem Moves.execute_eq {line path : String} (h : Moves host sh line path) :
    (sh.execute host .standard line).result = .ok "" ∧
      (sh.execute host .standard line).shell =
        { sh with session := { sh.session with workingDirectory := path } } := by
  obtain ⟨rest, hw, hpath⟩ := h
  have hw : words line = Builtin.cd.name :: path :: rest := hw
  have hhandler : sh.standardHandler host (path :: rest) .cd =
      (.ok "", { sh.session with workingDirectory := path }) := by
    simp [standardHandler, changeDirectory, hpath]
  rw [execute_of_text host sh hw hhandler]
  exact ⟨rfl, rfl⟩

theorem Moves.session_eq {line path : String} (h : Moves host sh line path) :
    (sh.execute host .standard line).shell.session =
      { sh.session with workingDirectory := path } := by
  rw [h.execute_eq.2]

/-- Bare `cd` takes the shell home and says nothing. -/
theorem execute_bare_cd {line : String} (hw : words line = ["cd"]) :
    (sh.execute host .standard line).result = .ok "" ∧
      (sh.execute host .standard line).shell =
        { sh with session := { sh.session with workingDirectory := sh.home } } := by
  have hw : words line = [Builtin.cd.name] := hw
  rw [execute_of_text host sh hw rfl]
  exact ⟨rfl, rfl⟩

theorem session_of_bare {line : String} (h : words line = ["cd"]) :
    (sh.execute host .standard line).shell.session =
      { sh.session with workingDirectory := sh.home } := by
  rw [(execute_bare_cd host sh h).2]

/-- `cd` to a path that leads nowhere names the path, and the shell stays as it is. -/
theorem execute_cd_of_missing {line path : String} {rest : List String}
    (hw : words line = "cd" :: path :: rest) (hpath : sh.pathExists host path = false) :
    (sh.execute host .standard line).result =
        .ok ("[sh] cd: " ++ path ++ ": No such file or directory\n") ∧
      (sh.execute host .standard line).shell = sh := by
  have hw : words line = Builtin.cd.name :: path :: rest := hw
  have hhandler : sh.standardHandler host (path :: rest) .cd =
      (.ok ("[sh] cd: " ++ path ++ ": No such file or directory\n"), sh.session) := by
    simp [standardHandler, changeDirectory, hpath]
  rw [execute_of_text host sh hw hhandler]
  exact ⟨rfl, rfl⟩

/-- Every other line keeps the session, whatever becomes of it. -/
theorem session_of_not_turns {line : String} (h : ¬ Turns host sh line) :
    (sh.execute host .standard line).shell.session = sh.session := by
  rcases execute_cases host .standard sh line with
    ⟨-, hx⟩ | ⟨b, arguments, hw, hx⟩ | ⟨name, arguments, -, -, hx⟩
  · rw [hx]
  · rw [hx]
    simp only [runBuiltin, handle, Handlers.standard]
    cases b with
    | cd =>
        cases arguments with
        | nil => exact absurd (Or.inr hw) h
        | cons path rest =>
            have hpath : sh.pathExists host path = false := by
              rw [← Bool.not_eq_true]
              intro hp
              exact h (Or.inl ⟨path, rest, hw, hp⟩)
            simp [standardHandler, changeDirectory, hpath]
    | exit | quit | help | echo | pwd | ls | whoami | uname | date | clear => rfl
  · rw [hx]
    rfl

end Execution

theorem stays_nil (sh : Shell W) : Stays sh [] := by
  intro before host line rest heq
  simp at heq

/-- A history changes no directory if its first line does not, and the lines behind it do not. -/
theorem stays_cons_iff {sh : Shell W} {h : Happening W} {history : List (Happening W)} :
    Stays sh (h :: history) ↔
      (∀ host line, h = .executes host line → ¬ Turns host sh line) ∧
      Stays (sh.undergo h) history := by
  constructor
  · intro hs
    constructor
    · rintro host line rfl
      exact hs [] host line history rfl
    · intro before host line rest heq
      exact hs (h :: before) host line rest (by rw [heq]; rfl)
  · rintro ⟨hfirst, hlater⟩ before host line rest heq
    rcases List.cons_eq_append_iff.mp heq with ⟨rfl, hcons⟩ | ⟨before, rfl, htail⟩
    · obtain ⟨rfl, -⟩ := List.cons.inj hcons
      exact hfirst host line rfl
    · exact hlater before host line rest htail

instance decidableStays : (sh : Shell W) → (history : List (Happening W)) →
    Decidable (Stays sh history)
  | sh, [] => isTrue (stays_nil sh)
  | sh, .executes host line :: history =>
      have := decidableStays (sh.undergo (.executes host line)) history
      decidable_of_iff
        (¬ Turns host sh line ∧ Stays (sh.undergo (.executes host line)) history)
        (by simp [stays_cons_iff])
  | sh, .changes world :: history =>
      have := decidableStays (sh.undergo (.changes world)) history
      decidable_of_iff (Stays (sh.undergo (.changes world)) history) (by simp [stays_cons_iff])

/-- Home and the name of the user are as they were at the start. -/
theorem after_keeps (sh : Shell W) (history : List (Happening W)) :
    (sh.after history).home = sh.home ∧
      (sh.after history).session.identity = sh.session.identity := by
  induction history generalizing sh with
  | nil => exact ⟨rfl, rfl⟩
  | cons h history ih =>
      obtain ⟨hhome, hidentity⟩ := ih (sh.undergo h)
      rw [after_cons, hhome, hidentity]
      cases h with
      | executes host line =>
          exact ⟨execute_home host .standard sh line, execute_identity host .standard sh line⟩
      | changes world => exact ⟨rfl, rfl⟩

/-- Without a line that changes the directory, the shell keeps its session. -/
theorem Stays.session_eq {sh : Shell W} {history : List (Happening W)} (h : Stays sh history) :
    (sh.after history).session = sh.session := by
  induction history generalizing sh with
  | nil => rfl
  | cons e history ih =>
      obtain ⟨hfirst, hlater⟩ := stays_cons_iff.mp h
      rw [after_cons, ih hlater]
      cases e with
      | executes host line =>
          exact session_of_not_turns host sh (hfirst host line rfl)
      | changes world => rfl

/-- A history has a last line that changes the directory, or none at all. -/
theorem stays_or_exists_last (sh : Shell W) (history : List (Happening W)) :
    Stays sh history ∨
      ∃ before host line rest, history = before ++ .executes host line :: rest ∧
        Turns host (sh.after before) line ∧
        Stays (sh.after (before ++ [.executes host line])) rest := by
  induction history generalizing sh with
  | nil => exact Or.inl (stays_nil sh)
  | cons h history ih =>
      rcases ih (sh.undergo h) with hlater | ⟨before, host, line, rest, heq, hturn, hrest⟩
      · cases h with
        | changes world =>
            refine Or.inl (stays_cons_iff.mpr ⟨?_, hlater⟩)
            intro host line heq
            cases heq
        | executes host line =>
            by_cases hturn : Turns host sh line
            · exact Or.inr ⟨[], host, line, history, rfl, hturn, hlater⟩
            · refine Or.inl (stays_cons_iff.mpr ⟨?_, hlater⟩)
              intro host' line' heq
              cases heq
              exact hturn
      · exact Or.inr ⟨h :: before, host, line, rest, by rw [heq]; rfl, hturn, hrest⟩

/-- The session of a shell over any history. Home and the name of the user never change, and the
working directory is the path that the last line to move the shell was given, or home. All other
lines keep the session, and blank lines and built-in commands keep the world. -/
theorem session_over_history (home identity : String) (world : W)
    (history : List (Happening W)) :
    let now := (start home identity world).after history
    now.home = home ∧ now.session.identity = identity ∧
    (∀ path, LastMove (start home identity world) history path →
      now.session.workingDirectory = path) ∧
    ((∀ path, ¬ LastMove (start home identity world) history path) →
      now.session.workingDirectory = home) ∧
    ∀ (host : Host W) (sh : Shell W) (line : String),
      (¬ Turns host sh line →
        (sh.execute host .standard line).shell.session = sh.session) ∧
      ((words line = [] ∨ ∃ b arguments, words line = Builtin.name b :: arguments) →
        (sh.execute host .standard line).shell.world = sh.world ∧
          (sh.execute host .standard line).events.launches = []) := by
  intro now
  obtain ⟨hhome, hidentity⟩ := after_keeps (start home identity world) history
  refine ⟨hhome, hidentity, ?_, ?_, ?_⟩
  · rintro path ⟨before, host, line, rest, rfl, hmoves, hrest⟩
    simp only [now]
    rw [List.append_cons, after_append, hrest.session_eq, after_append]
    exact congrArg Session.workingDirectory (hmoves.session_eq host _)
  · intro hnone
    rcases stays_or_exists_last (start home identity world) history with
      hstays | ⟨before, host, line, rest, rfl, ⟨path, hmoves⟩ | hbare, hrest⟩
    · simp only [now]
      rw [hstays.session_eq]
      rfl
    · exact absurd ⟨before, host, line, rest, rfl, hmoves, hrest⟩ (hnone path)
    · obtain ⟨hbefore, -⟩ := after_keeps (start home identity world) before
      simp only [now]
      rw [List.append_cons, after_append, hrest.session_eq, after_append]
      exact (congrArg Session.workingDirectory (session_of_bare host _ hbare)).trans hbefore
  · intro host sh line
    exact ⟨session_of_not_turns host sh, execute_keeps_world host .standard sh⟩

/-- A shell that changed to a directory, took the directory away and could not change to it
again is still in it, and so it is when a command asks to stop. -/
theorem session_over_history_of_removal :
    let sh := start "/" "root" ["/a/"]
    let history : List (Happening (List String)) :=
      [.changes ["/", "/a/"], .executes .removing "cd\t/a/ x\n", .executes .removing "rm /a/",
        .executes .removing "cd /a/", .executes .removing "exit"]
    LastMove sh history "/a/" ∧ (sh.after history).session.workingDirectory = "/a/" ∧
      ¬ Turns Host.removing (sh.after (history.take 3)) "cd /a/" ∧
      ((sh.after (history.take 3)).execute .removing .standard "cd /a/").shell.session =
        (sh.after (history.take 3)).session := by
  intro sh history
  obtain ⟨-, -, hmove, -, hkeep⟩ := session_over_history "/" "root" ["/a/"] history
  have hlast : LastMove sh history "/a/" :=
    ⟨history.take 1, .removing, "cd\t/a/ x\n", history.drop 2, rfl,
      ⟨["x"], by decide +kernel, by decide +kernel⟩, by decide +kernel⟩
  have hstay : ¬ Turns Host.removing (sh.after (history.take 3)) "cd /a/" := by decide +kernel
  exact ⟨hlast, hmove _ hlast, hstay, (hkeep _ _ _).1 hstay⟩

end Shell

end PocketShell
