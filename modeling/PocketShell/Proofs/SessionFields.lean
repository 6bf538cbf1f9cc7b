import PocketShell.Proofs.WorkingDirectory

/-!
# What a line can tell of the session

Two shells in one world can differ in their homes and in their sessions. A line tells them apart
only by a field that its command reads: `pwd` and bare `ls` read the working directory, `whoami`
reads the name of the user. No other command reads the session, so paths and programs mean the
same in both shells, and the worlds stay equal whatever the shells are told.

Bare `cd` is the one line that reads home, and it shows nothing of it. It only makes the working
directories differ, and the next move to a path makes them equal again.

## Implementation notes

The two shells undergo one history, so every line is executed on the same host in both, and the
world changes in both alike. Nothing is assumed of the two shells but their common world.
-/

namespace PocketShell.Shell

open Text (words)

variable {W : Type u}

/-- The command of a line reads the working directory. -/
def ReadsDirectory (line : String) : Prop :=
  (words line).head? = some "pwd" ∨ words line = ["ls"]

/-- The command of a line reads the name of the user. -/
def ReadsIdentity (line : String) : Prop := (words line).head? = some "whoami"

instance (line : String) : Decidable (ReadsDirectory line) :=
  inferInstanceAs (Decidable (_ ∨ _))

instance (line : String) : Decidable (ReadsIdentity line) :=
  inferInstanceAs (Decidable (_ = _))

section Step

variable (host : Host W) {a b : Shell W} (hworld : a.world = b.world)

include hworld

/-- Whether a path leads anywhere depends on the world alone. -/
theorem pathExists_congr (path : String) : a.pathExists host path = b.pathExists host path := by
  simp only [pathExists, hworld]

/-- So does what a directory holds. -/
theorem listDirectory_congr (path : String) :
    a.listDirectory host path = b.listDirectory host path := by
  simp only [listDirectory, hworld]

/-- What changing the directory tells depends on the world alone. -/
theorem changeDirectory_congr (arguments : List String) :
    (a.changeDirectory host arguments).1 = (b.changeDirectory host arguments).1 := by
  cases arguments with
  | nil => rfl
  | cons path rest =>
      simp only [changeDirectory, pathExists_congr host hworld path]
      split <;> rfl

/-- What a handler tells depends on the world, and on a field of the session only if its command
reads that field. -/
theorem standardHandler_congr {line : String} {c : Builtin} {arguments : List String}
    (hw : words line = c.name :: arguments)
    (hdirectory : ReadsDirectory line →
      a.session.workingDirectory = b.session.workingDirectory)
    (hidentity : ReadsIdentity line → a.session.identity = b.session.identity) :
    (a.standardHandler host arguments c).1 = (b.standardHandler host arguments c).1 := by
  cases c with
  | pwd =>
      have hread : ReadsDirectory line := Or.inl (by rw [hw]; rfl)
      simp only [standardHandler, hdirectory hread]
  | whoami =>
      have hread : ReadsIdentity line := by
        rw [ReadsIdentity, hw]
        rfl
      simp only [standardHandler, hidentity hread]
  | ls =>
      cases arguments with
      | nil =>
          have hread : ReadsDirectory line := Or.inr hw
          simp only [standardHandler, hdirectory hread]
          exact listDirectory_congr host hworld _
      | cons path rest => exact listDirectory_congr host hworld path
  | cd =>
      simp only [standardHandler]
      exact congrArg Except.ok (changeDirectory_congr host hworld arguments)
  | exit | quit | help | echo | uname | date | clear => rfl

/-- Two shells in one world tell the same of a line, cause the same events and leave the same
world, if they agree on every field of the session that its command reads. -/
theorem execute_congr {line : String}
    (hdirectory : ReadsDirectory line →
      a.session.workingDirectory = b.session.workingDirectory)
    (hidentity : ReadsIdentity line → a.session.identity = b.session.identity) :
    (a.execute host .standard line).result = (b.execute host .standard line).result ∧
      (a.execute host .standard line).events = (b.execute host .standard line).events := by
  rcases execute_cases host .standard a line with
    ⟨hw, hx⟩ | ⟨c, arguments, hw, hx⟩ | ⟨name, arguments, hw, hn, hx⟩
  · rw [hx, execute_of_blank host .standard b hw]
    exact ⟨rfl, rfl⟩
  · have hsame := standardHandler_congr host hworld hw hdirectory hidentity
    rw [hx, execute_of_builtin host .standard b hw]
    simp only [runBuiltin, handle, Handlers.standard, hsame, and_self]
  · rw [hx, execute_of_external host .standard b hw hn]
    simp only [runExternal, hworld, and_self]

/-- A line leaves two shells in one world in one world, whatever it reads. -/
theorem execute_world_congr (line : String) :
    (a.execute host .standard line).shell.world =
      (b.execute host .standard line).shell.world := by
  rcases execute_cases host .standard a line with
    ⟨hw, hx⟩ | ⟨c, arguments, hw, hx⟩ | ⟨name, arguments, hw, hn, hx⟩
  · rw [hx, execute_of_blank host .standard b hw]
    exact hworld
  · rw [hx, execute_of_builtin host .standard b hw]
    exact hworld
  · rw [hx, execute_of_external host .standard b hw hn]
    simp only [runExternal, hworld]

/-- A line that moves one of the shells to a path moves the other there too. -/
theorem Moves.congr {line path : String} (h : Moves host a line path) :
    Moves host b line path := by
  obtain ⟨rest, hw, hpath⟩ := h
  exact ⟨rest, hw, by rwa [← pathExists_congr host hworld path]⟩

/-- Two shells in one world and one directory stay in one directory, unless a line takes both
of them home. -/
theorem execute_directory_congr {line : String}
    (hdirectory : a.session.workingDirectory = b.session.workingDirectory)
    (hbare : words line ≠ ["cd"]) :
    (a.execute host .standard line).shell.session.workingDirectory =
      (b.execute host .standard line).shell.session.workingDirectory := by
  by_cases hturns : Turns host a line
  · obtain ⟨path, hmoves⟩ := hturns.resolve_right hbare
    rw [hmoves.session_eq host a, (hmoves.congr host hworld).session_eq host b]
  · have hstays : ¬ Turns host b line := by
      rintro (⟨path, hmoves⟩ | hcd)
      · exact hturns (Or.inl ⟨path, hmoves.congr host hworld.symm⟩)
      · exact hbare hcd
    rw [session_of_not_turns host a hturns, session_of_not_turns host b hstays]
    exact hdirectory

end Step

/-- Two shells that start in one world are in one world after any history. -/
theorem after_world_congr {a b : Shell W} (hworld : a.world = b.world)
    (history : List (Happening W)) : (a.after history).world = (b.after history).world := by
  induction history generalizing a b with
  | nil => exact hworld
  | cons h history ih =>
      rw [after_cons, after_cons]
      apply ih
      cases h with
      | executes host line => exact execute_world_congr host hworld line
      | changes world => rfl

/-- Two shells in one world and one directory stay in one directory over a history without a line
that takes them home. -/
theorem after_directory_congr {a b : Shell W} (hworld : a.world = b.world)
    (hdirectory : a.session.workingDirectory = b.session.workingDirectory)
    {history : List (Happening W)}
    (hbare : ∀ host line, .executes host line ∈ history → words line ≠ ["cd"]) :
    (a.after history).session.workingDirectory =
      (b.after history).session.workingDirectory := by
  induction history generalizing a b with
  | nil => exact hdirectory
  | cons h history ih =>
      have hlater : ∀ host line, .executes host line ∈ history → words line ≠ ["cd"] :=
        fun host line hm => hbare host line (List.mem_cons_of_mem _ hm)
      rw [after_cons, after_cons]
      cases h with
      | executes host line =>
          have hfirst := hbare host line List.mem_cons_self
          exact ih (execute_world_congr host hworld line)
            (execute_directory_congr host hworld hdirectory hfirst) hlater
      | changes world => exact ih rfl hdirectory hlater

/-- The sessions of two shells do not interfere with what the shells do. Over any history the worlds
stay equal, lines that do not read the session do the same in both, and a line that moves both to a
path makes their directories the same up to the next bare `cd`. -/
theorem session_noninterference (world : W) (home home' : String) (session session' : Session)
    (history : List (Happening W)) :
    let a := (Shell.mk home session world).after history
    let b := (Shell.mk home' session' world).after history
    (∀ (host : Host W) (line : String),
      (a.execute host .standard line).shell.world =
        (b.execute host .standard line).shell.world ∧
      (¬ ReadsDirectory line → ¬ ReadsIdentity line →
        (a.execute host .standard line).result = (b.execute host .standard line).result ∧
        (a.execute host .standard line).events = (b.execute host .standard line).events)) ∧
    ∀ before mover move path later, history = before ++ .executes mover move :: later →
      Moves mover ((Shell.mk home session world).after before) move path →
      (∀ host line, .executes host line ∈ later → words line ≠ ["cd"]) →
      a.session.workingDirectory = b.session.workingDirectory ∧
      ∀ (host : Host W) (line : String), ¬ ReadsIdentity line →
        (a.execute host .standard line).result = (b.execute host .standard line).result ∧
        (a.execute host .standard line).events = (b.execute host .standard line).events := by
  intro a b
  have hworld : a.world = b.world :=
    after_world_congr (a := ⟨home, session, world⟩) (b := ⟨home', session', world⟩) rfl history
  constructor
  · intro host line
    refine ⟨execute_world_congr host hworld line, ?_⟩
    intro hdirectory hidentity
    exact execute_congr host hworld (absurd · hdirectory) (absurd · hidentity)
  · rintro before mover move path later rfl hmoves hbare
    have hstart := after_world_congr (a := ⟨home, session, world⟩)
      (b := ⟨home', session', world⟩) rfl before
    have hmoved : a.session.workingDirectory = b.session.workingDirectory := by
      simp only [a, b, after_append, after_cons, undergo]
      apply after_directory_congr (execute_world_congr mover hstart move) _ hbare
      rw [hmoves.session_eq, (hmoves.congr mover hstart).session_eq]
    refine ⟨hmoved, ?_⟩
    intro host line hidentity
    exact execute_congr host hworld (fun _ => hmoved) (absurd · hidentity)

/-- Two shells with nothing but the world in common remove the same file with the same events,
and list the same directory once both have changed to it. -/
theorem session_noninterference_of_removal :
    let world := ["/a", "/b"]
    let history : List (Happening (List String)) :=
      [.executes .removing "cd /a", .executes .removing "rm /b"]
    let a := (Shell.mk "/" ⟨"/b", "root"⟩ world).after history
    let b := (Shell.mk "/home" ⟨"/c", "guest"⟩ world).after history
    ¬ ReadsDirectory "rm /a" ∧ ¬ ReadsIdentity "rm /a" ∧
    (a.execute .removing .standard "rm /a").events =
      (b.execute .removing .standard "rm /a").events ∧
    Moves .removing (Shell.mk "/" ⟨"/b", "root"⟩ world) "cd /a" "/a" ∧
    a.session.workingDirectory = b.session.workingDirectory ∧
    (a.execute .removing .standard "ls").result =
      (b.execute .removing .standard "ls").result := by
  intro world history a b
  obtain ⟨hstep, hmove⟩ := session_noninterference world "/" "/home" ⟨"/b", "root"⟩
    ⟨"/c", "guest"⟩ history
  have hdirectory : ¬ ReadsDirectory "rm /a" := by decide +kernel
  have hidentity : ¬ ReadsIdentity "rm /a" := by decide +kernel
  have hmoves : Moves .removing (Shell.mk "/" ⟨"/b", "root"⟩ world) "cd /a" "/a" :=
    ⟨[], by decide +kernel, by decide +kernel⟩
  have hbare : ∀ host line,
      .executes host line ∈ [Happening.executes Host.removing "rm /b"] →
        words line ≠ ["cd"] := by
    intro host line hm
    obtain ⟨rfl, rfl⟩ := Happening.executes.inj (List.mem_singleton.mp hm)
    decide +kernel
  obtain ⟨hsame, hlist⟩ := hmove [] .removing "cd /a" "/a" _ rfl hmoves hbare
  have hls : ¬ ReadsIdentity "ls" := by decide +kernel
  exact ⟨hdirectory, hidentity, ((hstep .removing "rm /a").2 hdirectory hidentity).2, hmoves,
    hsame, (hlist .removing "ls" hls).1⟩

end PocketShell.Shell
