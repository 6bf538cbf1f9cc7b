import PocketShell.Proofs.DirectoryCommands
import PocketShell.Proofs.Faults

/-!
# Zero characters in paths

The handlers that come with the commands turn what the system refuses into texts of their own. The
one fault that they leave to the shell, apart from the request to stop, is that of `ls` with a path
that has a zero character: `cd` says of such a path that it leads nowhere, but `ls` has no use for
it. Bare `ls` cannot run into the fault, because no shell ever is in a directory with such a path.

`ZeroFree` is what a shell keeps, from step to step and so over any history. `Breaks` lists the
faults of the handler that a line calls, and `breaks_iff` says what they are in such a shell.

Main statement: `Shell.unexpected_of_zero_path_only`.

## Implementation notes

A denied permission leaves no event that only it can leave, and what is told of it could be the text
of `echo`. So what the shell never does with a fault is stated of the faults themselves, and what it
does with the unexpected one also of its record, its text and the shell behind it.
-/

namespace PocketShell.Shell

open Text (words)

variable {W : Type u}

/-- The handler that a line calls has a fault. -/
def Breaks (host : Host W) (sh : Shell W) (line : String) (fault : Fault) : Prop :=
  ∃ b arguments, words line = Builtin.name b :: arguments ∧
    (sh.handle host .standard b arguments).1 = .error fault

/-- A line asks for the names in a directory by a path with a zero character. -/
def ListsZero (line : String) : Prop :=
  ∃ path rest, words line = "ls" :: path :: rest ∧ hasZero path = true

/-- Neither home nor the directory of the session has a zero character in its path. -/
structure ZeroFree (sh : Shell W) : Prop where
  home : hasZero sh.home = false
  directory : hasZero sh.session.workingDirectory = false

/-- Whatever happens to a shell, its paths stay free of zero characters. -/
theorem ZeroFree.undergo {sh : Shell W} (h : ZeroFree sh) (happening : Happening W) :
    ZeroFree (sh.undergo happening) := by
  cases happening with
  | executes host line =>
      constructor
      · simp only [Shell.undergo, execute_home]
        exact h.home
      · exact hasZero_workingDirectory host h.home h.directory line
  | changes world => exact ⟨h.home, h.directory⟩

/-- So they do over any history. -/
theorem ZeroFree.after {sh : Shell W} (h : ZeroFree sh) (history : List (Happening W)) :
    ZeroFree (sh.after history) := by
  induction history generalizing sh with
  | nil => exact h
  | cons happening history ih => exact ih (h.undergo happening)

section Step

variable (host : Host W) (sh : Shell W)

/-- The faults of the handlers that come with the commands, in a shell that is in a directory
without a zero character. -/
theorem breaks_iff (hdirectory : hasZero sh.session.workingDirectory = false) (line : String)
    (fault : Fault) :
    Breaks host sh line fault ↔
      (∃ b arguments, words line = Builtin.name b :: arguments ∧ (b = .exit ∨ b = .quit) ∧
        fault = ⟨.stop, ""⟩) ∨
      ListsZero line ∧ fault = ⟨.badValue, "embedded null byte"⟩ := by
  constructor
  · rintro ⟨b, arguments, hw, hfault⟩
    cases (handle_eq_error_iff host .standard sh).mp hfault with
    | replaced h => cases h
    | stops _ hb => exact Or.inl ⟨b, arguments, hw, hb, rfl⟩
    | unusable _ hz =>
        cases arguments with
        | nil =>
            rw [List.headD_nil, hdirectory] at hz
            cases hz
        | cons path rest => exact Or.inr ⟨⟨path, rest, hw, hz⟩, rfl⟩
  · rintro (⟨b, arguments, hw, hb, rfl⟩ | ⟨⟨path, rest, hw, hz⟩, rfl⟩)
    · exact ⟨b, arguments, hw, (handle_eq_error_iff host .standard sh).mpr (.stops rfl hb)⟩
    · exact ⟨.ls, path :: rest, hw,
        (handle_eq_error_iff host .standard sh).mpr (.unusable rfl hz)⟩

/-- Settling logs the faults that neither pass a command nor deny a permission, and nothing else. -/
theorem mem_settle_iff {result : Except Fault String} {e : Event} :
    e ∈ (settle result).2 ↔ ∃ fault, result = .error fault ∧ fault.kind.passesCommand = false ∧
      fault.kind ≠ .denied ∧ e = .logged (.unexpected fault) := by
  cases result with
  | ok text => simp [settle]
  | error fault =>
      simp only [settle]
      split
      · next hp => simp [hp]
      · next hp =>
          split
          · next hd => simp [hd]
          · next hd => simp [hp, hd]

/-- Whatever comes of a launch is reported at level `debug`. -/
theorem level_of_mem_launchEvents {name : String} {launched : Except LaunchError (Run W)}
    {r : Record} (h : .logged r ∈ launchEvents name launched) : r.level = .debug := by
  cases launched with
  | error e =>
      cases List.mem_singleton.mp h
      rfl
  | ok run =>
      simp only [launchEvents, List.cons_append, List.mem_cons, List.mem_append, List.mem_map,
        List.not_mem_nil, or_false] at h
      rcases h with heq | ⟨write, -, heq⟩ | heq
      · cases heq
        rfl
      · cases heq
      · cases heq
        rfl

/-- A line that executes with a record of level `error` has called a handler with a fault that
neither passes a command nor denies a permission. -/
theorem logged_error_iff {line : String} :
    (∃ r, .logged r ∈ (sh.execute host .standard line).events ∧ r.level = .error) ↔
      ∃ fault, Breaks host sh line fault ∧ fault.kind.passesCommand = false ∧
        fault.kind ≠ .denied := by
  rcases execute_cases host .standard sh line with
    ⟨hw, hx⟩ | ⟨b, arguments, hw, hx⟩ | ⟨name, arguments, hw, hn, hx⟩
  · simp [hx, Breaks, hw]
  · rw [hx]
    simp only [runBuiltin, List.mem_cons, mem_settle_iff]
    constructor
    · rintro ⟨r, heq | heq | ⟨fault, hfault, hp, hd, -⟩, hlevel⟩
      · cases heq
        cases hlevel
      · cases heq
      · exact ⟨fault, ⟨b, arguments, hw, hfault⟩, hp, hd⟩
    · rintro ⟨fault, ⟨c, others, hw', hfault⟩, hp, hd⟩
      obtain ⟨hname, rfl⟩ := List.cons.inj (hw.symm.trans hw')
      obtain rfl := Builtin.name_injective hname
      exact ⟨_, Or.inr (Or.inr ⟨fault, hfault, hp, hd, rfl⟩), rfl⟩
  · rw [hx]
    constructor
    · rintro ⟨r, hr, hlevel⟩
      simp only [runExternal, List.mem_cons] at hr
      rcases hr with heq | heq | hr
      · cases heq
        cases hlevel
      · cases heq
      · rw [level_of_mem_launchEvents hr] at hlevel
        cases hlevel
    · rintro ⟨fault, ⟨b, others, hw', -⟩, -⟩
      have hname : name = b.name := (List.cons.inj (hw.symm.trans hw')).1
      exact absurd hname.symm (Builtin.named?_eq_none_iff.mp hn b)

/-- The listing of a directory that the system refuses names the directory, and tells why. -/
theorem listDirectory_of_refused {path : String} {e : Errno} (hz : hasZero path = false)
    (hrefused : host.list sh.world path = .error e) :
    sh.listDirectory host path =
      .ok ("[sh] ls: cannot open " ++ path ++ ": " ++ e.message ++ "\n") := by
  simp [listDirectory, hz, hrefused]

/-- A line that lists a path with a zero character says so and does nothing else. -/
theorem ListsZero.execute_eq {line : String} (h : ListsZero line) :
    (sh.execute host .standard line).result = .ok "Error: embedded null byte\n" ∧
      (sh.execute host .standard line).shell = sh := by
  obtain ⟨path, rest, hw, hz⟩ := h
  have hlists : Lists sh line path := Or.inl ⟨rest, hw⟩
  obtain ⟨hresult, hshell⟩ := hlists.execute_eq host
  have hfault := (listDirectory_eq_error_iff host sh).mpr ⟨hz, rfl⟩
  rw [hresult, hfault]
  exact ⟨rfl, hshell⟩

end Step

/-- From a home without a zero character, whatever happens to the shell, the handlers that come with
the commands leave it one fault apart from the request to stop: that of `ls` with a path that has a
zero character. All other refusals to `cd` and `ls` are told by their own texts. -/
theorem unexpected_of_zero_path_only {home : String} (hhome : hasZero home = false)
    (identity : String) (world : W) (history : List (Happening W)) :
    let now := (start home identity world).after history
    hasZero now.session.workingDirectory = false ∧
    ∀ (host : Host W) (line : String),
      let step := now.execute host .standard line
      (∀ fault, Breaks host now line fault → fault.kind ≠ .denied) ∧
      ((∃ fault, Breaks host now line fault ∧ fault.kind.passesCommand = false) ↔
        ListsZero line) ∧
      ((∃ r, .logged r ∈ step.events ∧ r.level = .error) ↔ ListsZero line) ∧
      (ListsZero line → step.result = .ok "Error: embedded null byte\n" ∧ step.shell = now) ∧
      (∀ path rest, words line = "cd" :: path :: rest →
        hasZero path = true ∨ host.present now.world path = false →
          step.result = .ok ("[sh] cd: " ++ path ++ ": No such file or directory\n") ∧
          step.shell = now) ∧
      ∀ path e, Lists now line path → hasZero path = false →
        host.list now.world path = .error e →
          step.result = .ok ("[sh] ls: cannot open " ++ path ++ ": " ++ e.message ++ "\n") ∧
          step.shell = now := by
  intro now
  have hfree : ZeroFree now := ZeroFree.after ⟨hhome, hhome⟩ history
  refine ⟨hfree.directory, ?_⟩
  intro host line step
  have hbreaks := breaks_iff host now hfree.directory line
  have hdenied : ∀ fault, Breaks host now line fault → fault.kind ≠ .denied := by
    intro fault h
    rcases (hbreaks fault).mp h with ⟨-, -, -, -, rfl⟩ | ⟨-, rfl⟩
    · intro hkind
      cases hkind
    · intro hkind
      cases hkind
  have hunexpected : (∃ fault, Breaks host now line fault ∧ fault.kind.passesCommand = false) ↔
      ListsZero line := by
    constructor
    · rintro ⟨fault, h, hp⟩
      rcases (hbreaks fault).mp h with ⟨-, -, -, -, rfl⟩ | ⟨hzero, -⟩
      · cases hp
      · exact hzero
    · intro hzero
      exact ⟨_, (hbreaks _).mpr (Or.inr ⟨hzero, rfl⟩), rfl⟩
  refine ⟨hdenied, hunexpected, ?_, fun h => h.execute_eq host now, ?_, ?_⟩
  · rw [logged_error_iff, ← hunexpected]
    constructor
    · rintro ⟨fault, h, hp, -⟩
      exact ⟨fault, h, hp⟩
    · rintro ⟨fault, h, hp⟩
      exact ⟨fault, h, hp, hdenied fault h⟩
  · intro path rest hw hmissing
    have hpath : now.pathExists host path = false := by
      rcases hmissing with hz | hpresent
      · simp [pathExists, hz]
      · simp [pathExists, hpresent]
    exact execute_cd_of_missing host now hw hpath
  · intro path e hlists hz hrefused
    exact hlists.execute_of_text host (listDirectory_of_refused host now hz hrefused)

/-- A shell whose directory was taken away. It logs nothing when it lists the directory, and nothing
when it is told to go to a path with a zero character, but it does when it is to list one. -/
theorem unexpected_of_zero_path_only_of_removal :
    let now := (start "/" "root" ["/a"]).after
      [.executes .removing "cd /a", .executes .removing "rm /a", .executes .removing "cd \x00"]
    hasZero "/" = false ∧ hasZero now.session.workingDirectory = false ∧
    (now.execute .removing .standard "ls").result =
      .ok "[sh] ls: cannot open /a: No such file or directory\n" ∧
    (now.execute .removing .standard "cd /\x00a").result =
      .ok "[sh] cd: /\x00a: No such file or directory\n" ∧
    (now.execute .removing .standard "ls /\x00a /").result = .ok "Error: embedded null byte\n" ∧
    ∃ r, .logged r ∈ (now.execute .removing .standard "ls /\x00a /").events ∧
      r.level = .error := by
  intro now
  have hhome : hasZero "/" = false := by decide +kernel
  obtain ⟨hdirectory, hall⟩ := unexpected_of_zero_path_only hhome "root" ["/a"]
    [.executes Host.removing "cd /a", .executes Host.removing "rm /a",
      .executes Host.removing "cd \x00"]
  obtain ⟨-, -, -, -, -, hls⟩ := hall .removing "ls"
  obtain ⟨-, -, -, -, hcd, -⟩ := hall .removing "cd /\x00a"
  obtain ⟨-, -, hlogged, hzero, -, -⟩ := hall .removing "ls /\x00a /"
  have hlists : Lists now "ls" "/a" := Or.inr ⟨by decide +kernel, by decide +kernel⟩
  have hlistsZero : ListsZero "ls /\x00a /" :=
    ⟨"/\x00a", ["/"], by decide +kernel, by decide +kernel⟩
  have hworld : now.world = [] := by decide +kernel
  have hrefused : Host.removing.list now.world "/a" = .error .noEntry := by
    rw [hworld]
    rfl
  exact ⟨hhome, hdirectory, (hls "/a" .noEntry hlists (by decide +kernel) hrefused).1,
    (hcd "/\x00a" [] (by decide +kernel) (Or.inl (by decide +kernel))).1, (hzero hlistsZero).1,
    hlogged.mpr hlistsZero⟩

end PocketShell.Shell
